import VuePrecompiler.Build.Pipeline

/-!
# What the steps of a task can do

`Replaces` lists all that the treatment of one binding can come to, and
`ReplacesEach` and `Rewrites` do so for a list of bindings and for a module.
The inversion lemmas below open the steps, so that properties of the edits and of
the registry can be read off these relations.
-/

namespace VuePrecompiler.Build

open Files Source Binding Javascript

namespace TemplateState

/-- The state with one more diagnostic. -/
def reported (state : TemplateState) (diagnostic : Diagnostic) : TemplateState :=
  { state with diagnostics := state.diagnostics ++ [diagnostic] }

/-- The path under which the next render module of a template is registered. -/
def nextPath (shop : Workshop) (state : TemplateState) (template : Path) : Path :=
  renderModulePath template (shop.id state.compiled.length)

/-- The module that is handed to the registry for the render function of a template. -/
def nextModule (shop : Workshop) (state : TemplateState) (template : Path)
    (function : String) : RegisteredModule :=
  ⟨state.nextPath shop template, "utf8", renderModuleText function⟩

/-- The state with the render module of one more template, handed over once. -/
def registered (shop : Workshop) (state : TemplateState) (template : Path)
    (function : String) : TemplateState :=
  { state with
    registry := state.registry.insert (state.nextModule shop template function)
    compiled := state.compiled ++ [(template, state.nextPath shop template)]
    registrations := state.registrations ++ [state.nextModule shop template function] }

section

variable (shop : Workshop) (state : TemplateState) (template : Path)
  (function : String)

theorem registered_registry :
    (state.registered shop template function).registry =
      state.registry.insert (state.nextModule shop template function) := rfl

theorem registered_registrations :
    (state.registered shop template function).registrations =
      state.registrations ++ [state.nextModule shop template function] := rfl

end

end TemplateState

namespace Step

/-- What a step comes to in a state, and the state behind it. -/
def outcome {α : Type} (step : Step α) (state : TemplateState) :
    Except TaskError α × TemplateState :=
  step.run.run state

theorem outcome_pure {α : Type} (value : α) (state : TemplateState) :
    outcome (pure value) state = (.ok value, state) := rfl

theorem outcome_bind {α β : Type} (first : Step α) (next : α → Step β)
    (state : TemplateState) :
    outcome (first >>= next) state =
      match outcome first state with
      | (.ok value, after) => outcome (next value) after
      | (.error error, after) => (.error error, after) := by
  show (ExceptT.bind first next) state = _
  simp only [outcome, ExceptT.run, StateT.run, ExceptT.bind, ExceptT.mk,
    bind, StateT.bind]
  rcases first state with ⟨result, after⟩
  cases result <;> rfl

theorem outcome_get_bind {β : Type} (next : TemplateState → Step β)
    (state : TemplateState) :
    outcome (get >>= next) state = outcome (next state) state := rfl

end Step

open Step

/-- All that asking for the render module of a template can come to. -/
inductive Renders (shop : Workshop) (template : Path) (state : TemplateState) :
    Except TaskError (Option Path) × TemplateState → Prop where
  /-- The template was compiled before. -/
  | known {render : Path} :
      state.compiled.lookup template = some render →
      Renders shop template state (.ok (some render), state)
  | unreadable (cause : String) :
      Renders shop template state (.error (.unreadable template cause), state)
  /-- The template is compiled now. -/
  | compiled {text function : String} :
      state.compiled.lookup template = none →
      shop.disk.read template = .ok text →
      renderFunction shop text = .ok function →
      Renders shop template state
        (.ok (some (state.nextPath shop template)),
          state.registered shop template function)
  /-- The template cannot be compiled, and a warning says why. -/
  | refused (diagnostic : Diagnostic) :
      diagnostic.reason ≠ .parseFailure →
      Renders shop template state (.ok none, state.reported diagnostic)

theorem renderModule?_renders (shop : Workshop) (site : RequireSite) (found : Found)
    (template : Path) (state : TemplateState) :
    Renders shop template state
      (outcome (renderModule? shop site found template) state) := by
  rw [renderModule?, outcome_get_bind]
  split
  · next render lookup => exact .known lookup
  · next lookup =>
    split
    · next cause _ => exact .unreadable cause
    · next text read =>
      split
      · next function rendered => exact .compiled lookup read rendered
      · next message _ => exact .refused _ (by simp)

/-- What is written in the place of a binding whose render module is known. -/
def editOf (site : RequireSite) (found : Found) (call : RequireCall)
    (render : Path) : Edit :=
  ⟨found.replaced, renderBinding found.form site.file render call.specifier.quote⟩

/-- All that the treatment of a binding can come to. -/
inductive Replaces (shop : Workshop) (site : RequireSite) (found : Found)
    (state : TemplateState) :
    Except TaskError (Option Edit) × TemplateState → Prop where
  /-- The binding stays as it is, and a warning says why. -/
  | left (diagnostic : Diagnostic) :
      diagnostic.reason ≠ .parseFailure →
      Replaces shop site found state (.ok none, state.reported diagnostic)
  | unresolved (error : ResolveError) :
      Replaces shop site found state (.error (.unresolved error), state)
  | unreadable (template : Path) (cause : String) :
      Replaces shop site found state (.error (.unreadable template cause), state)
  /-- The binding requires the render module of its template from now on. -/
  | replaced {call : RequireCall} {resolved : ResolvedModule} {render : Path}
      {after : TemplateState} :
      found.require = some call →
      resolve shop.disk call.specifier.value (call.qualifier.map (·.value)) site =
        .ok resolved →
      resolved.isTemplate = true →
      Renders shop resolved.path state (.ok (some render), after) →
      Replaces shop site found state (.ok (some (editOf site found call render)),
        after)

theorem replacement?_replaces (shop : Workshop) (site : RequireSite) (found : Found)
    (state : TemplateState) :
    Replaces shop site found state (outcome (replacement? shop site found) state) := by
  unfold replacement?
  split
  · exact .left _ (by simp)
  · next call require =>
    split
    · next error _ => exact .unresolved error
    · next resolved resolution =>
      split
      · exact .left _ (by simp)
      · next isTemplate =>
        have renders := renderModule?_renders shop site found resolved.path state
        rw [outcome_bind]
        generalize outcome (renderModule? shop site found resolved.path) state =
          rendered at renders
        cases renders with
        | known lookup =>
            exact .replaced require resolution (by simpa using isTemplate)
              (.known lookup)
        | unreadable cause => exact .unreadable _ cause
        | compiled lookup read compiled =>
            exact .replaced require resolution (by simpa using isTemplate)
              (.compiled lookup read compiled)
        | refused diagnostic other => exact .left diagnostic other

/-- All that the treatment of some bindings, one after the other, can come to.  The
outcomes of the single bindings are listed; the first error ends the treatment. -/
inductive ReplacesEach (shop : Workshop) (site : RequireSite) :
    TemplateState → List Found →
      Except TaskError (List (Option Edit)) × TemplateState → Prop where
  | done (state : TemplateState) : ReplacesEach shop site state [] (.ok [], state)
  | failed {state after : TemplateState} {first : Found} {rest : List Found}
      {error : TaskError} :
      Replaces shop site first state (.error error, after) →
      ReplacesEach shop site state (first :: rest) (.error error, after)
  | failedLater {state between after : TemplateState} {first : Found}
      {rest : List Found} {edit : Option Edit} {error : TaskError} :
      Replaces shop site first state (.ok edit, between) →
      ReplacesEach shop site between rest (.error error, after) →
      ReplacesEach shop site state (first :: rest) (.error error, after)
  | next {state between after : TemplateState} {first : Found} {rest : List Found}
      {edit : Option Edit} {edits : List (Option Edit)} :
      Replaces shop site first state (.ok edit, between) →
      ReplacesEach shop site between rest (.ok edits, after) →
      ReplacesEach shop site state (first :: rest) (.ok (edit :: edits), after)

theorem replacesEach_mapM (shop : Workshop) (site : RequireSite) (found : List Found)
    (state : TemplateState) :
    ReplacesEach shop site state found
      (outcome (found.mapM (replacement? shop site)) state) := by
  induction found generalizing state with
  | nil => exact .done state
  | cons first rest induction =>
      rw [List.mapM_cons, outcome_bind]
      have replaces := replacement?_replaces shop site first state
      generalize outcome (replacement? shop site first) state = treated at replaces ⊢
      rcases treated with ⟨result, between⟩
      cases result with
      | error error => exact .failed replaces
      | ok edit =>
          have later := induction between
          simp only [outcome_bind]
          generalize outcome (rest.mapM (replacement? shop site)) between =
            others at later ⊢
          rcases others with ⟨result, after⟩
          cases result with
          | error error => exact .failedLater replaces later
          | ok edits => exact .next replaces later

/-- The edits of some bindings are those that their treatments give,
one after the other. -/
theorem outcome_replacements (shop : Workshop) (site : RequireSite)
    (found : List Found) (state : TemplateState) :
    outcome (replacements shop site found) state =
      outcome (List.reduceOption <$> found.mapM (replacement? shop site)) state := by
  congr 1
  induction found with
  | nil => rfl
  | cons first rest induction =>
      rw [replacements, List.mapM_cons, induction]
      simp only [map_eq_pure_bind, bind_assoc, pure_bind]
      congr 1
      funext edit
      congr 1
      funext edits
      cases edit <;> rfl

/-- The marked bindings of a module; a text that is no module has none. -/
def bindingsOf (shop : Workshop) (code : String) : List Found :=
  match shop.parse code with
  | .ok program => Found.all program code.toList
  | .error _ => []

/-- All that the conversion of a module can come to. -/
inductive Rewrites (shop : Workshop) (file : Path) (code : String)
    (state : TemplateState) : Except TaskError String × TemplateState → Prop where
  /-- The text is no module, and a diagnostic says so. -/
  | unparsed (diagnostic : Diagnostic) :
      bindingsOf shop code = [] →
      Rewrites shop file code state (.ok code, state.reported diagnostic)
  | unbound :
      bindingsOf shop code = [] → Rewrites shop file code state (.ok code, state)
  | unconfigured :
      state.sourceRoot = none →
      Rewrites shop file code state (.error (.unconfigured file), state)
  | failed {root : Path} {error : TaskError} {after : TemplateState} :
      state.sourceRoot = some root →
      outcome ((bindingsOf shop code).mapM (replacement? shop ⟨file, root⟩)) state =
        (.error error, after) →
      Rewrites shop file code state (.error error, after)
  | conflicting {root : Path} {edits : List (Option Edit)} {error : EditError}
      {after : TemplateState} :
      state.sourceRoot = some root →
      outcome ((bindingsOf shop code).mapM (replacement? shop ⟨file, root⟩)) state =
        (.ok edits, after) →
      Edit.applyAll edits.reduceOption code = .error error →
      Rewrites shop file code state (.error (.conflicting file error), after)
  | rewritten {root : Path} {edits : List (Option Edit)} {result : String}
      {after : TemplateState} :
      state.sourceRoot = some root →
      outcome ((bindingsOf shop code).mapM (replacement? shop ⟨file, root⟩)) state =
        (.ok edits, after) →
      Edit.applyAll edits.reduceOption code = .ok result →
      Rewrites shop file code state (.ok result, after)

theorem rewritten_rewrites (shop : Workshop) (file : Path) (code : String)
    (state : TemplateState) :
    Rewrites shop file code state (outcome (rewritten shop file code) state) := by
  unfold rewritten
  split
  · next span parsed => exact .unparsed _ (by rw [bindingsOf, parsed])
  · next program parsed =>
    have bindings : bindingsOf shop code = Found.all program code.toList := by
      rw [bindingsOf, parsed]
    split
    · next none_found => exact .unbound (by rw [bindings, none_found])
    · next some_found =>
      rw [outcome_get_bind]
      split
      · next unknown => exact .unconfigured unknown
      · next root known =>
        rw [outcome_bind, outcome_replacements, ← bindings, map_eq_pure_bind,
          outcome_bind]
        generalize treated : outcome ((bindingsOf shop code).mapM
          (replacement? shop ⟨file, root⟩)) state = each
        rcases each with ⟨result, after⟩
        cases result with
        | error error => exact .failed known treated
        | ok edits =>
            simp only [outcome_pure]
            split
            · next result applied => exact .rewritten known treated applied
            · next error refused => exact .conflicting known treated refused

/-- All that the treatment of a task by the template stage can come to. -/
inductive Converts (shop : Workshop) (task : Task) (state : TemplateState) :
    Except TaskError (Task × Outcome) × TemplateState → Prop where
  | configured :
      task.phase = .configured →
      Converts shop task state
        (.ok (task, .handled), { state with sourceRoot := task.sourceRoot })
  /-- The task is no concern of the stage, or the module of a dependency. -/
  | ignored :
      task.phase ≠ .configured → (task.phase = .read → task.isDependency = true) →
      Converts shop task state (.ok (task, .ignored), state)
  | rewritten {code : String} {after : TemplateState} :
      task.phase = .read → task.isDependency = false →
      Rewrites shop task.file task.code state (.ok code, after) →
      Converts shop task state (.ok ({ task with code }, .handled), after)
  | failed {error : TaskError} {after : TemplateState} :
      task.phase = .read → task.isDependency = false →
      Rewrites shop task.file task.code state (.error error, after) →
      Converts shop task state (.error error, after)

theorem convertTemplates_converts (shop : Workshop) (task : Task)
    (state : TemplateState) :
    Converts shop task state (outcome (convertTemplates shop task) state) := by
  unfold convertTemplates
  split
  · next isConfigured => exact .configured isConfigured
  · next isRead =>
    split
    · next isDependency => exact .ignored (by simp [isRead]) fun _ => isDependency
    · next isOwn =>
      have own : task.isDependency = false := by simpa using isOwn
      rw [outcome_bind]
      have rewrites := rewritten_rewrites shop task.file task.code state
      generalize outcome (rewritten shop task.file task.code) state =
        converted at rewrites ⊢
      rcases converted with ⟨result, after⟩
      cases result with
      | error error => exact .failed isRead own rewrites
      | ok code => exact .rewritten isRead own rewrites
  · next notConfigured notRead =>
      exact .ignored notConfigured fun isRead => absurd isRead notRead

/-! ## The pipeline around the templates -/

/-- The task that the stage of the runtime builds hands on. -/
def Pipeline.handed (pipeline : Pipeline) (task : Task) : Task :=
  (pipeline.replacements.perform task).2.1

theorem Pipeline.handed_of_ne_built {pipeline : Pipeline} {task : Task}
    (early : task.phase ≠ .built) : pipeline.handed task = task := by
  unfold handed Replacements.perform
  split
  · rfl
  · next isBuilt => exact absurd isBuilt early
  · rfl

/-- The first stage changes the file only. -/
theorem Pipeline.handed_eq (pipeline : Pipeline) (task : Task) :
    pipeline.handed task = { task with file := (pipeline.handed task).file } := by
  unfold handed Replacements.perform
  split
  · rfl
  · split <;> rfl
  · rfl

theorem Pipeline.handed_code (pipeline : Pipeline) (task : Task) :
    (pipeline.handed task).code = task.code := by
  rw [handed_eq]

theorem Pipeline.perform_eq (shop : Workshop) (pipeline : Pipeline) (task : Task) :
    pipeline.perform shop task =
      match outcome (convertTemplates shop (pipeline.handed task))
        pipeline.templates with
      | (.ok (done, second), templates) =>
        (.ok (done, (pipeline.replacements.perform task).2.2.or second),
          ⟨(pipeline.replacements.perform task).1, templates⟩)
      | (.error error, templates) =>
        (.error error, ⟨(pipeline.replacements.perform task).1, templates⟩) := rfl

/-- The state of the templates behind a task is the one that the
template stage leaves. -/
theorem Pipeline.perform_templates (shop : Workshop) (pipeline : Pipeline)
    (task : Task) :
    (pipeline.perform shop task).2.templates =
      (outcome (convertTemplates shop (pipeline.handed task))
        pipeline.templates).2 := by
  rw [perform_eq]
  rcases outcome (convertTemplates shop (pipeline.handed task)) pipeline.templates
    with ⟨_ | _, templates⟩ <;> rfl

theorem Pipeline.of_perform_eq_error {shop : Workshop} {pipeline after : Pipeline}
    {task : Task} {error : TaskError}
    (failed : pipeline.perform shop task = (.error error, after)) :
    outcome (convertTemplates shop (pipeline.handed task)) pipeline.templates =
      (.error error, after.templates) := by
  rw [perform_eq] at failed
  split at failed
  · simp at failed
  · next stopped =>
    obtain ⟨sameError, rfl⟩ := Prod.mk.inj failed
    rw [stopped, Except.error.inj sameError]

theorem Pipeline.of_perform_eq_ok {shop : Workshop} {pipeline after : Pipeline}
    {task done : Task} {result : Outcome}
    (succeeded : pipeline.perform shop task = (.ok (done, result), after)) :
    ∃ second, outcome (convertTemplates shop (pipeline.handed task))
      pipeline.templates =
        (.ok (done, second), after.templates) ∧
      result = (pipeline.replacements.perform task).2.2.or second := by
  rw [perform_eq] at succeeded
  split at succeeded
  · next second _ converted =>
    obtain ⟨sameResult, rfl⟩ := Prod.mk.inj succeeded
    obtain ⟨rfl, sameOutcome⟩ := Prod.mk.inj (Except.ok.inj sameResult)
    exact ⟨second, converted, sameOutcome.symm⟩
  · simp at succeeded

/-! ## What all steps keep -/

/-- A property of states that the treatment of a binding keeps: a
diagnostic on the binding, and the render module of a template that is
compiled for the first time. -/
structure KeptByBindings (shop : Workshop) (property : TemplateState → Prop) :
    Prop where
  warned : ∀ state diagnostic, diagnostic.reason ≠ .parseFailure → property state →
    property (state.reported diagnostic)
  registered : ∀ state template text function,
    state.compiled.lookup template = none → shop.disk.read template = .ok text →
      renderFunction shop text = .ok function → property state →
        property (state.registered shop template function)

/-- A property of states that every change of a state keeps: in addition to those
that bindings make, a diagnostic on the module, and the source root. -/
structure Kept (shop : Workshop) (property : TemplateState → Prop) : Prop
    extends KeptByBindings shop property where
  reported : ∀ state diagnostic, property state → property (state.reported diagnostic)
  configured :
    ∀ state root, property state → property { state with sourceRoot := root }

section

variable {shop : Workshop} {property : TemplateState → Prop}

section

variable (kept : KeptByBindings shop property)
include kept

theorem Renders.keeps {template : Path} {state : TemplateState}
    {result : Except TaskError (Option Path) × TemplateState}
    (renders : Renders shop template state result) (holds : property state) :
    property result.2 := by
  cases renders with
  | known => exact holds
  | unreadable => exact holds
  | compiled lookup read rendered =>
      exact kept.registered _ _ _ _ lookup read rendered holds
  | refused diagnostic other => exact kept.warned _ diagnostic other holds

theorem Replaces.keeps {site : RequireSite} {found : Found} {state : TemplateState}
    {result : Except TaskError (Option Edit) × TemplateState}
    (replaces : Replaces shop site found state result) (holds : property state) :
    property result.2 := by
  cases replaces with
  | left diagnostic other => exact kept.warned _ diagnostic other holds
  | unresolved => exact holds
  | unreadable => exact holds
  | replaced _ _ _ renders => exact renders.keeps kept holds

theorem ReplacesEach.keeps {site : RequireSite} {found : List Found}
    {state : TemplateState}
    {result : Except TaskError (List (Option Edit)) × TemplateState}
    (replaces : ReplacesEach shop site state found result) (holds : property state) :
    property result.2 := by
  induction replaces with
  | done => exact holds
  | failed first => exact first.keeps kept holds
  | failedLater first _ induction => exact induction (first.keeps kept holds)
  | next first _ induction => exact induction (first.keeps kept holds)

/-- However the bindings of a module were treated, the property holds behind them. -/
theorem keeps_of_treated {site : RequireSite} {found : List Found}
    {state after : TemplateState} {result : Except TaskError (List (Option Edit))}
    (treated : outcome (found.mapM (replacement? shop site)) state = (result, after))
    (holds : property state) : property after := by
  have replaces := replacesEach_mapM shop site found state
  rw [treated] at replaces
  exact replaces.keeps kept holds

end

/-- No treatment of a binding changes the source root. -/
theorem keptByBindings_sourceRoot (shop : Workshop) (root : Option Path) :
    KeptByBindings shop fun state => state.sourceRoot = root :=
  ⟨fun _ _ _ holds => holds, fun _ _ _ _ _ _ _ holds => holds⟩

theorem Rewrites.sourceRoot {file : Path} {code : String} {state : TemplateState}
    {result : Except TaskError String × TemplateState}
    (rewrites : Rewrites shop file code state result) :
    result.2.sourceRoot = state.sourceRoot := by
  have keeps := keptByBindings_sourceRoot shop state.sourceRoot
  cases rewrites with
  | unparsed => rfl
  | unbound => rfl
  | unconfigured => rfl
  | failed _ treated => exact keeps_of_treated keeps treated rfl
  | conflicting _ treated => exact keeps_of_treated keeps treated rfl
  | rewritten _ treated => exact keeps_of_treated keeps treated rfl

section

variable (kept : Kept shop property)
include kept

theorem Rewrites.keeps {file : Path} {code : String} {state : TemplateState}
    {result : Except TaskError String × TemplateState}
    (rewrites : Rewrites shop file code state result) (holds : property state) :
    property result.2 := by
  cases rewrites with
  | unparsed diagnostic => exact kept.reported _ diagnostic holds
  | unbound => exact holds
  | unconfigured => exact holds
  | failed _ treated => exact keeps_of_treated kept.toKeptByBindings treated holds
  | conflicting _ treated => exact keeps_of_treated kept.toKeptByBindings treated holds
  | rewritten _ treated => exact keeps_of_treated kept.toKeptByBindings treated holds

theorem Converts.keeps {task : Task} {state : TemplateState}
    {result : Except TaskError (Task × Outcome) × TemplateState}
    (converts : Converts shop task state result) (holds : property state) :
    property result.2 := by
  cases converts with
  | configured => exact kept.configured _ _ holds
  | ignored => exact holds
  | rewritten _ _ rewrites => exact rewrites.keeps kept holds
  | failed _ _ rewrites => exact rewrites.keeps kept holds

/-- Whatever all steps keep, a task keeps, also when it fails. -/
theorem Pipeline.perform_keeps (pipeline : Pipeline) (task : Task)
    (holds : property pipeline.templates) :
    property (pipeline.perform shop task).2.templates := by
  rw [perform_templates]
  exact (convertTemplates_converts shop _ _).keeps kept holds

end

end

end VuePrecompiler.Build
