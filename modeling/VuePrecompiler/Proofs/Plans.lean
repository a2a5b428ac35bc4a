import Mathlib.Data.List.Forall2
import VuePrecompiler.Proofs.TemplateSteps

/-!
# What a task comes to, whatever was done before

On a disk that does not change, a template is known only if it can be read and
compiled, so it makes no difference to a task which templates are known.  What
it needs, what it reports and what it comes to is fixed beforehand as a `Plan`.
The state only tells the names of the render modules.
-/

namespace VuePrecompiler.Build

open Files Source Binding

/-- What is to be written in the place of a binding: a `require` of the render
module of a template. -/
structure PlannedEdit where
  found : Found
  template : Path
  quote : Char

/-- The edit is planned for one of some bindings, with the quotes
that are used there. -/
def PlannedEdit.IsOf (bindings : List Found) (planned : PlannedEdit) : Prop :=
  planned.found ∈ bindings ∧
    ∃ call, planned.found.require = some call ∧ planned.quote = call.specifier.quote

/-- The edit of a file, when the render module is known. -/
def PlannedEdit.edit (planned : PlannedEdit) (file render : Path) : Edit :=
  ⟨planned.found.replaced, renderBinding planned.found.form file render planned.quote⟩

/-- What the treatment of bindings comes to: the templates that it needs
with their render functions, the diagnostics that it reports, and the
edits or an error. -/
structure Plan where
  needed : List (Path × String)
  reports : List Diagnostic
  result : Except TaskError (List PlannedEdit)

/-- A template can be read from the disk, and compiles to a function. -/
def CompilesTo (shop : Workshop) (template : Path) (function : String) : Prop :=
  ∃ text, shop.disk.read template = .ok text ∧ renderFunction shop text = .ok function

namespace TemplateState

/-- Every template that is known compiles. -/
def IsSound (shop : Workshop) (state : TemplateState) : Prop :=
  ∀ template render, state.compiled.lookup template = some render →
    ∃ function, CompilesTo shop template function

theorem IsSound.lookup_eq_none {shop : Workshop} {state : TemplateState}
    (sound : state.IsSound shop) {template : Path}
    (fails : ∀ function, ¬ CompilesTo shop template function) :
    state.compiled.lookup template = none := by
  rw [Option.eq_none_iff_forall_ne_some]
  intro render known
  obtain ⟨function, compiles⟩ := sound template render known
  exact fails function compiles

/-- The state once a template is known. -/
def meet (shop : Workshop) (state : TemplateState) (entry : Path × String) :
    TemplateState :=
  match state.compiled.lookup entry.1 with
  | some _ => state
  | none => state.registered shop entry.1 entry.2

/-- The state behind what was planned. -/
def follow (shop : Workshop) (state : TemplateState) (plan : Plan) : TemplateState :=
  { plan.needed.foldl (meet shop) state with
    diagnostics := state.diagnostics ++ plan.reports }

theorem lookup_registered (shop : Workshop) (state : TemplateState)
    (template other : Path) (function : String) :
    (state.registered shop template function).compiled.lookup other =
      (state.compiled.lookup other).or
        (if other = template then some (state.nextPath shop template) else none) := by
  rw [registered, List.lookup_append, List.lookup_cons, List.lookup_nil]
  by_cases same : other = template
  · rw [if_pos same, beq_iff_eq.mpr same]
  · rw [if_neg same, beq_eq_false_iff_ne.mpr same]

theorem meet_of_known {shop : Workshop} {state : TemplateState}
    {template render : Path} (function : String)
    (known : state.compiled.lookup template = some render) :
    state.meet shop (template, function) = state := by
  simp only [meet, known]

theorem meet_of_unknown {shop : Workshop} {state : TemplateState} {template : Path}
    (function : String) (unknown : state.compiled.lookup template = none) :
    state.meet shop (template, function) =
      state.registered shop template function := by
  simp only [meet, unknown]

@[simp] theorem meet_sourceRoot (shop : Workshop) (state : TemplateState)
    (entry : Path × String) :
    (state.meet shop entry).sourceRoot = state.sourceRoot := by
  unfold meet
  split <;> rfl

@[simp] theorem meet_diagnostics (shop : Workshop) (state : TemplateState)
    (entry : Path × String) :
    (state.meet shop entry).diagnostics = state.diagnostics := by
  unfold meet
  split <;> rfl

theorem foldl_meet_sourceRoot (shop : Workshop) (state : TemplateState)
    (needed : List (Path × String)) :
    (needed.foldl (meet shop) state).sourceRoot = state.sourceRoot := by
  induction needed generalizing state with
  | nil => rfl
  | cons entry rest induction => rw [List.foldl_cons, induction, meet_sourceRoot]

/-- Templates are met whatever was reported. -/
theorem meet_with_diagnostics (shop : Workshop) (state : TemplateState)
    (reports : List Diagnostic) (entry : Path × String) :
    meet shop { state with diagnostics := reports } entry =
      { state.meet shop entry with diagnostics := reports } := by
  cases known : state.compiled.lookup entry.1 with
  | none =>
      simp only [meet, known]
      rfl
  | some render => simp only [meet, known]

theorem foldl_meet_with_diagnostics (shop : Workshop) (state : TemplateState)
    (reports : List Diagnostic) (needed : List (Path × String)) :
    needed.foldl (meet shop) { state with diagnostics := reports } =
      { needed.foldl (meet shop) state with diagnostics := reports } := by
  induction needed generalizing state with
  | nil => rfl
  | cons entry rest induction =>
      rw [List.foldl_cons, meet_with_diagnostics, induction, List.foldl_cons]

theorem follow_compiled (shop : Workshop) (state : TemplateState) (plan : Plan) :
    (state.follow shop plan).compiled =
      (plan.needed.foldl (meet shop) state).compiled := rfl

theorem follow_sourceRoot (shop : Workshop) (state : TemplateState) (plan : Plan) :
    (state.follow shop plan).sourceRoot = state.sourceRoot :=
  foldl_meet_sourceRoot shop state plan.needed

theorem follow_follow (shop : Workshop) (state : TemplateState) (first second : Plan)
    {both : Plan} (needed : both.needed = first.needed ++ second.needed)
    (reports : both.reports = first.reports ++ second.reports) :
    (state.follow shop first).follow shop second = state.follow shop both := by
  simp only [follow, foldl_meet_with_diagnostics, needed, reports, List.foldl_append,
    List.append_assoc]

/-! ## Known templates stay known -/

theorem lookup_meet {shop : Workshop} {state : TemplateState} {template render : Path}
    (entry : Path × String) (known : state.compiled.lookup template = some render) :
    (state.meet shop entry).compiled.lookup template = some render := by
  unfold meet
  split
  · exact known
  · rw [lookup_registered, known]
    rfl

theorem lookup_foldl_meet {shop : Workshop} {state : TemplateState}
    {template render : Path} (needed : List (Path × String))
    (known : state.compiled.lookup template = some render) :
    (needed.foldl (meet shop) state).compiled.lookup template = some render := by
  induction needed generalizing state with
  | nil => exact known
  | cons entry rest induction => exact induction (lookup_meet entry known)

/-- All that a state knows is known in a later one, too. -/
def IsKnownIn (state later : TemplateState) : Prop :=
  ∀ template render, state.compiled.lookup template = some render →
    later.compiled.lookup template = some render

theorem isKnownIn_follow (shop : Workshop) (state : TemplateState) (plan : Plan) :
    state.IsKnownIn (state.follow shop plan) :=
  fun _ _ known => lookup_foldl_meet plan.needed known

/-- The templates that are known behind a plan: those known before,
and those it needs. -/
theorem lookup_foldl_meet_isSome_iff {shop : Workshop} {state : TemplateState}
    {template : Path} {needed : List (Path × String)} :
    ((needed.foldl (meet shop) state).compiled.lookup template).isSome = true ↔
      (state.compiled.lookup template).isSome = true ∨
      template ∈ needed.map Prod.fst := by
  induction needed generalizing state with
  | nil => simp
  | cons entry rest induction =>
      rw [List.foldl_cons, induction, List.map_cons, List.mem_cons, ← or_assoc]
      apply or_congr_left
      cases known : state.compiled.lookup entry.1 with
      | some render =>
          rw [show state.meet shop entry = state from meet_of_known entry.2 known]
          refine ⟨.inl, ?_⟩
          rintro (isKnown | rfl)
          · exact isKnown
          · rw [known]
            rfl
      | none =>
          rw [show state.meet shop entry = state.registered shop entry.1 entry.2 from
            meet_of_unknown entry.2 known, lookup_registered, Option.isSome_or,
            Bool.or_eq_true]
          apply or_congr_right
          by_cases same : template = entry.1 <;> simp [same]

end TemplateState

theorem TemplateState.IsSound.follow {shop : Workshop} {state : TemplateState}
    (sound : state.IsSound shop) {plan : Plan}
    (compiles : ∀ entry ∈ plan.needed, CompilesTo shop entry.1 entry.2)
    (id : Nat → String) : (state.follow { shop with id } plan).IsSound shop := by
  intro template render known
  have isKnown : ((plan.needed.foldl (meet { shop with id }) state).compiled.lookup
      template).isSome = true := by
    rw [← follow_compiled, known]
    rfl
  rcases lookup_foldl_meet_isSome_iff.mp isKnown with before | now
  · obtain ⟨earlier, known⟩ := Option.isSome_iff_exists.mp before
    exact sound template earlier known
  · obtain ⟨entry, member, rfl⟩ := List.mem_map.mp now
    exact ⟨entry.2, compiles entry member⟩

/-- Soundness is kept by every step of a task. -/
theorem kept_isSound (shop : Workshop) :
    Kept shop (TemplateState.IsSound shop) := by
  refine ⟨⟨fun _ _ _ sound => sound, ?_⟩, fun _ _ sound => sound,
    fun _ _ sound => sound⟩
  intro state template text function unknown read rendered sound other render known
  rw [TemplateState.lookup_registered, Option.or_eq_some_iff] at known
  rcases known with before | ⟨_, now⟩
  · exact sound other render before
  · obtain ⟨rfl, _⟩ := Option.ite_none_right_eq_some.mp now
    exact ⟨function, text, read, rendered⟩

/-! ## Steps that keep to a plan -/

/-- A plan is for some bindings of a file: it converts some of them, and the
templates that it needs are files that a specifier leads to, and compile. -/
structure Plan.IsFor (shop : Workshop) (site : RequireSite) (bindings : List Found)
    (plan : Plan) : Prop where
  located : ∀ entry ∈ plan.needed, ∃ specifier, entry.1 = locate specifier site
  isFile : ∀ entry ∈ plan.needed, shop.disk.isFile entry.1 = true
  compiles : ∀ entry ∈ plan.needed, CompilesTo shop entry.1 entry.2
  planned : ∀ edits, plan.result = .ok edits → ∀ planned ∈ edits, planned.IsOf bindings

theorem of_resolve_eq_ok {disk : Snapshot} {specifier : String}
    {qualifier : Option String} {site : RequireSite} {resolved : ResolvedModule}
    (resolution : resolve disk specifier qualifier site = .ok resolved) :
    resolved.path = locate specifier site ∧ disk.isFile resolved.path = true := by
  unfold resolve at resolution
  split at resolution
  · contradiction
  · dsimp only at resolution
    split at resolution
    · next isFile =>
      obtain rfl := Except.ok.inj resolution
      dsimp only
      exact ⟨rfl, isFile⟩
    · contradiction

/-- A step comes to what was planned.  `fits` tells what it gives for the
edits of the plan. -/
inductive Plan.Gives {α : Type} (shop : Workshop) (plan : Plan) (state : TemplateState)
    (fits : TemplateState → List PlannedEdit → α → Prop) :
    Except TaskError α × TemplateState → Prop where
  | failed {error : TaskError} {after : TemplateState} :
      plan.result = .error error → after = state.follow shop plan →
      Gives shop plan state fits (.error error, after)
  | done {edits : List PlannedEdit} {value : α} {after : TemplateState} :
      plan.result = .ok edits → after = state.follow shop plan →
        fits after edits value →
      Gives shop plan state fits (.ok value, after)

/-- The edits of a file that a plan comes to, in a state that knows
the render modules. -/
def AreWritten (file : Path) (state : TemplateState) (planned : List PlannedEdit)
    (edits : List Edit) : Prop :=
  List.Forall₂ (fun planned edit => ∃ render,
    state.compiled.lookup planned.template = some render ∧
    edit = planned.edit file render)
    planned edits

theorem AreWritten.of_isKnownIn {file : Path} {state later : TemplateState}
    {planned : List PlannedEdit} {edits : List Edit}
    (written : AreWritten file state planned edits)
    (isKnown : state.IsKnownIn later) : AreWritten file later planned edits :=
  written.imp fun _ _ ⟨render, known, same⟩ => ⟨render, isKnown _ render known, same⟩

/-- Every edit was planned. -/
theorem AreWritten.of_mem {file : Path} {state : TemplateState}
    {planned : List PlannedEdit} {edits : List Edit}
    (written : AreWritten file state planned edits) {edit : Edit}
    (member : edit ∈ edits) :
    ∃ plan ∈ planned, ∃ render, state.compiled.lookup plan.template = some render ∧
      edit = plan.edit file render := by
  induction written with
  | nil => contradiction
  | @cons plan _ _ _ isWritten _ induction =>
      rcases List.mem_cons.mp member with rfl | inRest
      · exact ⟨plan, List.mem_cons_self, isWritten⟩
      · obtain ⟨other, isOther, known⟩ := induction inRest
        exact ⟨other, List.mem_cons_of_mem _ isOther, known⟩

theorem AreWritten.spans {file : Path} {state : TemplateState}
    {planned : List PlannedEdit} {edits : List Edit}
    (written : AreWritten file state planned edits) :
    edits.map Edit.span = planned.map fun planned => planned.found.replaced := by
  induction written with
  | nil => rfl
  | cons first _ induction =>
      obtain ⟨render, _, rfl⟩ := first
      rw [List.map_cons, List.map_cons, induction]
      rfl

namespace TemplateState

theorem follow_nothing (shop : Workshop) (state : TemplateState)
    (result : Except TaskError (List PlannedEdit)) :
    state.follow shop ⟨[], [], result⟩ = state := by
  simp only [follow, List.foldl_nil, List.append_nil]

theorem follow_need (shop : Workshop) (state : TemplateState) (entry : Path × String)
    (result : Except TaskError (List PlannedEdit)) :
    state.follow shop ⟨[entry], [], result⟩ = state.meet shop entry := by
  rw [follow, List.append_nil, ← meet_diagnostics shop state entry]
  rfl

end TemplateState

open Step

section

variable {shop : Workshop} {site : RequireSite} {found : Found} {template : Path}

theorem outcome_renderModule?_of_unreadable {cause : String} {state : TemplateState}
    (read : shop.disk.read template = .error cause) (sound : state.IsSound shop) :
    outcome (renderModule? shop site found template) state =
      (.error (.unreadable template cause), state) := by
  have unknown : state.compiled.lookup template = none := by
    refine sound.lookup_eq_none ?_
    rintro function ⟨text, readable, _⟩
    rw [read] at readable
    contradiction
  rw [renderModule?, outcome_get_bind]
  simp only [unknown, read]
  rfl

/-- Whenever a template cannot be compiled, the same is reported. -/
theorem exists_report_of_uncompiled (site : RequireSite) (found : Found)
    {text message : String} (read : shop.disk.read template = .ok text)
    (fails : renderFunction shop text = .error message) :
    ∃ diagnostic, ∀ id (state : TemplateState), state.IsSound shop →
      outcome (renderModule? { shop with id } site found template) state =
        (.ok none, state.reported diagnostic) := by
  refine ⟨?report, fun id state sound => ?step⟩
  case step =>
    have unknown : state.compiled.lookup template = none := by
      refine sound.lookup_eq_none ?_
      rintro function ⟨other, readable, compiles⟩
      rw [read] at readable
      obtain rfl := Except.ok.inj readable
      rw [fails] at compiles
      contradiction
    have fails : renderFunction { shop with id } text = .error message := fails
    rw [renderModule?, outcome_get_bind]
    simp only [unknown, read, fails]
    rfl

/-- A template that compiles has a render module from then on. -/
theorem outcome_renderModule?_of_compiles (site : RequireSite) (found : Found)
    {function : String} (compiles : CompilesTo shop template function)
    (state : TemplateState) :
    ∃ render, (state.meet shop (template, function)).compiled.lookup template =
      some render ∧
      outcome (renderModule? shop site found template) state =
        (.ok (some render), state.meet shop (template, function)) := by
  obtain ⟨text, read, rendered⟩ := compiles
  rw [renderModule?, outcome_get_bind]
  cases known : state.compiled.lookup template with
  | some render =>
      rw [TemplateState.meet_of_known function known]
      exact ⟨render, known, rfl⟩
  | none =>
      rw [TemplateState.meet_of_unknown function known]
      refine ⟨state.nextPath shop template, ?_, ?_⟩
      · rw [TemplateState.lookup_registered, known, if_pos rfl]
        rfl
      · simp only [read, rendered]
        rfl

end

section

variable {shop : Workshop} {site : RequireSite} {found : Found}

theorem exists_plan_of_left (diagnostic : Diagnostic)
    (left : ∀ id (state : TemplateState), state.IsSound shop →
      outcome (replacement? { shop with id } site found) state =
        (.ok none, state.reported diagnostic)) :
    ∃ plan : Plan, plan.IsFor shop site [found] ∧ ∀ id (state : TemplateState),
      state.IsSound shop → plan.Gives { shop with id } state
        (fun after planned edit => AreWritten site.file after planned edit.toList)
        (outcome (replacement? { shop with id } site found) state) := by
  refine ⟨⟨[], [diagnostic], .ok []⟩, ⟨by simp, by simp, by simp, by simp⟩, ?_⟩
  intro id state sound
  rw [left id state sound]
  exact .done rfl rfl .nil

theorem exists_plan_of_failed (error : TaskError)
    (failed : ∀ id (state : TemplateState), state.IsSound shop →
      outcome (replacement? { shop with id } site found) state =
        (.error error, state)) :
    ∃ plan : Plan, plan.IsFor shop site [found] ∧ ∀ id (state : TemplateState),
      state.IsSound shop → plan.Gives { shop with id } state
        (fun after planned edit => AreWritten site.file after planned edit.toList)
        (outcome (replacement? { shop with id } site found) state) := by
  refine ⟨⟨[], [], .error error⟩, ⟨by simp, by simp, by simp, by simp⟩, ?_⟩
  intro id state sound
  rw [failed id state sound]
  exact .failed rfl (TemplateState.follow_nothing _ _ _).symm

/-- A binding of a template is treated as far as its render module is given. -/
theorem outcome_replacement?_of_template {call : RequireCall}
    {resolved : ResolvedModule} (require : found.require = some call)
    (resolution :
      resolve shop.disk call.specifier.value (call.qualifier.map (·.value)) site =
        .ok resolved)
    (isTemplate : resolved.isTemplate = true) (state : TemplateState) :
    outcome (replacement? shop site found) state =
      match outcome (renderModule? shop site found resolved.path) state with
      | (.ok render, after) => (.ok (render.map (editOf site found call)), after)
      | (.error error, after) => (.error error, after) := by
  have step : replacement? shop site found = (do
      let render ← renderModule? shop site found resolved.path
      return render.map (editOf site found call)) := by
    simp only [replacement?, require, resolution, isTemplate]
    rfl
  rw [step, outcome_bind]
  rcases outcome (renderModule? shop site found resolved.path) state with
    ⟨_ | _, after⟩ <;> rfl

/-- The binding of a template that compiles is converted. -/
theorem exists_plan_of_compiles {call : RequireCall} {resolved : ResolvedModule}
    {function : String} (require : found.require = some call)
    (resolution :
      resolve shop.disk call.specifier.value (call.qualifier.map (·.value)) site =
        .ok resolved)
    (isTemplate : resolved.isTemplate = true)
    (compiles : CompilesTo shop resolved.path function) :
    ∃ plan : Plan, plan.IsFor shop site [found] ∧ ∀ id (state : TemplateState),
      state.IsSound shop → plan.Gives { shop with id } state
        (fun after planned edit => AreWritten site.file after planned edit.toList)
        (outcome (replacement? { shop with id } site found) state) := by
  obtain ⟨located, isFile⟩ := of_resolve_eq_ok resolution
  refine ⟨⟨[(resolved.path, function)], [],
    .ok [⟨found, resolved.path, call.specifier.quote⟩]⟩,
    ⟨by simpa using ⟨_, located⟩, by simpa using isFile, by simpa
      using compiles, ?_⟩, ?_⟩
  · intro edits isOk planned member
    obtain rfl := Except.ok.inj isOk
    rw [List.mem_singleton.mp member]
    exact ⟨List.mem_cons_self, call, require, rfl⟩
  intro id state _
  obtain ⟨render, known, outcome⟩ :=
    @outcome_renderModule?_of_compiles { shop with id } _ site found _ compiles state
  rw [@outcome_replacement?_of_template { shop with id } _ _ _ _ require resolution
    isTemplate, outcome]
  exact .done rfl (TemplateState.follow_need _ _ _ _).symm
    (.cons ⟨render, known, rfl⟩ .nil)

/-- What a binding comes to is fixed before the state is known. -/
theorem exists_bindingPlan (shop : Workshop) (site : RequireSite) (found : Found) :
    ∃ plan : Plan, plan.IsFor shop site [found] ∧ ∀ id (state : TemplateState),
      state.IsSound shop → plan.Gives { shop with id } state
        (fun after planned edit => AreWritten site.file after planned edit.toList)
        (outcome (replacement? { shop with id } site found) state) := by
  cases require : found.require with
  | none =>
      refine exists_plan_of_left ?unsupportedShape fun id state _ => ?shape
      case shape =>
        simp only [replacement?, require]
        rfl
  | some call =>
      cases resolution : resolve shop.disk call.specifier.value
          (call.qualifier.map (·.value)) site with
      | error error =>
          refine exists_plan_of_failed (.unresolved error) fun id state _ => ?_
          simp only [replacement?, require, resolution]
          rfl
      | ok resolved =>
          cases isTemplate : resolved.isTemplate with
          | false =>
              refine exists_plan_of_left ?unsupportedPipeline fun id state _ =>
                ?pipeline
              case pipeline =>
                simp only [replacement?, require, resolution, isTemplate]
                rfl
          | true =>
              have treated :=
                fun id => @outcome_replacement?_of_template { shop with id } site
                  found call resolved require resolution isTemplate
              cases read : shop.disk.read resolved.path with
              | error cause =>
                  refine exists_plan_of_failed (.unreadable resolved.path cause) ?_
                  intro id state sound
                  rw [treated, @outcome_renderModule?_of_unreadable { shop with id }
                    site found _ _ state read sound]
              | ok text =>
                  cases rendered : renderFunction shop text with
                  | error message =>
                      obtain ⟨diagnostic, reports⟩ :=
                        exists_report_of_uncompiled site found read rendered
                      refine exists_plan_of_left diagnostic fun id state sound => ?_
                      rw [treated, reports id state sound]
                      rfl
                  | ok function =>
                      exact exists_plan_of_compiles require resolution isTemplate
                        ⟨text, read, rendered⟩

end

end VuePrecompiler.Build
