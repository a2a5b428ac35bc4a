import VuePrecompiler.Proofs.Plans
import VuePrecompiler.Proofs.Results
import VuePrecompiler.Proofs.Splicing

/-!
# Plans of modules

The plans of the bindings of a module follow one another, and their edits are
put in place or refused.  Whether they are refused is told by their spans, so a
module that is read has one plan, too.
-/

namespace VuePrecompiler.Build

open Files Source Binding Step

theorem outcome_replacements_cons (shop : Workshop) (site : RequireSite)
    (first : Found) (rest : List Found) (state : TemplateState) :
    outcome (replacements shop site (first :: rest)) state =
      match outcome (replacement? shop site first) state with
      | (.ok edit, between) =>
        ((outcome (replacements shop site rest) between).1.map (edit.toList ++ ·),
          (outcome (replacements shop site rest) between).2)
      | (.error error, after) => (.error error, after) := by
  rw [replacements, outcome_bind]
  rcases outcome (replacement? shop site first) state with ⟨_ | edit, between⟩
  · rfl
  · simp only [outcome_bind]
    rcases outcome (replacements shop site rest) between with
      ⟨_ | edits, after⟩ <;> rfl

/-- The plan for some bindings and then for others. -/
def Plan.behind (first : Plan) (edits : List PlannedEdit) (second : Plan) : Plan :=
  ⟨first.needed ++ second.needed, first.reports ++ second.reports,
    second.result.map (edits ++ ·)⟩

theorem Plan.IsFor.behind {shop : Workshop} {site : RequireSite} {first : Found}
    {rest : List Found} {plan later : Plan} {edits : List PlannedEdit}
    (isFirst : plan.IsFor shop site [first]) (isLater : later.IsFor shop site rest)
    (done : plan.result = .ok edits) :
    (plan.behind edits later).IsFor shop site (first :: rest) := by
  refine ⟨?_, ?_, ?_, ?_⟩
  · exact List.forall_mem_append.mpr ⟨isFirst.located, isLater.located⟩
  · exact List.forall_mem_append.mpr ⟨isFirst.isFile, isLater.isFile⟩
  · exact List.forall_mem_append.mpr ⟨isFirst.compiles, isLater.compiles⟩
  · intro all same planned member
    obtain ⟨more, isMore, rfl⟩ := of_map_eq_ok same
    rcases List.mem_append.mp member with inFirst | inRest
    · obtain ⟨isBinding, quoted⟩ := isFirst.planned edits done planned inFirst
      exact ⟨List.mem_cons.mpr (.inl (List.mem_singleton.mp isBinding)), quoted⟩
    · obtain ⟨isBinding, quoted⟩ := isLater.planned more isMore planned inRest
      exact ⟨List.mem_cons_of_mem _ isBinding, quoted⟩

/-- Edits of one binding are followed by those of the others. -/
theorem Plan.Gives.behind {shop : Workshop} {file : Path} {state after : TemplateState}
    {plan later : Plan} {edits : List PlannedEdit} {edit : Option Edit}
    {others : Except TaskError (List Edit)}
    (written : AreWritten file (state.follow shop plan) edits edit.toList)
    (rest : later.Gives shop (state.follow shop plan) (AreWritten file) (others,
      after)) :
    (plan.behind edits later).Gives shop state (AreWritten file)
      (others.map (edit.toList ++ ·), after) := by
  have both : (state.follow shop plan).follow shop later =
      state.follow shop (plan.behind edits later) :=
    TemplateState.follow_follow _ _ _ _ rfl rfl
  cases rest with
  | failed isError follows =>
      refine .failed ?_ (follows.trans both)
      rw [Plan.behind, isError]
      rfl
  | @done more _ _ isMore follows writtenLater =>
      have all : (plan.behind edits later).result = .ok (edits ++ more) := by
        rw [Plan.behind, isMore]
        rfl
      refine .done all (follows.trans both) ?_
      rw [follows] at writtenLater ⊢
      exact List.rel_append
        (written.of_isKnownIn (TemplateState.isKnownIn_follow shop _ later))
        writtenLater

/-- What the bindings of a file come to, one after the other, is fixed before
the state is known. -/
theorem exists_bindingsPlan (shop : Workshop) (site : RequireSite)
    (bindings : List Found) :
    ∃ plan : Plan, plan.IsFor shop site bindings ∧ ∀ id (state : TemplateState),
      state.IsSound shop → plan.Gives { shop with id } state (AreWritten site.file)
        (outcome (replacements { shop with id } site bindings) state) := by
  induction bindings with
  | nil =>
      refine ⟨⟨[], [], .ok []⟩, ⟨by simp, by simp, by simp, by simp⟩,
        fun id state _ => ?_⟩
      exact .done rfl (TemplateState.follow_nothing _ _ _).symm .nil
  | cons first rest induction =>
      obtain ⟨plan, isFirst, gives⟩ := exists_bindingPlan shop site first
      obtain ⟨later, isLater, givesLater⟩ := induction
      cases result : plan.result with
      | error error =>
          -- The bindings behind are not looked at.
          refine ⟨plan,
            ⟨isFirst.located, isFirst.isFile, isFirst.compiles, by simp [result]⟩, ?_⟩
          intro id state sound
          have treated := gives id state sound
          rw [outcome_replacements_cons]
          generalize outcome (replacement? { shop with id } site first) state =
            binding at treated ⊢
          cases treated with
          | failed isError follows => exact .failed isError follows
          | done isOk =>
              rw [result] at isOk
              contradiction
      | ok edits =>
          refine ⟨plan.behind edits later, isFirst.behind isLater result,
            fun id state sound => ?_⟩
          have treated := gives id state sound
          have others := givesLater id _ (sound.follow isFirst.compiles id)
          rw [outcome_replacements_cons]
          generalize outcome (replacement? { shop with id } site first) state =
            binding at treated ⊢
          cases treated with
          | failed isError =>
              rw [result] at isError
              contradiction
          | done isOk follows written =>
              obtain rfl : edits = _ := Except.ok.inj (result.symm.trans isOk)
              rw [follows] at written
              simp only [follows]
              exact others.behind written

/-- The code of a file with the edits of a plan in place. -/
def IsRewritten (file : Path) (code : String) (state : TemplateState)
    (planned : List PlannedEdit) (result : String) : Prop :=
  ∃ edits, AreWritten file state planned edits ∧ Edit.applyAll edits code = .ok result

/-- Without edits the code stays as it is. -/
theorem isRewritten_nil (file : Path) (code : String) (state : TemplateState) :
    IsRewritten file code state [] code :=
  ⟨[], .nil, Edit.applyAll_nil code⟩

/-- The plan for a module whose bindings have a plan: the edits may be refused. -/
def Plan.applied (plan : Plan) (file : Path) (code : String) : Plan where
  needed := plan.needed
  reports := plan.reports
  result := do
    let planned ← plan.result
    match Edit.refusal? (planned.map fun planned => planned.found.replaced) code with
    | some refusal => .error (.conflicting file refusal)
    | none => .ok planned

theorem Plan.of_applied_result_eq_ok {plan : Plan} {file : Path} {code : String}
    {planned : List PlannedEdit}
    (done : (plan.applied file code).result = .ok planned) :
    plan.result = .ok planned := by
  obtain ⟨given, isGiven, checked⟩ := of_bind_eq_ok done
  split at checked
  · contradiction
  · rw [isGiven, checked]

theorem Plan.IsFor.applied {shop : Workshop} {site : RequireSite}
    {bindings : List Found} {plan : Plan} (isFor : plan.IsFor shop site bindings)
    (file : Path) (code : String) :
    (plan.applied file code).IsFor shop site bindings :=
  ⟨isFor.located, isFor.isFile, isFor.compiles,
    fun edits done => isFor.planned edits (Plan.of_applied_result_eq_ok done)⟩

/-- Edits are put in place, or refused because of their spans. -/
theorem Plan.Gives.applied {shop : Workshop} {file : Path} {code : String}
    {plan : Plan} {state after : TemplateState} {edits : Except TaskError (List Edit)}
    (gives : plan.Gives shop state (AreWritten file) (edits, after)) :
    (plan.applied file code).Gives shop state (IsRewritten file code)
      (edits.bind fun edits => (Edit.applyAll edits code).mapError (.conflicting file),
        after) := by
  cases gives with
  | failed isError follows =>
      refine .failed ?_ follows
      rw [Plan.applied, isError]
      rfl
  | @done planned edits _ isOk follows written =>
      have result : (plan.applied file code).result =
          match Edit.refusal? (planned.map fun planned =>
            planned.found.replaced) code with
          | some refusal => .error (.conflicting file refusal)
          | none => .ok planned := by
        rw [Plan.applied, isOk]
        rfl
      rw [← written.spans] at result
      cases applied : Edit.applyAll edits code with
      | error refusal =>
          rw [Edit.applyAll_eq_error_iff.mp applied] at result
          rw [Except.bind, applied]
          exact .failed result follows
      | ok changed =>
          have accepted : Edit.refusal? (edits.map Edit.span) code = none := by
            rw [Option.eq_none_iff_forall_ne_some]
            intro refusal refused
            rw [Edit.applyAll_eq_error_iff.mpr refused] at applied
            contradiction
          rw [accepted] at result
          rw [Except.bind, applied]
          exact .done result follows ⟨edits, written, applied⟩

theorem outcome_rewritten_of_bindings {shop : Workshop} {file root : Path}
    {code : String} {program : Javascript.Program} {state : TemplateState}
    (parsed : shop.parse code = .ok program)
    (more : Found.all program code.toList ≠ [])
    (known : state.sourceRoot = some root) :
    outcome (rewritten shop file code) state =
      ((outcome (replacements shop ⟨file, root⟩ (bindingsOf shop code)) state).1.bind
          fun edits => (Edit.applyAll edits code).mapError (.conflicting file),
        (outcome (replacements shop ⟨file, root⟩ (bindingsOf shop code))
          state).2) := by
  have bindings : bindingsOf shop code = Found.all program code.toList := by
    rw [bindingsOf, parsed]
  obtain ⟨first, rest, several⟩ := List.exists_cons_of_ne_nil more
  rw [bindings]
  simp only [rewritten, parsed, several, outcome_get_bind, known]
  rw [outcome_bind]
  rcases outcome (replacements shop ⟨file, root⟩ (first :: rest)) state with
    ⟨_ | edits, after⟩
  · rfl
  · simp only [Except.bind]
    cases Edit.applyAll edits code <;> rfl

/-- Whenever a text is no module, the same is reported. -/
theorem exists_report_of_unparsed {shop : Workshop} {code : String} {span : Span}
    (parsed : shop.parse code = .error span) (file : Path) :
    ∃ diagnostic, ∀ id (state : TemplateState),
      outcome (rewritten { shop with id } file code) state =
        (.ok code, state.reported diagnostic) := by
  refine ⟨?report, fun id state => ?step⟩
  case step =>
    simp only [rewritten, parsed]
    rfl

/-- What a module comes to is fixed before the state is known, but
for the source root. -/
theorem exists_modulePlan (shop : Workshop) (root : Option Path) (file : Path)
    (code : String) :
    ∃ plan : Plan, plan.IsFor shop ⟨file, root.getD ⟨""⟩⟩ (bindingsOf shop code) ∧
      ∀ id (state : TemplateState), state.IsSound shop → state.sourceRoot = root →
        plan.Gives { shop with id } state (IsRewritten file code)
          (outcome (rewritten { shop with id } file code) state) := by
  cases parsed : shop.parse code with
  | error span =>
      obtain ⟨diagnostic, reports⟩ := exists_report_of_unparsed parsed file
      refine ⟨⟨[], [diagnostic], .ok []⟩, ⟨by simp, by simp, by simp, by simp⟩, ?_⟩
      intro id state _ _
      rw [reports]
      exact .done rfl rfl (isRewritten_nil file code _)
  | ok program =>
      by_cases unbound : Found.all program code.toList = []
      · refine ⟨⟨[], [], .ok []⟩, ⟨by simp, by simp, by simp, by simp⟩,
          fun id state _ _ => ?_⟩
        simp only [rewritten, parsed, unbound]
        exact .done rfl (TemplateState.follow_nothing _ _ _).symm
          (isRewritten_nil file code _)
      · cases root with
        | none =>
            refine ⟨⟨[], [], .error (.unconfigured file)⟩,
              ⟨by simp, by simp, by simp, by simp⟩, ?_⟩
            intro id state _ unknown
            obtain ⟨first, rest, several⟩ := List.exists_cons_of_ne_nil unbound
            simp only [rewritten, parsed, several, outcome_get_bind, unknown]
            exact .failed rfl (TemplateState.follow_nothing _ _ _).symm
        | some root =>
            obtain ⟨plan, isFor, gives⟩ :=
              exists_bindingsPlan shop ⟨file, root⟩ (bindingsOf shop code)
            refine ⟨plan.applied file code, isFor.applied file code, ?_⟩
            intro id state sound known
            rw [@outcome_rewritten_of_bindings { shop with id } _ _ _ _ _ parsed
              unbound known]
            exact (gives id state sound).applied

theorem outcome_convertTemplates_of_dependency (shop : Workshop) {task : Task}
    (isRead : task.phase = .read) (dependency : task.isDependency = true)
    (state : TemplateState) :
    outcome (convertTemplates shop task) state = (.ok (task, .ignored), state) := by
  unfold convertTemplates
  split
  · next isConfigured =>
    rw [isRead] at isConfigured
    contradiction
  · rw [if_pos dependency]
    rfl
  · rfl

theorem outcome_convertTemplates_of_own (shop : Workshop) {task : Task}
    (isRead : task.phase = .read) (own : ¬ task.isDependency = true)
    (state : TemplateState) :
    outcome (convertTemplates shop task) state =
      match outcome (rewritten shop task.file task.code) state with
      | (.ok code, after) => (.ok ({ task with code }, .handled), after)
      | (.error error, after) => (.error error, after) := by
  unfold convertTemplates
  split
  · next isConfigured =>
    rw [isRead] at isConfigured
    contradiction
  · rw [if_neg own, outcome_bind]
    rcases outcome (rewritten shop task.file task.code) state with ⟨_ | _, _⟩ <;> rfl
  · next _ notRead => exact absurd isRead notRead

/-- A plan tells what a module that is read comes to in the pipeline, whatever the
names of render modules and whatever was read before. -/
structure Plan.IsForTask (shop : Workshop) (root : Option Path) (task : Task)
    (plan : Plan) : Prop where
  bindings : plan.IsFor shop ⟨task.file, root.getD ⟨""⟩⟩ (bindingsOf shop task.code)
  gives :
    ∀ (id : Nat → String) (pipeline : Pipeline), pipeline.templates.IsSound shop →
    pipeline.templates.sourceRoot = root →
    plan.Gives { shop with id } pipeline.templates
      (fun after planned result => ∃ code,
        IsRewritten task.file task.code after planned code ∧
        result = ({ task with code }, if task.isDependency then .ignored
          else .handled))
      ((pipeline.perform { shop with id } task).1,
        (pipeline.perform { shop with id } task).2.templates)

/-- What a module that is read comes to in the pipeline is fixed before the state
is known, but for the source root. -/
theorem exists_taskPlan (shop : Workshop) (root : Option Path) {task : Task}
    (isRead : task.phase = .read) : ∃ plan : Plan, plan.IsForTask shop root task := by
  have ignoredFirst : ∀ pipeline : Pipeline,
      pipeline.replacements.perform task =
        (pipeline.replacements, task, .ignored) := by
    intro pipeline
    rw [Replacements.perform, isRead]
  by_cases dependency : task.isDependency = true
  · refine ⟨⟨[], [], .ok []⟩, ⟨by simp, by simp, by simp, by simp⟩,
      fun id pipeline _ _ => ?_⟩
    have converted :=
      outcome_convertTemplates_of_dependency { shop with id } isRead dependency
        pipeline.templates
    simp only [Pipeline.perform_eq, Pipeline.handed, ignoredFirst, converted]
    refine .done rfl (TemplateState.follow_nothing _ _ _).symm
      ⟨task.code, isRewritten_nil _ _ _, ?_⟩
    rw [if_pos dependency]
    rfl
  · obtain ⟨plan, isFor, gives⟩ := exists_modulePlan shop root task.file task.code
    refine ⟨plan, isFor, fun id pipeline sound known => ?_⟩
    have rewrites := gives id pipeline.templates sound known
    have converted :=
      outcome_convertTemplates_of_own { shop with id } isRead dependency
        pipeline.templates
    simp only [Pipeline.perform_eq, Pipeline.handed, ignoredFirst, converted]
    generalize outcome (rewritten { shop with id } task.file task.code)
      pipeline.templates =
      result at rewrites ⊢
    cases rewrites with
    | failed isError follows => exact .failed isError follows
    | done isOk follows isRewritten =>
        refine .done isOk follows ⟨_, isRewritten, ?_⟩
        rw [if_neg dependency]
        rfl

end VuePrecompiler.Build
