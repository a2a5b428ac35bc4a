import Mathlib.Data.List.Nodup
import Mathlib.Data.List.Perm.Basic
import Mathlib.Logic.Equiv.Basic
import VuePrecompiler.Proofs.ModulePlans
import VuePrecompiler.Proofs.Registration

/-!
# The order of modules

On a disk that does not change, each module that is read comes to what was
planned for it, whatever modules were read before.  So the order of the modules
makes no difference, but for the names of the render modules.
-/

namespace VuePrecompiler.Build

open Files

/-! ## Render modules under other names

Two histories that made render modules of the same templates hold the same
modules, but in another order and under other names.  The comparison needs a
permutation of the modules and, independently, a bijective renaming of the texts
that tell render modules apart.
-/

/-- Distinct texts can be renamed to distinct texts, one by one. -/
theorem exists_rename {left right : List String} (leftDistinct : left.Nodup)
    (rightDistinct : right.Nodup) (sameLength : left.length = right.length) :
    ∃ rename : Equiv.Perm String, left.map rename = right := by
  induction left generalizing right with
  | nil => exact ⟨Equiv.refl _, (List.length_eq_zero_iff.mp sameLength.symm).symm⟩
  | cons first rest induction =>
      obtain ⟨target, targets, rfl⟩ :=
        List.exists_cons_of_length_eq_add_one sameLength.symm
      obtain ⟨notInRest, restDistinct⟩ := List.nodup_cons.mp leftDistinct
      obtain ⟨notInTargets, targetsDistinct⟩ := List.nodup_cons.mp rightDistinct
      obtain ⟨rename, renamed⟩ :=
        induction restDistinct targetsDistinct (Nat.succ.inj sameLength)
      refine ⟨rename.trans (Equiv.swap (rename first) target), ?_⟩
      rw [List.map_cons, Equiv.trans_apply, Equiv.swap_apply_left, ← renamed]
      congr 1
      refine List.map_congr_left fun name member => ?_
      -- The targets of the rest are not touched by the swap.
      have isTarget : rename name ∈ targets := by
        rw [← renamed]
        exact List.mem_map_of_mem member
      refine Equiv.swap_apply_of_ne_of_ne ?_ ?_
      · intro same
        exact notInRest (rename.injective same ▸ member)
      · intro same
        exact notInTargets (same ▸ isTarget)

namespace Made

/-- A render module is told apart by a text. -/
def Bears (made : Made) (name : String) : Prop :=
  made.render = renderModulePath made.template name

/-- A render module is made again under another name. -/
structure IsRenamed (rename : Equiv.Perm String) (made other : Made) : Prop where
  template : other.template = made.template
  function : other.function = made.function
  name : ∃ name, made.Bears name ∧ other.Bears (rename name)

end Made

theorem Records.bears {id : Nat → String} {history : List Made} {state : TemplateState}
    (records : Records id history state) :
    List.Forall₂ Made.Bears history ((List.range history.length).map id) := by
  rw [List.forall₂_iff_get]
  refine ⟨by simp, fun count bound _ => ?_⟩
  have bears := records.renders count _ (List.getElem?_eq_getElem bound)
  simpa [Made.Bears] using bears

/-- Where modules of the same templates are listed in one order, a renaming of the
names makes the ones the others. -/
theorem forall₂_isRenamed {rename : Equiv.Perm String} {first second : List Made}
    {names : List String} (bears : List.Forall₂ Made.Bears first names)
    (bearRenamed : List.Forall₂ Made.Bears second (names.map rename))
    (same : List.Forall₂ (fun made other : Made =>
      other.template = made.template ∧ other.function = made.function) first second) :
    List.Forall₂ (Made.IsRenamed rename) first second := by
  induction bears generalizing second with
  | nil =>
      cases same
      exact .nil
  | @cons made name rest names bearsFirst _ induction =>
      cases same with
      | cons sameFirst sameRest =>
          cases bearRenamed with
          | cons bearsRenamed bearRest =>
              exact .cons ⟨sameFirst.1, sameFirst.2, name, bearsFirst, bearsRenamed⟩
                (induction bearRest sameRest)

/-- Two histories with the same templates differ by an order and a renaming. -/
theorem exists_isRenamed {id other : Nat → String} (distinct : Function.Injective id)
    (otherDistinct : Function.Injective other) {first second : List Made}
    {state after : TemplateState} (records : Records id first state)
    (otherRecords : Records other second after)
    (sameTemplates : ∀ template, template ∈ first.map Made.template ↔
      template ∈ second.map Made.template)
    (sameFunctions : ∀ made ∈ first, ∀ again ∈ second, again.template = made.template →
      again.function = made.function) :
    ∃ (rename : Equiv.Perm String) (reordered : List Made), reordered.Perm second ∧
      List.Forall₂ (Made.IsRenamed rename) first reordered := by
  have permuted : (first.map Made.template).Perm (second.map Made.template) :=
    (List.perm_ext_iff_of_nodup records.templates otherRecords.templates).mpr
      sameTemplates
  -- The second history in the order of the first one, and the names that it has then.
  have ofTemplates :
      List.Forall₂ (fun template (made : Made) => made.template = template)
        (second.map Made.template) second :=
    List.forall₂_map_left_iff.mpr (List.forall₂_same.mpr fun _ _ => rfl)
  obtain ⟨reordered, aligned, reordering⟩ :=
    List.perm_comp_forall₂ permuted ofTemplates
  obtain ⟨names, bearRenamed, named⟩ :=
    List.perm_comp_forall₂ reordering otherRecords.bears
  have sameLength : ((List.range first.length).map id).length = names.length := by
    have lengths := bearRenamed.length_eq
    have alignedLengths := aligned.length_eq
    simp only [List.length_map, List.length_range] at alignedLengths ⊢
    omega
  obtain ⟨rename, renamed⟩ := exists_rename (List.Nodup.map distinct List.nodup_range)
    (named.nodup_iff.mpr (List.Nodup.map otherDistinct List.nodup_range)) sameLength
  refine ⟨rename, reordered, reordering, forall₂_isRenamed records.bears ?_ ?_⟩
  · rw [renamed]
    exact bearRenamed
  · rw [List.forall₂_map_left_iff, List.forall₂_iff_get] at aligned
    refine List.forall₂_iff_get.mpr ⟨aligned.1, fun count bound otherBound => ?_⟩
    have sameTemplate := aligned.2 count bound otherBound
    exact ⟨sameTemplate, sameFunctions _ (List.get_mem first _) _
      (reordering.mem_iff.mp (List.get_mem reordered _)) sameTemplate⟩

/-! ## Runs on one disk -/

open Source

namespace Pipeline

/-- The pipeline behind some tasks, while the disk stays as it is. -/
def runOn (shop : Workshop) (tasks : List Task) : Pipeline :=
  start.run shop (tasks.map fun task => (shop.disk, task))

theorem runOn_concat (shop : Workshop) (tasks : List Task) (last : Task) :
    runOn shop (tasks ++ [last]) = ((runOn shop tasks).perform shop last).2 := by
  rw [runOn, List.map_append, List.map_singleton, run_concat]
  rfl

/-- Whatever all steps keep holds after every run. -/
theorem runOn_keeps {shop : Workshop} {property : TemplateState → Prop}
    (kept : Kept shop property) (holds : property .start) (tasks : List Task) :
    property (runOn shop tasks).templates := by
  induction tasks using List.reverseRecOn with
  | nil => exact holds
  | append_singleton tasks last induction =>
      rw [runOn_concat]
      exact perform_keeps kept _ last induction

theorem isSound_runOn (shop : Workshop) (tasks : List Task) :
    (runOn shop tasks).templates.IsSound shop :=
  runOn_keeps (kept_isSound shop) (fun _ _ known => by contradiction) tasks

/-- Every run has a history, made from the templates on the disk. -/
theorem exists_history {shop : Workshop} (distinct : Function.Injective shop.id)
    (plain : ∀ count, '/' ∉ (shop.id count).toList) (tasks : List Task) :
    ∃ history, Records shop.id history (runOn shop tasks).templates ∧
      ∀ made ∈ history, made.IsFrom shop shop.disk :=
  runOn_keeps (Adds.kept distinct plain rfl [])
    ⟨[], Records.start shop.id, fun _ member => absurd member List.not_mem_nil⟩ tasks

end Pipeline

theorem exists_taskPlans (shop : Workshop) (root : Option Path) :
    ∃ plans : Task → Plan, ∀ task : Task, task.phase = .read →
      (plans task).IsForTask shop root task := by
  have each : ∀ task : Task, ∃ plan : Plan, task.phase = .read →
      plan.IsForTask shop root task := by
    intro task
    by_cases isRead : task.phase = .read
    · obtain ⟨plan, isFor⟩ := exists_taskPlan shop root isRead
      exact ⟨plan, fun _ => isFor⟩
    · exact ⟨⟨[], [], .ok []⟩, fun isRead' => absurd isRead' isRead⟩
  choose plans areFor using each
  exact ⟨plans, areFor⟩

theorem Plan.Gives.follows {α : Type} {shop : Workshop} {plan : Plan}
    {state after : TemplateState} {fits : TemplateState → List PlannedEdit → α → Prop}
    {result : Except TaskError α}
    (gives : plan.Gives shop state fits (result, after)) :
    after = state.follow shop plan := by
  cases gives with
  | failed _ follows => exact follows
  | done _ follows _ => exact follows

namespace TemplateState

/-- The state behind some plans, once a source root was told. -/
def followEach (shop : Workshop) (root : Option Path) (plans : List Plan) :
    TemplateState :=
  plans.foldl (follow shop) { start with sourceRoot := root }

theorem followEach_concat (shop : Workshop) (root : Option Path) (plans : List Plan)
    (last : Plan) :
    followEach shop root (plans ++ [last]) =
      (followEach shop root plans).follow shop last := by
  rw [followEach, List.foldl_append]
  rfl

theorem followEach_sourceRoot (shop : Workshop) (root : Option Path)
    (plans : List Plan) : (followEach shop root plans).sourceRoot = root := by
  induction plans using List.reverseRecOn with
  | nil => rfl
  | append_singleton plans last induction =>
      rw [followEach_concat, follow_sourceRoot, induction]

/-- What is known behind some plans is known behind more. -/
theorem isKnownIn_followEach_append (shop : Workshop) (root : Option Path)
    (plans more : List Plan) :
    (followEach shop root plans).IsKnownIn (followEach shop root (plans ++ more)) := by
  induction more using List.reverseRecOn with
  | nil =>
      rw [List.append_nil]
      exact fun _ _ known => known
  | append_singleton more last induction =>
      rw [← List.append_assoc, followEach_concat]
      exact fun _ _ known => isKnownIn_follow shop _ last _ _ (induction _ _ known)

/-- The templates that are known are those which some plan needs. -/
theorem lookup_followEach_isSome_iff {shop : Workshop} {root : Option Path}
    {plans : List Plan} {template : Path} :
    ((followEach shop root plans).compiled.lookup template).isSome = true ↔
      ∃ plan ∈ plans, template ∈ plan.needed.map Prod.fst := by
  induction plans using List.reverseRecOn with
  | nil => simp [followEach, start]
  | append_singleton plans last induction =>
      rw [followEach_concat, follow_compiled, lookup_foldl_meet_isSome_iff, induction]
      simp only [List.mem_append, List.mem_singleton, or_and_right, exists_or,
        exists_eq_left]

end TemplateState

section

variable {shop : Workshop} {configuration : Task} {plans : Task → Plan}
  (isConfiguration : configuration.phase = .configured)
  (areFor : ∀ task, task.phase = .read →
    (plans task).IsForTask shop configuration.sourceRoot task)
include isConfiguration areFor

/-- A run of modules that are read leads to the state behind their plans. -/
theorem templates_runOn (id : Nat → String) {tasks : List Task}
    (areRead : ∀ task ∈ tasks, task.phase = .read) :
    (Pipeline.runOn { shop with id } (configuration :: tasks)).templates =
      .followEach { shop with id } configuration.sourceRoot (tasks.map plans) := by
  induction tasks using List.reverseRecOn with
  | nil =>
      rw [← List.nil_append [configuration], Pipeline.runOn_concat,
        Pipeline.perform_templates,
        Pipeline.handed_of_ne_built (by simp [isConfiguration])]
      simp only [convertTemplates, isConfiguration]
      rfl
  | append_singleton tasks last induction =>
      have before :=
        induction fun task member => areRead task (List.mem_append_left _ member)
      have known :
          (Pipeline.runOn { shop with id }
            (configuration :: tasks)).templates.sourceRoot =
          configuration.sourceRoot := by
        rw [before, TemplateState.followEach_sourceRoot]
      have follows := ((areFor last (areRead last (by simp))).gives id _
        (Pipeline.isSound_runOn { shop with id } (configuration :: tasks))
        known).follows
      rw [← List.cons_append, Pipeline.runOn_concat, follows, before, List.map_append,
        List.map_singleton, TemplateState.followEach_concat]

/-- The next module that is read comes to what was planned for it. -/
theorem gives_runOn (id : Nat → String) {before : List Task} {task : Task}
    (areRead : ∀ task ∈ before, task.phase = .read) (isRead : task.phase = .read) :
    (plans task).Gives { shop with id }
      (Pipeline.runOn { shop with id } (configuration :: before)).templates
      (fun after planned result => ∃ code,
        IsRewritten task.file task.code after planned code ∧
        result = ({ task with code }, if task.isDependency then .ignored
          else .handled))
      (((Pipeline.runOn { shop with id } (configuration :: before)).perform
          { shop with id } task).1,
        .followEach { shop with id } configuration.sourceRoot
          ((before ++ [task]).map plans)) := by
  have templates := templates_runOn isConfiguration areFor id areRead
  have gives := (areFor task isRead).gives id _
    (Pipeline.isSound_runOn { shop with id } (configuration :: before))
    (by rw [templates, TemplateState.followEach_sourceRoot])
  rw [gives.follows, templates] at gives
  rw [templates, List.map_append, List.map_singleton, TemplateState.followEach_concat]
  exact gives

/-- The next module that is read reports what was planned for it. -/
theorem diagnostics_runOn (id : Nat → String) {before : List Task} {task : Task}
    (areRead : ∀ task ∈ before, task.phase = .read) (isRead : task.phase = .read) :
    ((Pipeline.runOn { shop with id } (configuration :: before)).perform
        { shop with id } task).2.templates.diagnostics =
      (Pipeline.runOn { shop with id }
        (configuration :: before)).templates.diagnostics ++
        (plans task).reports := by
  have areReadToo : ∀ each ∈ before ++ [task], each.phase = .read :=
    List.forall_mem_append.mpr ⟨areRead, by simpa using isRead⟩
  have behind := templates_runOn isConfiguration areFor id areReadToo
  rw [← List.cons_append, Pipeline.runOn_concat, List.map_append, List.map_singleton,
    TemplateState.followEach_concat,
    ← templates_runOn isConfiguration areFor id areRead] at behind
  rw [behind]
  rfl

/-- What is known behind a task is known at the end of the run. -/
theorem isKnownIn_runOn (id : Nat → String) {before later : List Task} {task : Task}
    (areRead : ∀ each ∈ before ++ task :: later, each.phase = .read) :
    (TemplateState.followEach { shop with id } configuration.sourceRoot
      ((before ++ [task]).map plans)).IsKnownIn
        (Pipeline.runOn { shop with id }
          (configuration :: (before ++ task :: later))).templates := by
  have isKnown := TemplateState.isKnownIn_followEach_append { shop with id }
    configuration.sourceRoot ((before ++ [task]).map plans) (later.map plans)
  rwa [← List.map_append, ← List.append_cons,
    ← templates_runOn isConfiguration areFor id areRead] at isKnown

end

/-! ## What is the same in two runs -/

/-- Where both states know a template, its render modules differ by
the renaming only. -/
def NamesAgree (rename : Equiv.Perm String) (left right : TemplateState) : Prop :=
  ∀ template render again, left.compiled.lookup template = some render →
    right.compiled.lookup template = some again →
      ∃ name, render = renderModulePath template name ∧
        again = renderModulePath template (rename name)

/-- Two codes that a module is rewritten to differ by the names of
render modules only. -/
def CodeRenamed (shop : Workshop) (rename : Equiv.Perm String) (task : Task)
    (left right : String) : Prop :=
  ∃ written : List (PlannedEdit × String),
    (∀ edit ∈ written, edit.1.found ∈ bindingsOf shop task.code) ∧
    Edit.applyAll (written.map fun (planned, name) =>
      planned.edit task.file (renderModulePath planned.template name)) task.code =
        .ok left ∧
    Edit.applyAll (written.map fun (planned, name) =>
      planned.edit task.file (renderModulePath planned.template (rename name)))
        task.code =
        .ok right

/-- A task has the same result twice, but for the names of render
modules in the code. -/
inductive SameResult (shop : Workshop) (rename : Equiv.Perm String) (task : Task) :
    Except TaskError (Task × Outcome) → Except TaskError (Task × Outcome) → Prop where
  | failed (error : TaskError) :
      SameResult shop rename task (.error error) (.error error)
  | done {left right : String} (outcome : Outcome) :
      CodeRenamed shop rename task left right →
      SameResult shop rename task (.ok ({ task with code := left }, outcome))
        (.ok ({ task with code := right }, outcome))

/-- A task does the same in two pipelines: it has the same result and
reports the same. -/
structure SameStep (rename : Equiv.Perm String) (shop again : Workshop)
    (left right : Pipeline) (task : Task) : Prop where
  result :
    SameResult shop rename task (left.perform shop task).1 (right.perform again task).1
  reports : ∃ reports,
    (left.perform shop task).2.templates.diagnostics =
      left.templates.diagnostics ++ reports ∧
      (right.perform again task).2.templates.diagnostics =
        right.templates.diagnostics ++ reports

/-- A module in memory under another name. -/
def RegisteredModule.IsRenamed (rename : Equiv.Perm String)
    (module again : RegisteredModule) :
    Prop :=
  again.encoding = module.encoding ∧ again.content = module.content ∧
    ∃ template name, module.path = renderModulePath template name ∧
      again.path = renderModulePath template (rename name)

/-- Two registries hold the same modules in some order, but for their names. -/
def SameModules (rename : Equiv.Perm String) (left right : Registry) : Prop :=
  ∃ reordered : List RegisteredModule, reordered.Perm right.modules ∧
    List.Forall₂ (RegisteredModule.IsRenamed rename) left.modules reordered

theorem Made.IsRenamed.inMemory {rename : Equiv.Perm String} {made again : Made}
    (renamed : made.IsRenamed rename again) :
    made.inMemory.IsRenamed rename again.inMemory := by
  obtain ⟨name, bears, bearsRenamed⟩ := renamed.name
  refine ⟨rfl, ?_, made.template, name, bears, ?_⟩
  · show renderModuleText again.function = renderModuleText made.function
    rw [renamed.function]
  · rw [Made.inMemory_path, bearsRenamed, renamed.template]

section

variable {id other : Nat → String} {first second reordered : List Made}
  {state after : TemplateState} {rename : Equiv.Perm String}
  (records : Records id first state) (again : Records other second after)
  (reordering : reordered.Perm second)
  (renamed : List.Forall₂ (Made.IsRenamed rename) first reordered)
include records again reordering renamed

theorem sameModules_of_renamed : SameModules rename state.registry after.registry := by
  refine ⟨reordered.map Made.inMemory, ?_, ?_⟩
  · rw [again.modules]
    exact reordering.map Made.inMemory
  · rw [records.modules, List.forall₂_map_left_iff, List.forall₂_map_right_iff]
    exact renamed.imp fun _ _ isRenamed => isRenamed.inMemory

theorem namesAgree_of_renamed : NamesAgree rename state after := by
  intro template render other known knownAgain
  obtain ⟨made, isMade, rfl, rfl⟩ := records.made known
  obtain ⟨twice, isTwice, sameTemplate, rfl⟩ := again.made knownAgain
  -- The counterpart of what was made is what was made again: it is of the same
  -- template.
  obtain ⟨count, bound, rfl⟩ := List.mem_iff_getElem.mp isMade
  have otherBound := renamed.length_eq ▸ bound
  have isRenamed : first[count].IsRenamed rename reordered[count] :=
    renamed.get bound otherBound
  have isSame : reordered[count] = twice := by
    refine List.inj_on_of_nodup_map again.templates ?_ isTwice ?_
    · exact reordering.mem_iff.mp (List.getElem_mem otherBound)
    · exact isRenamed.template.trans sameTemplate.symm
  obtain ⟨name, bears, bearsRenamed⟩ := isRenamed.name
  refine ⟨name, bears, ?_⟩
  rw [← isSame, ← isRenamed.template]
  exact bearsRenamed

end

/-- The same planned edits differ by the names of render modules. -/
theorem exists_written {rename : Equiv.Perm String} {file : Path}
    {left right : TemplateState} (agree : NamesAgree rename left right)
    {planned : List PlannedEdit} {edits others : List Edit}
    (written : AreWritten file left planned edits)
    (writtenAgain : AreWritten file right planned others) :
    ∃ names : List (PlannedEdit × String), names.map Prod.fst = planned ∧
      edits = names.map (fun (planned, name) =>
        planned.edit file (renderModulePath planned.template name)) ∧
      others = names.map (fun (planned, name) =>
        planned.edit file (renderModulePath planned.template (rename name))) := by
  induction written generalizing others with
  | nil =>
      cases writtenAgain
      exact ⟨[], rfl, rfl, rfl⟩
  | @cons edit _ _ _ isWritten _ induction =>
      cases writtenAgain with
      | cons isAgain restAgain =>
          obtain ⟨render, known, rfl⟩ := isWritten
          obtain ⟨renderAgain, knownAgain, rfl⟩ := isAgain
          obtain ⟨name, rfl, rfl⟩ := agree _ _ _ known knownAgain
          obtain ⟨names, rfl, rfl, rfl⟩ := induction restAgain
          exact ⟨(edit, name) :: names, rfl, rfl, rfl⟩

/-- A module that is read has the same result in two states with one source root. -/
theorem sameResult_of_gives {shop again : Workshop} {rename : Equiv.Perm String}
    {root : Option Path} {task : Task} {plan : Plan}
    (isFor : plan.IsForTask shop root task)
    {left right after afterAgain : TemplateState}
    {result resultAgain : Except TaskError (Task × Outcome)} {outcome : Outcome}
    (gives : plan.Gives shop left (fun after planned result => ∃ code,
      IsRewritten task.file task.code after planned code ∧
      result = ({ task with code }, outcome))
      (result, after))
    (givesAgain : plan.Gives again right (fun after planned result => ∃ code,
      IsRewritten task.file task.code after planned code ∧
      result = ({ task with code }, outcome))
      (resultAgain, afterAgain))
    (agree : NamesAgree rename after afterAgain) :
    SameResult shop rename task result resultAgain := by
  cases gives with
  | @failed error _ isError _ =>
      cases givesAgain with
      | failed isErrorAgain _ =>
          rw [isError] at isErrorAgain
          rw [← Except.error.inj isErrorAgain]
          exact .failed error
      | done isOk _ _ =>
          rw [isError] at isOk
          contradiction
  | done isOk _ isDone =>
      cases givesAgain with
      | failed isError _ =>
          rw [isOk] at isError
          contradiction
      | done isOkAgain _ isDoneAgain =>
          obtain ⟨code, ⟨edits, written, applied⟩, rfl⟩ := isDone
          obtain ⟨codeAgain, ⟨others, writtenAgain, appliedAgain⟩, rfl⟩ := isDoneAgain
          obtain rfl := Except.ok.inj (isOk.symm.trans isOkAgain)
          obtain ⟨names, rfl, rfl, rfl⟩ := exists_written agree written writtenAgain
          refine .done outcome ⟨names, ?_, applied, appliedAgain⟩
          intro edit member
          exact (isFor.bindings.planned _ isOk _ (List.mem_map_of_mem member)).1

theorem Records.lookup_isSome_iff {id : Nat → String} {history : List Made}
    {state : TemplateState} (records : Records id history state) {template : Path} :
    (state.compiled.lookup template).isSome = true ↔
      template ∈ history.map Made.template := by
  constructor
  · intro isKnown
    obtain ⟨render, known⟩ := Option.isSome_iff_exists.mp isKnown
    obtain ⟨made, member, rfl, _⟩ := records.made known
    exact List.mem_map_of_mem member
  · intro member
    rw [← Option.ne_none_iff_isSome]
    exact fun unknown => records.lookup_eq_none unknown member

/-- The function of a template is told by the disk. -/
theorem Made.IsFrom.function_eq {shop : Workshop} {disk : Snapshot} {made again : Made}
    (isFrom : made.IsFrom shop disk) (isFromAgain : again.IsFrom shop disk)
    (sameTemplate : again.template = made.template) :
    again.function = made.function := by
  obtain ⟨text, body, read, compiled, adapted⟩ := isFrom
  obtain ⟨textAgain, bodyAgain, readAgain, compiledAgain, adaptedAgain⟩ := isFromAgain
  rw [sameTemplate, read] at readAgain
  obtain rfl := Except.ok.inj readAgain
  obtain rfl := Except.ok.inj (compiled.symm.trans compiledAgain)
  exact (Except.ok.inj (adapted.symm.trans adaptedAgain)).symm

/-- The modules that are read can come in any order: each has the same result and
the same diagnostics, and the same render modules are registered, up to one
renaming for the whole run. -/
theorem run_order_irrelevant {shop : Workshop} {other : Nat → String}
    (distinct : Function.Injective shop.id)
    (plain : ∀ count, '/' ∉ (shop.id count).toList)
    (otherDistinct : Function.Injective other)
    (otherPlain : ∀ count, '/' ∉ (other count).toList)
    {configuration : Task} (isConfiguration : configuration.phase = .configured)
    {tasks permuted : List Task} (areRead : ∀ task ∈ tasks, task.phase = .read)
    (sameTasks : tasks.Perm permuted) :
    ∃ rename : Equiv.Perm String,
      (∀ before task later before' later', tasks = before ++ task :: later →
        permuted = before' ++ task :: later' →
        SameStep rename shop { shop with id := other }
          (.runOn shop (configuration :: before))
          (.runOn { shop with id := other } (configuration :: before')) task) ∧
      SameModules rename
        (Pipeline.runOn shop (configuration :: tasks)).templates.registry
        (Pipeline.runOn { shop with id := other }
          (configuration :: permuted)).templates.registry := by
  obtain ⟨plans, areFor⟩ := exists_taskPlans shop configuration.sourceRoot
  have areReadAgain : ∀ task ∈ permuted, task.phase = .read :=
    fun task member => areRead task (sameTasks.mem_iff.mpr member)
  have templates := templates_runOn isConfiguration areFor shop.id areRead
  have templatesAgain := templates_runOn isConfiguration areFor other areReadAgain
  obtain ⟨first, records, isFrom⟩ :=
    Pipeline.exists_history distinct plain (configuration :: tasks)
  obtain ⟨second, again, isFromAgain⟩ :=
    @Pipeline.exists_history { shop with id := other } otherDistinct otherPlain
      (configuration :: permuted)
  have sameTemplates : ∀ template, template ∈ first.map Made.template ↔
      template ∈ second.map Made.template := by
    intro template
    rw [← records.lookup_isSome_iff, ← again.lookup_isSome_iff, templates,
      templatesAgain, TemplateState.lookup_followEach_isSome_iff,
      TemplateState.lookup_followEach_isSome_iff]
    simp only [(sameTasks.map plans).mem_iff]
  obtain ⟨rename, reordered, reordering, renamed⟩ :=
    exists_isRenamed distinct otherDistinct records again sameTemplates
      fun made isMade twice isTwice =>
        (isFrom made isMade).function_eq (isFromAgain twice isTwice)
  refine ⟨rename, ?_, sameModules_of_renamed records again reordering renamed⟩
  have agree := namesAgree_of_renamed records again reordering renamed
  rintro before task later before' later' rfl rfl
  have isRead : task.phase = .read := areRead task (by simp)
  have areReadBefore : ∀ task ∈ before, task.phase = .read :=
    fun task member => areRead task (List.mem_append_left _ member)
  have areReadBefore' : ∀ task ∈ before', task.phase = .read :=
    fun task member => areReadAgain task (List.mem_append_left _ member)
  have gives := gives_runOn isConfiguration areFor shop.id areReadBefore isRead
  have givesAgain := gives_runOn isConfiguration areFor other areReadBefore' isRead
  refine ⟨sameResult_of_gives (areFor task isRead) gives givesAgain ?_,
    (plans task).reports, diagnostics_runOn isConfiguration areFor shop.id
      areReadBefore isRead,
    diagnostics_runOn isConfiguration areFor other areReadBefore' isRead⟩
  intro template render renderAgain known knownAgain
  exact agree template render renderAgain
    (isKnownIn_runOn isConfiguration areFor shop.id areRead _ _ known)
    (isKnownIn_runOn isConfiguration areFor other areReadAgain _ _ knownAgain)

/-- Two modules that require one template. -/
def requiringModule (file : Path) : Task :=
  ⟨.read, file, requiringCode, false, none⟩

/-- In one order the first module makes the render module that it
finds in the other. -/
theorem required_in_either_order :
    ∃ rename : Equiv.Perm String,
      SameStep rename requiringShop { requiringShop with
        id := requiringShop.id ∘ Nat.succ }
        (.runOn requiringShop [.configuration ⟨"/"⟩])
        (.runOn { requiringShop with id := requiringShop.id ∘ Nat.succ }
          [.configuration ⟨"/"⟩, requiringModule ⟨"/lib.js"⟩])
        (requiringModule ⟨"/main.js"⟩) ∧
      SameModules rename
        (Pipeline.runOn requiringShop [.configuration ⟨"/"⟩,
          requiringModule ⟨"/main.js"⟩,
          requiringModule ⟨"/lib.js"⟩]).templates.registry
        (Pipeline.runOn { requiringShop with id := requiringShop.id ∘ Nat.succ }
          [.configuration ⟨"/"⟩, requiringModule ⟨"/lib.js"⟩,
            requiringModule ⟨"/main.js"⟩]).templates.registry := by
  have areRead : ∀ task ∈ [requiringModule ⟨"/main.js"⟩, requiringModule ⟨"/lib.js"⟩],
      task.phase = .read := by
    simp [requiringModule]
  obtain ⟨rename, sameSteps, sameModules⟩ :=
    run_order_irrelevant requiringShop_distinct requiringShop_plain
      (requiringShop_distinct.comp Nat.succ_injective)
      (fun count => requiringShop_plain (count + 1))
      (rfl : (Task.configuration ⟨"/"⟩).phase = .configured) areRead (.swap _ _ _)
  exact ⟨rename,
    sameSteps [] _ [requiringModule ⟨"/lib.js"⟩] [requiringModule ⟨"/lib.js"⟩] [] rfl
      rfl,
    sameModules⟩

end VuePrecompiler.Build
