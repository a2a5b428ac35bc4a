import VuePrecompiler.Proofs.Registration
import VuePrecompiler.Proofs.RuntimeBuildPaths

/-!
# What a call of the pipeline can change

A call changes the code of a module that was read, or the file of a dependency
that was built, and nothing else of its task; a call that fails or ignores the
task changes nothing of it.  In the state, a call only adds: what was compiled
and registered before stays, also when the call fails halfway.
-/

namespace VuePrecompiler.Build

open Files

/-- The source roots that some tasks tell. -/
def toldRoots (tasks : List Task) : List Path :=
  tasks.filterMap fun task =>
    if task.phase = .configured then task.sourceRoot else none

/-- The builds of the framework below some source roots, those of
the last one first. -/
def buildsBelow (roots : List Path) : List (Path × Path) :=
  (roots.map fun root => (fullBuildBelow root, runtimeBuildBelow root)).reverse

namespace Replacements

theorem perform_builds (replacements : Replacements) (task : Task) :
    (replacements.perform task).1.builds =
      buildsBelow (toldRoots [task]) ++ replacements.builds := by
  unfold perform
  split
  · next isConfigured =>
    cases root : task.sourceRoot <;>
      simp [toldRoots, isConfigured, root, buildsBelow, learn_builds]
  · next isBuilt => split <;> simp [toldRoots, isBuilt, buildsBelow]
  · next notConfigured _ =>
    rw [toldRoots, List.filterMap_cons, if_neg notConfigured]
    rfl

/-- A task that is ignored is handed on as it is. -/
theorem of_perform_eq_ignored {replacements : Replacements} {task : Task}
    (ignored : (replacements.perform task).2.2 = .ignored) :
    (replacements.perform task).2.1 = task := by
  unfold perform at ignored ⊢
  split
  · rfl
  · next isBuilt =>
    split
    · next isDependency => simp [isBuilt, isDependency] at ignored
    · rfl
  · rfl

variable {replacements : Replacements} {roots : List Path}
  (known : replacements.builds = buildsBelow roots)
include known

theorem mem_builds_iff {entry : Path × Path} :
    entry ∈ replacements.builds ↔
      ∃ root ∈ roots, (fullBuildBelow root, runtimeBuildBelow root) = entry := by
  rw [known, buildsBelow, List.mem_reverse, List.mem_map]

/-- The full build below a source root is replaced by the runtime build below it. -/
theorem runtimeBuild?_of_mem {file root : Path} (member : root ∈ roots)
    (isFull : file.normalized = fullBuildBelow root) :
    replacements.runtimeBuild? file = some (runtimeBuildBelow root) := by
  rw [runtimeBuild?, isFull]
  cases found : replacements.builds.lookup (fullBuildBelow root) with
  | none =>
      rw [List.lookup_eq_none_iff] at found
      have different := found _ ((mem_builds_iff known).mpr ⟨root, member, rfl⟩)
      simp at different
  | some runtime =>
      obtain ⟨before, behind, entries, _⟩ := List.lookup_eq_some_iff.mp found
      have isEntry : (fullBuildBelow root, runtime) ∈ replacements.builds := by
        simp [entries]
      obtain ⟨other, _, same⟩ := (mem_builds_iff known).mp isEntry
      obtain ⟨sameFull, rfl⟩ := Prod.mk.inj same
      rw [runtimeBuildBelow_congr sameFull]

/-- No other file is replaced. -/
theorem runtimeBuild?_eq_none {file : Path}
    (isOther : ∀ root ∈ roots, file.normalized ≠ fullBuildBelow root) :
    replacements.runtimeBuild? file = none := by
  rw [runtimeBuild?, List.lookup_eq_none_iff]
  intro entry isEntry
  obtain ⟨root, member, rfl⟩ := (mem_builds_iff known).mp isEntry
  simpa using isOther root member

end Replacements

theorem Outcome.or_eq_ignored {first second : Outcome}
    (both : first.or second = .ignored) : first = .ignored ∧ second = .ignored := by
  cases first <;> cases second <;> first | contradiction | exact ⟨rfl, rfl⟩

namespace Pipeline

/-- The states of a pipeline behind some calls.  Each call finds the disk as it is
then, and between the calls the diagnostics may be taken. -/
inductive Reached (shop : Workshop) : List Task → Pipeline → Prop where
  | start : Reached shop [] .start
  | called {tasks : List Task} {pipeline : Pipeline} (disk : Snapshot) (task : Task) :
      Reached shop tasks pipeline →
      Reached shop (tasks ++ [task]) (pipeline.perform { shop with disk } task).2
  | taken {tasks : List Task} {pipeline : Pipeline} :
      Reached shop tasks pipeline → Reached shop tasks pipeline.takeDiagnostics.2

/-- The task behind a call.  Both stages change it in place, the second one once
nothing can fail any more. -/
def behind (shop : Workshop) (pipeline : Pipeline) (task : Task) : Task :=
  match (pipeline.perform shop task).1 with
  | .ok (done, _) => done
  | .error _ => pipeline.handed task

theorem perform_replacements (shop : Workshop) (pipeline : Pipeline) (task : Task) :
    (pipeline.perform shop task).2.replacements =
      (pipeline.replacements.perform task).1 := by
  rw [perform_eq]
  rcases Step.outcome (convertTemplates shop (pipeline.handed task)) pipeline.templates
    with ⟨_ | _, templates⟩ <;> rfl

theorem Reached.builds {shop : Workshop} {tasks : List Task} {pipeline : Pipeline}
    (reached : Reached shop tasks pipeline) :
    pipeline.replacements.builds = buildsBelow (toldRoots tasks) := by
  induction reached with
  | start => rfl
  | called disk task _ induction =>
      rw [perform_replacements, Replacements.perform_builds, induction, toldRoots,
        toldRoots, toldRoots, List.filterMap_append, buildsBelow, buildsBelow,
        buildsBelow, List.map_append, List.reverse_append]
  | taken _ induction => exact induction

theorem Reached.records {shop : Workshop} (distinct : Function.Injective shop.id)
    (plain : ∀ count, '/' ∉ (shop.id count).toList) {tasks : List Task}
    {pipeline : Pipeline} (reached : Reached shop tasks pipeline) :
    ∃ history, Records shop.id history pipeline.templates := by
  induction reached with
  | start => exact ⟨[], Records.start shop.id⟩
  | called disk task _ induction =>
      obtain ⟨history, records⟩ := induction
      obtain ⟨added, recorded, _⟩ :=
        @Records.perform shop.id distinct plain { shop with disk } rfl _ _ records task
      exact ⟨history ++ added, recorded⟩
  | taken _ induction =>
      obtain ⟨history, records⟩ := induction
      exact ⟨history, records.congr rfl rfl rfl⟩

/-! ## The task -/

theorem handed_file (pipeline : Pipeline) {task : Task} (isBuilt : task.phase = .built)
    (isDependency : task.isDependency = true) :
    (pipeline.handed task).file =
      (pipeline.replacements.runtimeBuild? task.file).getD task.file := by
  simp only [handed, Replacements.perform, isBuilt, isDependency, ↓reduceIte]

theorem handed_of_own (pipeline : Pipeline) {task : Task}
    (own : task.isDependency = false) : pipeline.handed task = task := by
  unfold handed Replacements.perform
  split
  · rfl
  · rw [own]
    rfl
  · rfl

theorem behind_eq (shop : Workshop) (pipeline : Pipeline) (task : Task) :
    pipeline.behind shop task =
      match (Step.outcome (convertTemplates shop (pipeline.handed task))
        pipeline.templates).1 with
      | .ok (done, _) => done
      | .error _ => pipeline.handed task := by
  rw [behind, perform_eq]
  rcases Step.outcome (convertTemplates shop (pipeline.handed task)) pipeline.templates
    with ⟨_ | _, templates⟩ <;> rfl

/-- The second stage changes the code only, and that of a module which was read. -/
theorem behind_eq_handed (shop : Workshop) (pipeline : Pipeline) (task : Task) :
    pipeline.behind shop task = pipeline.handed task ∨
      (task.phase = .read ∧ task.isDependency = false) ∧
        ∃ code after, Rewrites shop task.file task.code pipeline.templates
          (.ok code, after) ∧
          (pipeline.perform shop task).2.templates = after ∧
          pipeline.behind shop task = { task with code } := by
  have converts :=
    convertTemplates_converts shop (pipeline.handed task) pipeline.templates
  rw [behind_eq, perform_templates]
  generalize Step.outcome (convertTemplates shop (pipeline.handed task))
    pipeline.templates =
    result at converts ⊢
  cases converts with
  | configured => exact .inl rfl
  | ignored => exact .inl rfl
  | failed => exact .inl rfl
  | @rewritten code after isRead own rewrites =>
      have isOwn : task.isDependency = false := by
        rw [← own, handed_eq]
      have isHanded : pipeline.handed task = task := handed_of_own pipeline isOwn
      rw [isHanded] at isRead rewrites ⊢
      exact .inr ⟨⟨isRead, isOwn⟩, code, after, rewrites, rfl, rfl⟩

theorem behind_file (shop : Workshop) (pipeline : Pipeline) (task : Task) :
    (pipeline.behind shop task).file = (pipeline.handed task).file := by
  rcases behind_eq_handed shop pipeline task with
    same | ⟨⟨_, own⟩, code, _, _, _, same⟩
  · rw [same]
  · rw [same, handed_of_own pipeline own]

/-- Only modules that are read can fail. -/
theorem isRead_of_perform_eq_error {shop : Workshop} {pipeline : Pipeline}
    {task : Task} {error : TaskError}
    (failed : (pipeline.perform shop task).1 = .error error) :
    task.phase = .read ∧ task.isDependency = false := by
  have stopped := of_perform_eq_error (Prod.ext failed rfl)
  have converts :=
    convertTemplates_converts shop (pipeline.handed task) pipeline.templates
  rw [stopped] at converts
  cases converts with
  | failed isRead own =>
      rw [handed_eq] at isRead own
      exact ⟨isRead, own⟩

/-- The new file is never taken for a full build again. -/
theorem handed_runtimeBuildBelow {pipeline : Pipeline} {roots : List Path}
    (known : pipeline.replacements.builds = buildsBelow roots) {task : Task}
    {root : Path} (isRuntime : task.file = runtimeBuildBelow root) :
    (pipeline.handed task).file = task.file := by
  by_cases isBuilt : task.phase = .built
  · cases dependency : task.isDependency with
    | false => rw [handed_of_own pipeline dependency]
    | true =>
        have none := Replacements.runtimeBuild?_eq_none known fun other _ =>
          normalized_runtimeBuildBelow_ne root other
        rw [handed_file pipeline isBuilt dependency, isRuntime, none, Option.getD_none]
  · rw [handed_of_ne_built isBuilt]

/-! ## The reports -/

/-- What is reported on bindings is no parse failure. -/
theorem keptByBindings_reports (shop : Workshop) (before : List Diagnostic) :
    KeptByBindings shop fun state => ∃ reports, state.diagnostics = before ++ reports ∧
      ∀ diagnostic ∈ reports, diagnostic.reason ≠ .parseFailure := by
  refine ⟨?_, fun _ _ _ _ _ _ _ holds => holds⟩
  rintro state diagnostic other ⟨reports, reported, others⟩
  refine ⟨reports ++ [diagnostic], ?_, ?_⟩
  · rw [← List.append_assoc, ← reported]
    rfl
  · intro report member
    rcases List.mem_append.mp member with earlier | isLast
    · exact others report earlier
    · rwa [List.mem_singleton.mp isLast]

/-- A module whose code changes is none that cannot be parsed. -/
theorem code_eq_of_parseFailure {shop : Workshop} {file : Path} {code result : String}
    {state after : TemplateState}
    (rewrites : Rewrites shop file code state (.ok result, after))
    {reports : List Diagnostic}
    (reported : after.diagnostics = state.diagnostics ++ reports)
    (failure : ∃ diagnostic ∈ reports, diagnostic.reason = .parseFailure) :
    result = code := by
  generalize outcome : (Except.ok result, after) = rewritten at rewrites
  cases rewrites with
  | unparsed => exact Except.ok.inj (Prod.mk.inj outcome).1
  | unbound => exact Except.ok.inj (Prod.mk.inj outcome).1
  | unconfigured => simp at outcome
  | failed => simp at outcome
  | conflicting => simp at outcome
  | rewritten _ treated =>
      obtain ⟨_, rfl⟩ := Prod.mk.inj outcome
      obtain ⟨others, same, noFailures⟩ :=
        keeps_of_treated (keptByBindings_reports shop state.diagnostics) treated
          ⟨[], (List.append_nil _).symm, by simp⟩
      obtain ⟨diagnostic, member, isFailure⟩ := failure
      rw [reported, List.append_cancel_left_eq] at same
      rw [same] at member
      exact absurd isFailure (noFailures diagnostic member)

/-! ## Calls in reached states -/

/-- What a call may change of its task and of the state, when the tasks before
told some source roots. -/
structure IsFramed (shop : Workshop) (roots : List Path) (pipeline : Pipeline)
    (task : Task) : Prop where
  others : pipeline.behind shop task = { task with
    file := (pipeline.behind shop task).file
    code := (pipeline.behind shop task).code }
  code : (pipeline.behind shop task).code ≠ task.code →
    task.phase = .read ∧ task.isDependency = false
  file : (pipeline.behind shop task).file ≠ task.file ↔
    task.phase = .built ∧ task.isDependency = true ∧
      ∃ root ∈ roots, task.file.normalized = fullBuildBelow root
  runtimeBuild : task.phase = .built → task.isDependency = true → ∀ root ∈ roots,
    task.file.normalized = fullBuildBelow root →
      (pipeline.behind shop task).file = runtimeBuildBelow root
  failed : ∀ error, (pipeline.perform shop task).1 = .error error →
    pipeline.behind shop task = task ∧
      (pipeline.perform shop task).2.replacements = pipeline.replacements ∧
      (pipeline.perform shop task).2.templates.sourceRoot =
        pipeline.templates.sourceRoot
  ignored : ∀ done, (pipeline.perform shop task).1 = .ok (done, .ignored) →
    pipeline.behind shop task = task
  unparsed : ∀ reports, (pipeline.perform shop task).2.templates.diagnostics =
      pipeline.templates.diagnostics ++ reports →
    (∃ diagnostic ∈ reports, diagnostic.reason = .parseFailure) →
      pipeline.behind shop task = task
  builds :
    pipeline.replacements.builds <:+ (pipeline.perform shop task).2.replacements.builds
  compiled :
    pipeline.templates.compiled <+: (pipeline.perform shop task).2.templates.compiled
  modules : pipeline.templates.registry.modules <+:
    (pipeline.perform shop task).2.templates.registry.modules

theorem behind_of_failed {shop : Workshop} {pipeline : Pipeline} {task : Task}
    {error : TaskError} (failed : (pipeline.perform shop task).1 = .error error) :
    pipeline.behind shop task = task := by
  rw [behind, failed]
  exact handed_of_own pipeline (isRead_of_perform_eq_error failed).2

theorem sourceRoot_of_failed {shop : Workshop} {pipeline : Pipeline} {task : Task}
    {error : TaskError} (failed : (pipeline.perform shop task).1 = .error error) :
    (pipeline.perform shop task).2.templates.sourceRoot =
      pipeline.templates.sourceRoot := by
  have converts :=
    convertTemplates_converts shop (pipeline.handed task) pipeline.templates
  rw [of_perform_eq_error (Prod.ext failed rfl)] at converts
  cases converts with
  | failed _ _ rewrites => exact rewrites.sourceRoot

theorem behind_of_ignored {shop : Workshop} {pipeline : Pipeline} {task done : Task}
    (ignored : (pipeline.perform shop task).1 = .ok (done, .ignored)) :
    pipeline.behind shop task = task := by
  have succeeded : pipeline.perform shop task =
      (.ok (done, .ignored), (pipeline.perform shop task).2) := Prod.ext ignored rfl
  obtain ⟨second, converted, both⟩ := of_perform_eq_ok succeeded
  obtain ⟨first, rfl⟩ := Outcome.or_eq_ignored both.symm
  have converts :=
    convertTemplates_converts shop (pipeline.handed task) pipeline.templates
  rw [converted] at converts
  rw [behind, ignored]
  generalize outcome :
    (Except.ok (done, Outcome.ignored), (pipeline.perform shop task).2.templates) =
    result at converts
  cases converts with
  | ignored =>
      obtain ⟨same, _⟩ := Prod.mk.inj outcome
      rw [(Prod.mk.inj (Except.ok.inj same)).1]
      exact Replacements.of_perform_eq_ignored first
  | configured => simp at outcome
  | rewritten => simp at outcome
  | failed => simp at outcome

theorem diagnostics_of_dependency {shop : Workshop} {pipeline : Pipeline} {task : Task}
    (isDependency : task.isDependency = true) :
    (pipeline.perform shop task).2.templates.diagnostics =
      pipeline.templates.diagnostics := by
  have converts :=
    convertTemplates_converts shop (pipeline.handed task) pipeline.templates
  have dependency : (pipeline.handed task).isDependency = true := by
    rw [handed_eq, isDependency]
  rw [perform_templates]
  generalize Step.outcome (convertTemplates shop (pipeline.handed task))
    pipeline.templates =
    result at converts ⊢
  cases converts with
  | configured => rfl
  | ignored => rfl
  | rewritten _ own => simp [dependency] at own
  | failed _ own => simp [dependency] at own

theorem behind_of_parseFailure {shop : Workshop} {pipeline : Pipeline} {task : Task}
    {reports : List Diagnostic}
    (reported : (pipeline.perform shop task).2.templates.diagnostics =
      pipeline.templates.diagnostics ++ reports)
    (failure : ∃ diagnostic ∈ reports, diagnostic.reason = .parseFailure) :
    pipeline.behind shop task = task := by
  cases dependency : task.isDependency with
  | true =>
      rw [diagnostics_of_dependency dependency, List.self_eq_append_right] at reported
      obtain ⟨diagnostic, member, _⟩ := failure
      rw [reported] at member
      contradiction
  | false =>
      rcases behind_eq_handed shop pipeline task with
        same | ⟨_, code, after, rewrites, isAfter, same⟩
      · rw [same, handed_of_own pipeline dependency]
      · rw [isAfter] at reported
        rw [same, code_eq_of_parseFailure rewrites reported failure]

/-- The file of a dependency that was built changes if and only if
it is a full build. -/
theorem behind_file_ne_iff {shop : Workshop} {pipeline : Pipeline} {roots : List Path}
    (known : pipeline.replacements.builds = buildsBelow roots) (task : Task) :
    (pipeline.behind shop task).file ≠ task.file ↔
      task.phase = .built ∧ task.isDependency = true ∧
        ∃ root ∈ roots, task.file.normalized = fullBuildBelow root := by
  rw [behind_file]
  constructor
  · intro changed
    by_contra unlike
    apply changed
    by_cases isBuilt : task.phase = .built
    · cases dependency : task.isDependency with
      | false => rw [handed_of_own pipeline dependency]
      | true =>
          have isOther : ∀ root ∈ roots, task.file.normalized ≠ fullBuildBelow root :=
            fun root member isFull =>
              unlike ⟨isBuilt, dependency, root, member, isFull⟩
          rw [handed_file pipeline isBuilt dependency,
            Replacements.runtimeBuild?_eq_none known isOther, Option.getD_none]
    · rw [handed_of_ne_built isBuilt]
  · rintro ⟨isBuilt, isDependency, root, member, isFull⟩ unchanged
    rw [handed_file pipeline isBuilt isDependency,
      Replacements.runtimeBuild?_of_mem known member isFull,
      Option.getD_some] at unchanged
    rw [← unchanged] at isFull
    exact normalized_runtimeBuildBelow_ne root root isFull

/-- In every state that calls can lead to, the next call changes of its task only
what it is for, and nothing if it fails; in the state it only adds. -/
theorem isFramed {shop : Workshop} (distinct : Function.Injective shop.id)
    (plain : ∀ count, '/' ∉ (shop.id count).toList) {tasks : List Task}
    {pipeline : Pipeline} (reached : Reached shop tasks pipeline) (disk : Snapshot)
    (task : Task) : IsFramed { shop with disk } (toldRoots tasks) pipeline task := by
  have known := reached.builds
  obtain ⟨history, records⟩ := reached.records distinct plain
  obtain ⟨added, recorded, _⟩ :=
    @Records.perform shop.id distinct plain { shop with disk } rfl _ _ records task
  refine ⟨?_, ?_, behind_file_ne_iff known task, ?_, ?_, fun _ => behind_of_ignored,
    fun _ => behind_of_parseFailure, ?_, ?_, ?_⟩
  · rcases behind_eq_handed { shop with disk } pipeline task with
      same | ⟨_, _, _, _, _, same⟩
    · rw [same, handed_eq]
    · rw [same]
  · intro changed
    rcases behind_eq_handed { shop with disk } pipeline task with same | ⟨ownRead, _⟩
    · rw [same, handed_code] at changed
      contradiction
    · exact ownRead
  · intro isBuilt isDependency root member isFull
    rw [behind_file, handed_file pipeline isBuilt isDependency,
      Replacements.runtimeBuild?_of_mem known member isFull, Option.getD_some]
  · intro error failed
    refine ⟨behind_of_failed failed, ?_, sourceRoot_of_failed failed⟩
    have isRead := (isRead_of_perform_eq_error failed).1
    rw [perform_replacements, Replacements.perform, isRead]
  · rw [perform_replacements, Replacements.perform_builds]
    exact List.suffix_append _ _
  · rw [records.compiled, recorded.compiled, List.map_append]
    exact List.prefix_append _ _
  · rw [records.modules, recorded.modules, List.map_append]
    exact List.prefix_append _ _

/-- Every call leaves alone what it is not for, and no later call changes the
runtime build again that an earlier one put in the place of a full build. -/
theorem calls_framed {shop : Workshop} (distinct : Function.Injective shop.id)
    (plain : ∀ count, '/' ∉ (shop.id count).toList) {tasks : List Task}
    {pipeline : Pipeline} (reached : Reached shop tasks pipeline) :
    (∀ disk task, IsFramed { shop with disk } (toldRoots tasks) pipeline task) ∧
    ∀ root ∈ toldRoots tasks, ∀ more later, Reached shop (tasks ++ more) later →
      ∀ disk task, task.file = runtimeBuildBelow root →
        (later.behind { shop with disk } task).file = task.file := by
  refine ⟨isFramed distinct plain reached, ?_⟩
  intro root _ more later reachedLater disk task isRuntime
  rw [behind_file]
  exact handed_runtimeBuildBelow reachedLater.builds isRuntime

/-- A dependency on the full build below `/src`. -/
def fullBuildTask : Task :=
  ⟨.built, (⟨"/src"⟩ : Path).join ⟨"node_modules/vue/dist/vue.common.js"⟩,
    "", true, none⟩

/-- The full build below a source root that was told is replaced by
the runtime build. -/
theorem full_build_replaced :
    Function.Injective requiringShop.id ∧
      (∀ count, '/' ∉ (requiringShop.id count).toList) ∧
      ∃ pipeline, Reached requiringShop [.configuration ⟨"/src"⟩] pipeline ∧
        (pipeline.behind requiringShop fullBuildTask).file =
          runtimeBuildBelow ⟨"/src"⟩ := by
  have told :=
    (@Reached.start requiringShop).called templateDisk (.configuration ⟨"/src"⟩)
  have framed := (calls_framed requiringShop_distinct requiringShop_plain told).1
  exact ⟨requiringShop_distinct, requiringShop_plain, _, told,
    (framed templateDisk fullBuildTask).runtimeBuild rfl rfl ⟨"/src"⟩
      List.mem_cons_self rfl⟩

end Pipeline

end VuePrecompiler.Build
