import VuePrecompiler.Command.Run
import VuePrecompiler.Proofs.ConvertibleBindings
import VuePrecompiler.Proofs.ModulePlans
import VuePrecompiler.Proofs.Registration
import VuePrecompiler.Proofs.SettledRoots

/-!
# What the modules of a run are converted to

A run converts its modules one after the other.  Each module gets the edits that
were planned for it, and the render modules that these require stay registered
until the end, in the folders of templates that stand on the disk.
-/

namespace VuePrecompiler.Command

open Files Binding Build

/-! ## One module -/

/-- Once a module is built, the templates are no concern of its task. -/
theorem perform_built (shop : Workshop) (pipeline : Pipeline) {task : Task}
    (isBuilt : task.phase = .built) :
    ∃ outcome, (pipeline.perform shop task).1 = .ok (pipeline.handed task, outcome) ∧
      (pipeline.perform shop task).2.templates = pipeline.templates := by
  have handedOn : (pipeline.handed task).phase = .built := by
    rw [Pipeline.handed_eq]
    exact isBuilt
  have converted :
      Step.outcome (convertTemplates shop (pipeline.handed task)) pipeline.templates =
        (.ok (pipeline.handed task, .ignored), pipeline.templates) := by
    simp only [convertTemplates, handedOn]
    rfl
  rw [Pipeline.perform_eq, converted]
  exact ⟨_, rfl, rfl⟩

/-- The task of a module that is read. -/
def readTask (file : Path) (source : String) : Task :=
  ⟨.read, file, source, false, none⟩

/-- A module is converted when it is read. -/
theorem of_convert_eq_ok {shop : Workshop} {pipeline after : Pipeline} {file : Path}
    {module : ModuleResult} (done : convert shop pipeline file = .ok (module, after)) :
    module.file = file ∧ shop.disk.read file = .ok module.source ∧
      ∃ task outcome, task.code = module.code ∧
        (pipeline.perform shop (readTask file module.source)).1 = .ok (task, outcome) ∧
        (pipeline.perform shop (readTask file module.source)).2.templates =
          after.templates := by
  unfold convert at done
  split at done
  · contradiction
  · next source read =>
    obtain ⟨⟨task, outcome⟩, isRead, done⟩ := of_bind_eq_ok done
    obtain ⟨⟨built, _⟩, isBuilt, done⟩ := of_bind_eq_ok done
    obtain ⟨rfl, rfl⟩ := Prod.mk.inj (Except.ok.inj done)
    obtain ⟨_, result, templates⟩ :=
      @perform_built shop (pipeline.perform shop (readTask file source)).2
        { task with phase := .built } rfl
    obtain ⟨rfl, _⟩ :=
      Prod.mk.inj (Except.ok.inj ((of_mapError_eq_ok isBuilt).symm.trans result))
    refine ⟨rfl, read, task, outcome, ?_, of_mapError_eq_ok isRead, templates.symm⟩
    exact (Pipeline.handed_code _ { task with phase := .built }).symm

/-- The code of a module is its source with the edits that were planned
for some bindings. -/
def IsConverted (shop : Workshop) (state : TemplateState) (module : ModuleResult) :
    Prop :=
  ∃ planned, (∀ edit ∈ planned, edit.IsOf (bindingsOf shop module.source)) ∧
    IsRewritten module.file module.source state planned module.code

theorem IsConverted.of_isKnownIn {shop : Workshop} {state later : TemplateState}
    {module : ModuleResult} (converted : IsConverted shop state module)
    (isKnown : state.IsKnownIn later) : IsConverted shop later module := by
  obtain ⟨planned, areOf, edits, written, applied⟩ := converted
  exact ⟨planned, areOf, edits, written.of_isKnownIn isKnown, applied⟩

/-- What is known of the templates while the modules of a source root are converted. -/
structure AreMet (shop : Workshop) (root : Path) (state : TemplateState) : Prop where
  sound : state.IsSound shop
  rooted : state.sourceRoot = some root
  standing : ∀ template render, state.compiled.lookup template = some render →
    ∃ folder last, template.StandsAt (folder ++ [last])
  recorded : ∃ history, Records shop.id history state

/-- A specifier means an absolute path. -/
theorem standsAt_locate (specifier : String) {file root : Path}
    (fileAbsolute : file.folder.isAbsolute = true)
    (rootAbsolute : root.isAbsolute = true) :
    ∃ names, (locate specifier ⟨file, root⟩).StandsAt names := by
  refine Path.standsAt_normalized ?_
  split
  · exact Path.isAbsolute_join fileAbsolute
  · split
    · exact Path.isAbsolute_join rootAbsolute
    · exact Path.isAbsolute_join (Path.isAbsolute_join rootAbsolute)

section

variable {shop : Workshop} {root : Path}

/-- The templates that a plan needs are files, so they stand in folders. -/
theorem AreMet.standing_follow {state : TemplateState} (met : AreMet shop root state)
    (wellFormed : shop.disk.IsWellFormed) (rootAbsolute : root.isAbsolute = true)
    {file : Path} (fileAbsolute : file.folder.isAbsolute = true)
    {bindings : List Found} {plan : Plan}
    (isFor : plan.IsFor shop ⟨file, root⟩ bindings) :
    ∀ template render, (state.follow shop plan).compiled.lookup template =
      some render →
      ∃ folder last, template.StandsAt (folder ++ [last]) := by
  intro template render known
  have isKnown := Option.isSome_of_eq_some known
  rw [TemplateState.follow_compiled,
    TemplateState.lookup_foldl_meet_isSome_iff] at isKnown
  rcases isKnown with before | now
  · obtain ⟨earlier, known⟩ := Option.isSome_iff_exists.mp before
    exact met.standing template earlier known
  · obtain ⟨entry, member, rfl⟩ := List.mem_map.mp now
    obtain ⟨specifier, located⟩ := isFor.located entry member
    obtain ⟨names, stands⟩ := standsAt_locate specifier fileAbsolute rootAbsolute
    rw [← located] at stands
    exact wellFormed.exists_folder stands (isFor.isFile entry member)

variable (distinct : Function.Injective shop.id)
  (plain : ∀ count, '/' ∉ (shop.id count).toList)
  (wellFormed : shop.disk.IsWellFormed) (rootAbsolute : root.isAbsolute = true)
include distinct plain wellFormed rootAbsolute

/-- A module is converted with the render modules that are registered then. -/
theorem AreMet.convert {pipeline after : Pipeline}
    (met : AreMet shop root pipeline.templates)
    {file : Path} {module : ModuleResult}
    (fileAbsolute : file.folder.isAbsolute = true)
    (done : convert shop pipeline file = .ok (module, after)) :
    AreMet shop root after.templates ∧ module.file = file ∧
      IsConverted shop after.templates module ∧
      pipeline.templates.IsKnownIn after.templates := by
  obtain ⟨rfl, _, task, outcome, code, result, templates⟩ := of_convert_eq_ok done
  obtain ⟨plan, isFor⟩ := exists_taskPlan shop (some root)
    (rfl : (readTask module.file module.source).phase = .read)
  have gives := isFor.gives shop.id pipeline met.sound met.rooted
  obtain ⟨history, records⟩ := met.recorded
  obtain ⟨added, recorded, _⟩ :=
    records.perform distinct plain rfl (readTask module.file module.source)
  rw [result, templates] at gives
  rw [templates] at recorded
  cases gives with
  | @done planned _ _ isOk follows fits =>
      obtain ⟨changed, isRewritten, same⟩ := fits
      obtain ⟨rfl, _⟩ := Prod.mk.inj same
      refine ⟨⟨?_, ?_, ?_, history ++ added, recorded⟩, rfl, ?_, ?_⟩
      · rw [follows]
        exact met.sound.follow isFor.bindings.compiles shop.id
      · rw [follows, TemplateState.follow_sourceRoot, met.rooted]
      · rw [follows]
        exact met.standing_follow wellFormed rootAbsolute fileAbsolute isFor.bindings
      · rw [show changed = module.code from code] at isRewritten
        exact ⟨planned, isFor.bindings.planned planned isOk, isRewritten⟩
      · rw [follows]
        exact TemplateState.isKnownIn_follow shop _ plan

/-- All modules are converted with the render modules that are
registered in the end. -/
theorem AreMet.convertEach {files : List Path} {pipeline after : Pipeline}
    (met : AreMet shop root pipeline.templates) {modules : List ModuleResult}
    (filesAbsolute : ∀ file ∈ files, file.folder.isAbsolute = true)
    (done : convertEach shop pipeline files = .ok (modules, after)) :
    AreMet shop root after.templates ∧ pipeline.templates.IsKnownIn after.templates ∧
      ∀ module ∈ modules, module.file ∈ files ∧
        IsConverted shop after.templates module := by
  induction files generalizing pipeline modules with
  | nil =>
      obtain ⟨rfl, rfl⟩ := Prod.mk.inj (Except.ok.inj done)
      exact ⟨met, fun _ _ known => known, by simp⟩
  | cons file rest induction =>
      rw [Command.convertEach] at done
      obtain ⟨⟨first, between⟩, isFirst, done⟩ := of_bind_eq_ok done
      obtain ⟨⟨others, last⟩, areOthers, done⟩ := of_bind_eq_ok done
      obtain ⟨rfl, rfl⟩ := Prod.mk.inj (Except.ok.inj done)
      obtain ⟨metThen, isFile, converted, isKnown⟩ :=
        met.convert distinct plain wellFormed
          rootAbsolute (filesAbsolute file List.mem_cons_self) isFirst
      obtain ⟨metLater, isKnownLater, convertedLater⟩ := induction metThen
        (fun file member => filesAbsolute file (List.mem_cons_of_mem _ member))
        areOthers
      refine ⟨metLater, fun _ _ known => isKnownLater _ _ (isKnown _ _ known), ?_⟩
      intro module member
      rcases List.mem_cons.mp member with rfl | inOthers
      · exact ⟨isFile ▸ List.mem_cons_self, converted.of_isKnownIn isKnownLater⟩
      · obtain ⟨isMember, converted⟩ := convertedLater module inOthers
        exact ⟨List.mem_cons_of_mem _ isMember, converted⟩

end

/-- A conversion hands the modules to a pipeline that knows the source root. -/
theorem of_conversion_eq_ok {shop : Workshop} {settings : Settings}
    {found : Conversion} (done : conversion shop settings = .ok found) :
    ∃ before after : Pipeline,
      before.templates =
        { TemplateState.start with sourceRoot := some settings.source } ∧
      convertEach shop before (moduleFiles shop.disk settings) =
        .ok (found.modules, after) ∧
      found.registry = after.templates.registry := by
  unfold conversion at done
  split at done
  next _ before performed =>
    obtain rfl := congrArg Prod.snd performed
    dsimp only at done
    split at done
    · contradiction
    · obtain ⟨⟨modules, after⟩, each, done⟩ := of_bind_eq_ok done
      obtain ⟨build, _, same⟩ := of_bind_eq_ok done
      obtain rfl := Except.ok.inj same
      exact ⟨_, after, rfl, each, rfl⟩

end VuePrecompiler.Command
