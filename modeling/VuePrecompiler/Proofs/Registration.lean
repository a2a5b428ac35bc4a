import Mathlib.Data.List.Induction
import VuePrecompiler.Build.RenderModule
import VuePrecompiler.Proofs.PathParts
import VuePrecompiler.Proofs.Results
import VuePrecompiler.Proofs.TemplateSteps

/-!
# Compiled templates and registered modules

A build keeps the compiled templates and the modules in memory apart from each
other.  `Records` ties both, and the log of what was handed to the registry, to
the history of the render modules made so far; every task only adds to that
history, so they belong together after every run, and what was made once stays
as it is.
-/

namespace VuePrecompiler.Build

open Files Text

/-! ## Paths of render modules

A render module stands in the folder of its template, bears a name that says
what it is, and shares its path with no render module of another id. -/

/-- The name of the render module with an id. -/
def renderModuleName (id : String) : String :=
  renderModulePrefix ++ "-" ++ id ++ ".js"

theorem renderModulePath_eq (template : Path) (id : String) :
    renderModulePath template id = template.folder.join ⟨renderModuleName id⟩ := rfl

theorem toList_renderModuleName (id : String) :
    (renderModuleName id).toList =
      renderModulePrefix.toList ++ ("-".toList ++ (id.toList ++ ".js".toList)) := by
  simp only [renderModuleName, String.toList_append, List.append_assoc]

theorem renderModuleName_plain {id : String} (plain : '/' ∉ id.toList) :
    '/' ∉ (renderModuleName id).toList := by
  rw [toList_renderModuleName]
  simp only [List.mem_append, not_or]
  exact ⟨by decide, by decide, plain, by decide⟩

theorem renderModuleName_injective : Function.Injective renderModuleName := by
  intro left right same
  rw [← String.toList_inj, toList_renderModuleName, toList_renderModuleName,
    List.append_cancel_left_eq, List.append_cancel_left_eq,
    List.append_cancel_right_eq] at same
  exact String.toList_inj.mp same

theorem ofSegment?_renderModuleName (id : String) :
    Part.ofSegment? (renderModuleName id).toList =
      some (.named (renderModuleName id)) := by
  have begins : ∃ rest, (renderModuleName id).toList = '[' :: rest :=
    ⟨_, by rw [toList_renderModuleName]; rfl⟩
  obtain ⟨rest, begins⟩ := begins
  have whole : renderModuleName id = String.ofList ('[' :: rest) := by
    rw [← begins, String.ofList_toList]
  rw [begins, whole]
  rfl

section

variable (template : Path) {id : String} (plain : '/' ∉ id.toList)
include plain

/-- Between slashes, the name of the render module comes after the
texts of the folder. -/
theorem segments_renderModulePath :
    (template.folder = ⟨""⟩ ∧
      (renderModulePath template id).segments = [(renderModuleName id).toList]) ∨
    ∃ segments, Path.Tidy template.isAbsolute segments ∧
      template.folder = Path.ofSegments template.isAbsolute segments ∧
      (renderModulePath template id).segments =
        segments ++ [(renderModuleName id).toList] := by
  have namePlain := renderModuleName_plain plain
  rcases template.folder_tidy with empty | ⟨segments, tidy, folder⟩
  · left
    refine ⟨empty, ?_⟩
    have relative : (⟨renderModuleName id⟩ : Path).isAbsolute = false :=
      Path.isAbsolute_of_plain namePlain
    rw [renderModulePath_eq, empty, Path.join_empty relative]
    exact splitOnChar_of_notMem namePlain
  · right
    refine ⟨segments, tidy, folder, ?_⟩
    rw [renderModulePath_eq, folder, Path.join_ofSegments tidy namePlain]
    refine Path.segments_ofSegments (by simp) ?_
    intro segment member
    rcases List.mem_append.mp member with inFolder | isName
    · exact tidy.plain segment inFolder
    · rw [List.mem_singleton.mp isName]
      exact namePlain

theorem name?_renderModulePath :
    (renderModulePath template id).name? = some (renderModuleName id) := by
  rcases segments_renderModulePath template plain with ⟨_, alone⟩ | ⟨_, _, _, shape⟩
  · exact @Path.name?_of_segments _ [] _ _ alone (ofSegment?_renderModuleName id)
  · exact Path.name?_of_segments shape (ofSegment?_renderModuleName id)

theorem isRenderModule_renderModulePath :
    isRenderModule (renderModulePath template id) = true := by
  rw [isRenderModule, name?_renderModulePath template plain, Option.any_some,
    Bool.and_eq_true, List.isPrefixOf_iff_prefix, List.isSuffixOf_iff_suffix,
    toList_renderModuleName]
  refine ⟨List.prefix_append _ _, ?_⟩
  rw [← List.append_assoc, ← List.append_assoc]
  exact List.suffix_append _ _

theorem folder_renderModulePath :
    (renderModulePath template id).folder = template.folder := by
  have loud : (Part.ofSegment? (renderModuleName id).toList).isSome = true := by
    rw [ofSegment?_renderModuleName]
    rfl
  rcases segments_renderModulePath template plain with
    ⟨empty, alone⟩ | ⟨_, tidy, folder, shape⟩
  · have noName : (renderModuleName id).toList ≠ [] :=
      Path.ne_nil_of_isSome_ofSegment? loud
    rw [empty, Path.folder, Path.parent?, alone, Path.dropSilent_singleton]
    simp only [noName, ↓reduceIte, Option.getD_some]
  · rw [folder]
    exact Path.folder_of_segments tidy shape loud

end

/-- Render modules of different ids never have the same path. -/
theorem id_eq_of_sameAs {first second : Path} {left right : String}
    (leftPlain : '/' ∉ left.toList) (rightPlain : '/' ∉ right.toList)
    (same : (renderModulePath first left).sameAs (renderModulePath second right) =
      true) :
    left = right := by
  have parts :
      (renderModulePath first left).parts = (renderModulePath second right).parts :=
    beq_iff_eq.mp same
  have names :
      (renderModulePath first left).name? = (renderModulePath second right).name? := by
    rw [Path.name?, Path.name?, parts]
  rw [name?_renderModulePath first leftPlain, name?_renderModulePath second rightPlain,
    Option.some_inj] at names
  exact renderModuleName_injective names

/-! ## Render modules as they are made -/

/-- A render module as it was made: of a template, under a path, with a function. -/
structure Made where
  template : Path
  render : Path
  function : String

namespace Made

/-- What is noted of the template. -/
def entry (made : Made) : Path × Path := (made.template, made.render)

/-- The module in memory. -/
def inMemory (made : Made) : RegisteredModule :=
  ⟨made.render, "utf8", renderModuleText made.function⟩

@[simp] theorem entry_fst (made : Made) : made.entry.1 = made.template := rfl

@[simp] theorem entry_snd (made : Made) : made.entry.2 = made.render := rfl

@[simp] theorem inMemory_path (made : Made) : made.inMemory.path = made.render := rfl

/-- The function comes from the template as it stands on a disk. -/
def IsFrom (shop : Workshop) (disk : Snapshot) (made : Made) : Prop :=
  ∃ text body, disk.read made.template = .ok text ∧ shop.compile text = .ok body ∧
    shop.adapt (renderScript body) = .ok made.function

end Made

theorem of_renderFunction_eq_ok {shop : Workshop} {text function : String}
    (rendered : renderFunction shop text = .ok function) :
    ∃ body, shop.compile text = .ok body ∧
      shop.adapt (renderScript body) = .ok function :=
  of_bind_eq_ok rendered

/-! ## The registry -/

namespace Registry

theorem sameAs_self (path : Path) : path.sameAs path = true := by
  rw [Path.sameAs, beq_self_eq_true]

theorem sameAs_comm (left right : Path) : left.sameAs right = right.sameAs left := by
  rw [Path.sameAs, Path.sameAs, BEq.comm]

/-- A module under a new path comes to the end. -/
theorem insert_of_fresh {registry : Registry} {added : RegisteredModule}
    (fresh : ∀ stored ∈ registry.modules, stored.path.sameAs added.path = false) :
    (registry.insert added).modules = registry.modules ++ [added] := by
  rcases registry with ⟨modules⟩
  show place added modules = modules ++ [added]
  induction modules with
  | nil => rfl
  | cons first rest induction =>
      have firstFresh := fresh first List.mem_cons_self
      rw [place, if_neg (by simp [firstFresh]), List.cons_append]
      exact congrArg (first :: ·) (induction fun stored member =>
        fresh stored (List.mem_cons_of_mem _ member))

/-- Of modules with different paths, one alone has the path of one of them. -/
theorem filter_of_mem {modules : List RegisteredModule} {stored : RegisteredModule}
    (apart : modules.Pairwise fun left right => left.path.sameAs right.path = false)
    (member : stored ∈ modules) :
    modules.filter (fun found => found.path.sameAs stored.path) = [stored] := by
  obtain ⟨before, behind, rfl⟩ := List.append_of_mem member
  obtain ⟨_, apartBehind, across⟩ := List.pairwise_append.mp apart
  have noneBefore :
      before.filter (fun found => found.path.sameAs stored.path) = [] := by
    refine List.filter_eq_nil_iff.mpr fun other inFront => ?_
    simp [across other inFront stored List.mem_cons_self]
  have noneBehind :
      behind.filter (fun found => found.path.sameAs stored.path) = [] := by
    refine List.filter_eq_nil_iff.mpr fun other later => ?_
    simp [sameAs_comm other.path, List.rel_of_pairwise_cons apartBehind later]
  rw [List.filter_append, List.filter_cons, if_pos (sameAs_self stored.path),
    noneBefore, noneBehind, List.nil_append]

/-- A module is found under its path if no other module has the same. -/
theorem get?_of_mem {registry : Registry} {stored : RegisteredModule}
    (apart : registry.modules.Pairwise fun left right =>
      left.path.sameAs right.path = false)
    (member : stored ∈ registry.modules) :
    registry.get? stored.path = some stored := by
  rw [get?, ← List.head?_filter, filter_of_mem apart member, List.head?_cons]

/-- Modules with different paths are all kept, in the order in which
they were inserted. -/
theorem foldl_insert {modules : List RegisteredModule}
    (apart : modules.Pairwise fun left right => left.path.sameAs right.path = false) :
    modules.foldl insert .empty = ⟨modules⟩ := by
  induction modules using List.reverseRecOn with
  | nil => rfl
  | append_singleton before last induction =>
      obtain ⟨apartBefore, _, across⟩ := List.pairwise_append.mp apart
      have fresh : ∀ stored ∈ before, stored.path.sameAs last.path = false :=
        fun stored member => across stored member last (List.mem_singleton_self last)
      rw [List.foldl_append, induction apartBefore]
      exact congrArg mk (@insert_of_fresh ⟨before⟩ last fresh)

end Registry

/-! ## The history of a state -/

/-- The compiled templates, the modules and the registrations of a state are those
made so far, in their order. -/
structure Records (id : Nat → String) (history : List Made) (state : TemplateState) :
    Prop where
  compiled : state.compiled = history.map Made.entry
  modules : state.registry.modules = history.map Made.inMemory
  registrations : state.registrations = history.map Made.inMemory
  templates : (history.map Made.template).Nodup
  renders : ∀ count made, history[count]? = some made →
    made.render = renderModulePath made.template (id count)

theorem Records.start (id : Nat → String) : Records id [] .start := by
  refine ⟨rfl, rfl, rfl, List.nodup_nil, ?_⟩
  intro count made isMade
  contradiction

/-- Records look at the compiled templates, the registry and the log only. -/
theorem Records.congr {id : Nat → String} {history : List Made}
    {state after : TemplateState} (records : Records id history state)
    (sameCompiled : after.compiled = state.compiled)
    (sameRegistry : after.registry = state.registry)
    (sameLog : after.registrations = state.registrations) :
    Records id history after := by
  refine ⟨?_, ?_, ?_, records.templates, records.renders⟩
  · rw [sameCompiled, records.compiled]
  · rw [sameRegistry, records.modules]
  · rw [sameLog, records.registrations]

/-- The render modules of a state are those of a history and some more, which were
made from templates on the disk of a workshop. -/
def Adds (id : Nat → String) (shop : Workshop) (history : List Made)
    (state : TemplateState) : Prop :=
  ∃ added, Records id (history ++ added) state ∧
    ∀ made ∈ added, made.IsFrom shop shop.disk

/-- The pipeline after some tasks, each of which finds the disk as it is then. -/
def Pipeline.run (shop : Workshop) (pipeline : Pipeline)
    (tasks : List (Snapshot × Task)) :
    Pipeline :=
  tasks.foldl (fun pipeline (disk, task) =>
    (pipeline.perform { shop with disk } task).2) pipeline

theorem Pipeline.run_append (shop : Workshop) (pipeline : Pipeline)
    (tasks later : List (Snapshot × Task)) :
    pipeline.run shop (tasks ++ later) = (pipeline.run shop tasks).run shop later :=
  List.foldl_append

theorem Pipeline.run_cons (shop : Workshop) (pipeline : Pipeline)
    (first : Snapshot × Task) (rest : List (Snapshot × Task)) :
    pipeline.run shop (first :: rest) =
      (pipeline.perform { shop with disk := first.1 } first.2).2.run shop rest := rfl

theorem Pipeline.run_concat (shop : Workshop) (pipeline : Pipeline)
    (tasks : List (Snapshot × Task)) (last : Snapshot × Task) :
    pipeline.run shop (tasks ++ [last]) =
      ((pipeline.run shop tasks).perform { shop with disk := last.1 } last.2).2 := by
  rw [run_append]
  rfl

section

variable {id : Nat → String} (distinct : Function.Injective id)
  (plain : ∀ count, '/' ∉ (id count).toList)

theorem Records.length {history : List Made} {state : TemplateState}
    (records : Records id history state) : state.compiled.length = history.length := by
  rw [records.compiled, List.length_map]

/-- A template that is not known has no render module. -/
theorem Records.lookup_eq_none {history : List Made} {state : TemplateState}
    (records : Records id history state) {template : Path}
    (unknown : state.compiled.lookup template = none) :
    template ∉ history.map Made.template := by
  intro member
  obtain ⟨made, isMade, rfl⟩ := List.mem_map.mp member
  rw [records.compiled, List.lookup_eq_none_iff] at unknown
  have different := unknown made.entry (List.mem_map_of_mem isMade)
  simp [Made.entry] at different

/-- What is noted was made. -/
theorem Records.made {history : List Made} {state : TemplateState}
    (records : Records id history state) {template render : Path}
    (known : state.compiled.lookup template = some render) :
    ∃ made ∈ history, made.template = template ∧ made.render = render := by
  obtain ⟨before, behind, entries, _⟩ := List.lookup_eq_some_iff.mp known
  rw [records.compiled] at entries
  have member : (template, render) ∈ history.map Made.entry := by simp [entries]
  obtain ⟨made, isMade, entry⟩ := List.mem_map.mp member
  obtain ⟨sameTemplate, sameRender⟩ := Prod.mk.inj entry
  exact ⟨made, isMade, sameTemplate, sameRender⟩

include distinct plain

theorem Records.apart {history : List Made} {state : TemplateState}
    (records : Records id history state) :
    history.Pairwise fun left right => left.render.sameAs right.render = false := by
  rw [List.pairwise_iff_getElem]
  intro first second firstBound secondBound ordered
  rw [Bool.eq_false_iff]
  intro same
  rw [records.renders first _ (List.getElem?_eq_getElem firstBound),
    records.renders second _ (List.getElem?_eq_getElem secondBound)] at same
  have sameCount := distinct (id_eq_of_sameAs (plain first) (plain second) same)
  omega

/-- Another render module is registered under a path that no module has. -/
theorem Records.fresh {history : List Made} {state : TemplateState}
    (records : Records id history state) (template : Path) :
    ∀ stored ∈ state.registry.modules,
      stored.path.sameAs (renderModulePath template (id history.length)) = false := by
  intro stored member
  rw [records.modules] at member
  obtain ⟨made, isMade, rfl⟩ := List.mem_map.mp member
  obtain ⟨count, bound, rfl⟩ := List.mem_iff_getElem.mp isMade
  rw [Bool.eq_false_iff]
  intro same
  rw [Made.inMemory_path,
    records.renders count _ (List.getElem?_eq_getElem bound)] at same
  have sameCount :=
    distinct (id_eq_of_sameAs (plain count) (plain history.length) same)
  omega

/-- The first compilation of a template makes one more render module. -/
theorem Records.registered {shop : Workshop} (sameId : shop.id = id)
    {history : List Made} {state : TemplateState} (records : Records id history state)
    {template : Path} (function : String)
    (unknown : state.compiled.lookup template = none) :
    Records id (history ++ [⟨template, state.nextPath shop template, function⟩])
      (state.registered shop template function) := by
  have next :
      state.nextPath shop template =
        renderModulePath template (id history.length) := by
    rw [TemplateState.nextPath, sameId, records.length]
  have fresh := records.fresh distinct plain template
  rw [← next] at fresh
  refine ⟨?_, ?_, ?_, ?_, ?_⟩
  · rw [List.map_append, ← records.compiled]
    rfl
  · rw [List.map_append, ← records.modules, TemplateState.registered_registry]
    exact Registry.insert_of_fresh fresh
  · rw [List.map_append, ← records.registrations,
      TemplateState.registered_registrations]
    rfl
  · rw [List.map_append, List.nodup_append]
    refine ⟨records.templates, List.pairwise_singleton _ _, ?_⟩
    intro old known new isNew same
    rw [List.map_singleton, List.mem_singleton] at isNew
    rw [same, isNew] at known
    exact records.lookup_eq_none unknown known
  · intro count made isMade
    by_cases old : count < history.length
    · rw [List.getElem?_append_left old] at isMade
      exact records.renders count made isMade
    · rw [List.getElem?_append_right (by omega), List.getElem?_singleton] at isMade
      obtain ⟨isLast, same⟩ := Option.ite_none_right_eq_some.mp isMade
      obtain rfl := Option.some.inj same
      have sameCount : count = history.length := by omega
      rw [sameCount, next]

/-- Every step of a task keeps that render modules were only added. -/
theorem Adds.kept {shop : Workshop} (sameId : shop.id = id) (history : List Made) :
    Kept shop (Adds id shop history) := by
  refine ⟨⟨?_, ?_⟩, ?_, ?_⟩
  · rintro state diagnostic _ ⟨added, recorded, fromDisk⟩
    exact ⟨added, recorded.congr rfl rfl rfl, fromDisk⟩
  · rintro state template text function unknown read rendered ⟨added,
      recorded, fromDisk⟩
    obtain ⟨body, compiled, adapted⟩ := of_renderFunction_eq_ok rendered
    refine ⟨added ++ [⟨template, state.nextPath shop template, function⟩], ?_, ?_⟩
    · rw [← List.append_assoc]
      exact recorded.registered distinct plain sameId function unknown
    · intro made member
      rcases List.mem_append.mp member with earlier | now
      · exact fromDisk made earlier
      · rw [List.mem_singleton.mp now]
        exact ⟨text, body, read, compiled, adapted⟩
  · rintro state diagnostic ⟨added, recorded, fromDisk⟩
    exact ⟨added, recorded.congr rfl rfl rfl, fromDisk⟩
  · rintro state root ⟨added, recorded, fromDisk⟩
    exact ⟨added, recorded.congr rfl rfl rfl, fromDisk⟩

/-- A task adds render modules to the history, each from a template on the
disk of the task. -/
theorem Records.perform {shop : Workshop} (sameId : shop.id = id) {history : List Made}
    {pipeline : Pipeline} (records : Records id history pipeline.templates)
    (task : Task) : Adds id shop history (pipeline.perform shop task).2.templates := by
  apply Pipeline.perform_keeps (Adds.kept distinct plain sameId history)
  refine ⟨[], ?_, fun made member => absurd member List.not_mem_nil⟩
  rw [List.append_nil]
  exact records

/-- A run adds render modules to the history. -/
theorem Records.run {shop : Workshop} (sameId : shop.id = id) {history : List Made}
    {pipeline : Pipeline} (records : Records id history pipeline.templates)
    (tasks : List (Snapshot × Task)) :
    ∃ added, Records id (history ++ added) (pipeline.run shop tasks).templates := by
  induction tasks generalizing pipeline history with
  | nil => exact ⟨[], by rwa [List.append_nil]⟩
  | cons first rest induction =>
      obtain ⟨added, recorded, _⟩ :=
        @Records.perform id distinct plain { shop with disk := first.1 } sameId _ _
          records first.2
      obtain ⟨later, result⟩ := induction recorded
      rw [List.append_assoc, ← Pipeline.run_cons] at result
      exact ⟨added ++ later, result⟩

/-- What is in memory has different paths. -/
theorem Records.modulesApart {history : List Made} {state : TemplateState}
    (records : Records id history state) :
    (history.map Made.inMemory).Pairwise fun left right =>
      left.path.sameAs right.path = false := by
  rw [List.pairwise_map]
  exact records.apart distinct plain

/-- What was made is noted, and its module is found under its path. -/
theorem Records.found {history : List Made} {state : TemplateState}
    (records : Records id history state) {made : Made} (member : made ∈ history) :
    state.compiled.lookup made.template = some made.render ∧
      state.registry.get? made.render = some made.inMemory := by
  constructor
  · obtain ⟨before, behind, rfl⟩ := List.append_of_mem member
    rw [records.compiled, List.lookup_eq_some_iff]
    refine ⟨before.map Made.entry,
      behind.map Made.entry, by rw [List.map_append]; rfl, ?_⟩
    intro entry inFront
    obtain ⟨other, isOther, rfl⟩ := List.mem_map.mp inFront
    have templates := records.templates
    rw [List.map_append, List.nodup_append] at templates
    have different := templates.2.2 other.template (List.mem_map_of_mem isOther)
      made.template (by simp)
    rw [bne_iff_ne]
    exact different.symm
  · rw [← Made.inMemory_path made]
    apply Registry.get?_of_mem
    · rw [records.modules]
      exact records.modulesApart distinct plain
    · rw [records.modules]
      exact List.mem_map_of_mem member

/-- What was made was handed to the registry once, and nothing else
was under its path. -/
theorem Records.registeredOnce {history : List Made} {state : TemplateState}
    (records : Records id history state) {made : Made} (member : made ∈ history) :
    state.registrations.filter (fun added => added.path.sameAs made.render) =
      [made.inMemory] := by
  rw [records.registrations, ← Made.inMemory_path made]
  exact Registry.filter_of_mem (records.modulesApart distinct plain)
    (List.mem_map_of_mem member)

end

/-! ## What holds after every run -/

/-- The compiled templates and the modules in memory belong to each other one to
one: each template has one entry, each entry led to one registration, and nothing
else was ever registered. -/
structure OneToOne (state : TemplateState) : Prop where
  templates : (state.compiled.map Prod.fst).Nodup
  renders : (state.compiled.map Prod.snd).Pairwise fun left right =>
    left.sameAs right = false
  modules :
    state.registry.modules.map RegisteredModule.path = state.compiled.map Prod.snd
  /-- The log has one registration for each entry, under the path of the entry. -/
  registrations :
    state.registrations.map RegisteredModule.path = state.compiled.map Prod.snd
  /-- The registry is what the logged registrations make of an empty one. -/
  registry : state.registry = state.registrations.foldl Registry.insert .empty

/-- What is known and registered in a state remains so in a later one. -/
def Persists (state later : TemplateState) : Prop :=
  ∀ template render, state.compiled.lookup template = some render →
    later.compiled.lookup template = some render ∧
      ∃ stored, state.registry.get? render = some stored ∧
        later.registry.get? render = some stored

/-- A task of a run made a render module, whose template was not known before, from the
template as it stood on the disk of that task. -/
def MadeDuring (shop : Workshop) (tasks : List (Snapshot × Task))
    (made : Made) : Prop :=
  ∃ before disk task later, tasks = before ++ (disk, task) :: later ∧
    (Pipeline.start.run shop before).templates.compiled.lookup made.template = none ∧
    (Pipeline.start.run shop (before ++ [(disk, task)])).templates.compiled.lookup
      made.template = some made.render ∧
    made.IsFrom shop disk

theorem MadeDuring.append {shop : Workshop} {tasks : List (Snapshot × Task)}
    {made : Made} (during : MadeDuring shop tasks made)
    (more : List (Snapshot × Task)) : MadeDuring shop (tasks ++ more) made := by
  obtain ⟨before, disk, task, later, rfl, unknown, known, isFrom⟩ := during
  exact ⟨before, disk, task, later ++ more, by simp, unknown, known, isFrom⟩

section

variable {shop : Workshop} (distinct : Function.Injective shop.id)
  (plain : ∀ count, '/' ∉ (shop.id count).toList)
include distinct plain

/-- Every run has a history, and each render module of it was made by some task. -/
theorem Records.ofRun (tasks : List (Snapshot × Task)) :
    ∃ history, Records shop.id history (Pipeline.start.run shop tasks).templates ∧
      ∀ made ∈ history, MadeDuring shop tasks made := by
  induction tasks using List.reverseRecOn with
  | nil =>
      exact ⟨[], Records.start shop.id,
        fun made member => absurd member List.not_mem_nil⟩
  | append_singleton tasks last induction =>
      obtain ⟨disk, task⟩ := last
      obtain ⟨history, records, during⟩ := induction
      obtain ⟨added, recorded, fromDisk⟩ :=
        @Records.perform shop.id distinct plain { shop with disk } rfl _ _ records task
      have result : Records shop.id (history ++ added)
          (Pipeline.start.run shop (tasks ++ [(disk, task)])).templates := by
        rw [Pipeline.run_concat]
        exact recorded
      refine ⟨history ++ added, result, ?_⟩
      intro made member
      rcases List.mem_append.mp member with earlier | now
      · exact (during made earlier).append _
      · refine ⟨tasks, disk, task, [], rfl, ?_, ?_, fromDisk made now⟩
        · rw [records.compiled, List.lookup_eq_none_iff]
          intro entry isEntry
          obtain ⟨other, isOther, rfl⟩ := List.mem_map.mp isEntry
          have templates := result.templates
          rw [List.map_append, List.nodup_append] at templates
          have different := templates.2.2 other.template (List.mem_map_of_mem isOther)
            made.template (List.mem_map_of_mem now)
          rw [bne_iff_ne]
          exact different.symm
        · exact (result.found distinct plain (List.mem_append_right history now)).1

theorem Records.oneToOne {history : List Made} {state : TemplateState}
    (records : Records shop.id history state) : OneToOne state := by
  have renders : state.compiled.map Prod.snd = history.map Made.render := by
    rw [records.compiled, List.map_map]
    rfl
  have paths :
      (history.map Made.inMemory).map RegisteredModule.path =
        history.map Made.render := by
    rw [List.map_map]
    rfl
  refine ⟨?_, ?_, ?_, ?_, ?_⟩
  · rw [records.compiled, List.map_map]
    exact records.templates
  · rw [renders, List.pairwise_map]
    exact records.apart distinct plain
  · rw [renders, records.modules, paths]
  · rw [renders, records.registrations, paths]
  · rw [records.registrations,
      Registry.foldl_insert (records.modulesApart distinct plain), ← records.modules]

/-- In every run, each template is compiled and registered at most once,
next to itself and under a name of its own, with the function that its text
came to at that time; and so it stays however the run goes on.  One module
was handed to the registry for each compiled template, and no other was,
under its path or any other. -/
theorem Pipeline.run_registers_once (tasks : List (Snapshot × Task)) :
    OneToOne (start.run shop tasks).templates ∧
    (∀ more, Persists (start.run shop tasks).templates
      (start.run shop (tasks ++ more)).templates) ∧
    ∀ entry ∈ (start.run shop tasks).templates.compiled,
      entry.2.folder = entry.1.folder ∧ isRenderModule entry.2 = true ∧
        ∃ made : Made, made.entry = entry ∧ MadeDuring shop tasks made ∧
          (start.run shop tasks).templates.registry.get? entry.2 = some made.inMemory ∧
          (start.run shop tasks).templates.registrations.filter
            (fun added => added.path.sameAs entry.2) = [made.inMemory] := by
  obtain ⟨history, records, during⟩ := Records.ofRun distinct plain tasks
  refine ⟨records.oneToOne distinct plain, ?_, ?_⟩
  · intro more template render known
    obtain ⟨made, isMade, rfl, rfl⟩ := records.made known
    obtain ⟨added, result⟩ := records.run distinct plain rfl more
    rw [← run_append] at result
    obtain ⟨stays, storedLater⟩ :=
      result.found distinct plain (List.mem_append_left added isMade)
    exact ⟨stays, made.inMemory, (records.found distinct plain isMade).2, storedLater⟩
  · intro entry member
    rw [records.compiled] at member
    obtain ⟨made, isMade, rfl⟩ := List.mem_map.mp member
    obtain ⟨count, bound, isAt⟩ := List.mem_iff_getElem.mp isMade
    have render : made.render = renderModulePath made.template (shop.id count) :=
      records.renders count made (by rw [List.getElem?_eq_getElem bound, isAt])
    refine ⟨?_, ?_, made, rfl, during made isMade,
      (records.found distinct plain isMade).2,
      records.registeredOnce distinct plain isMade⟩
    · rw [Made.entry_snd, Made.entry_fst, render]
      exact folder_renderModulePath made.template (plain count)
    · rw [Made.entry_snd, render]
      exact isRenderModule_renderModulePath made.template (plain count)

end

/-- A module that requires a template of its folder. -/
def requiringCode : String := "/*@coolievue*/template=require('./a.html')"

/-- The program that `requiringCode` is. -/
def requiringProgram : Javascript.Program :=
  ⟨.node (.program false) ⟨0, 42⟩ [.node .expressionStatement ⟨14, 42⟩
    [.node (.assign "=") ⟨14, 42⟩
      [.node (.identifier "template" 0) ⟨14, 22⟩ [],
        .node (.call false) ⟨23, 42⟩
          [.node (.identifier "require" 0) ⟨23, 30⟩ [],
            .node (.string "'./a.html'") ⟨31, 41⟩ []]]]],
    [⟨"@coolievue", ⟨0, 14⟩, false⟩]⟩

/-- The disk with the template. -/
def templateDisk : Snapshot := ⟨⟨"/"⟩, [([.root, .named "a.html"], .text "A")], []⟩

/-- A workshop that reads `requiringCode`, with ids of different lengths. -/
def requiringShop : Workshop where
  disk := templateDisk
  parse := fun _ => .ok requiringProgram
  compile := fun template => .ok ("return " ++ template)
  adapt := fun script => .ok script
  id := fun count => String.ofList (List.replicate count 'a')

/-- The source root is told, and the module is read twice. -/
def requiringTasks : List (Snapshot × Task) :=
  [(templateDisk, .configuration ⟨"/"⟩),
    (templateDisk, ⟨.read, ⟨"/main.js"⟩, requiringCode, false, none⟩),
    (templateDisk, ⟨.read, ⟨"/main.js"⟩, requiringCode, false, none⟩)]

theorem requiringShop_distinct : Function.Injective requiringShop.id := by
  intro left right same
  have lengths := congrArg (fun id => id.toList.length) same
  simpa [requiringShop] using lengths

theorem requiringShop_plain (count : Nat) : '/' ∉ (requiringShop.id count).toList := by
  intro member
  simp [requiringShop] at member

/-- A template that is required twice has one render module, handed to
the registry once. -/
theorem required_twice_registered_once :
    Function.Injective requiringShop.id ∧
      (∀ count, '/' ∉ (requiringShop.id count).toList) ∧
      (Pipeline.start.run requiringShop requiringTasks).templates.compiled =
        [(⟨"/a.html"⟩, ⟨"/[coolie-mid-vue-virtual-file]-.js"⟩)] ∧
      (Pipeline.start.run requiringShop requiringTasks).templates.registrations =
        [⟨⟨"/[coolie-mid-vue-virtual-file]-.js"⟩, "utf8",
          "module.exports = function render () \x7breturn A\x7d;"⟩] ∧
      OneToOne (Pipeline.start.run requiringShop requiringTasks).templates :=
  ⟨requiringShop_distinct, requiringShop_plain, by decide +kernel, by decide +kernel,
    (Pipeline.run_registers_once requiringShop_distinct requiringShop_plain
      requiringTasks).1⟩

end VuePrecompiler.Build
