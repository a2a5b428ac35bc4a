import VuePrecompiler.Command.Run
import VuePrecompiler.Proofs.ConvertedModules
import VuePrecompiler.Proofs.OutputPlaces
import VuePrecompiler.Proofs.Results
import VuePrecompiler.Proofs.SettledRoots

/-!
# The output requires what was written

In the output folder, modules and render modules keep their places below the
source root.  So what a module requires is found from there as it was found in
the source tree, and it holds what was registered.  A render module that stands
outside of the source root is not written.
-/

namespace VuePrecompiler

open Files Source Binding Build Javascript

/-! ## What the written files leave on the disk

Each file that is written takes its place on the disk and leaves all other
places as they are, so a file keeps its text if no later one has its place. -/

namespace Files.Snapshot

theorem of_makeFolder_eq_ok {disk made : Snapshot} {folder : Path}
    (done : disk.makeFolder folder = .ok made) :
    made.workingFolder = disk.workingFolder ∧ made.files = disk.files := by
  unfold makeFolder at done
  dsimp only at done
  split at done
  · contradiction
  · split at done
    · contradiction
    · obtain rfl := Except.ok.inj done
      exact ⟨rfl, rfl⟩

theorem of_write_eq_ok {disk written : Snapshot} {path : Path} {text : String}
    (done : disk.write path text = .ok written) :
    written.workingFolder = disk.workingFolder ∧
      written.files = (disk.partsOf path, .text text) ::
        disk.files.filter fun file => file.1 != disk.partsOf path := by
  unfold write at done
  dsimp only at done
  split at done
  · contradiction
  · obtain rfl := Except.ok.inj done
    exact ⟨rfl, rfl⟩

theorem lookup_filter_of_ne {files : List (List Part × FileContent)}
    {place other : List Part} (different : other ≠ place) :
    (files.filter fun file => file.1 != place).lookup other = files.lookup other := by
  induction files with
  | nil => rfl
  | cons first rest induction =>
      by_cases same : first.1 = place
      · have elsewhere : (other == first.1) = false := by simpa [same] using different
        rw [List.filter_cons_of_neg (by simp [same]), induction, List.lookup_cons,
          elsewhere]
      · rw [List.filter_cons_of_pos (by simp [same]), List.lookup_cons,
          List.lookup_cons, induction]

end Files.Snapshot

namespace Command

open Files.Snapshot

/-- A file is written to its place, and all other places stay as they are. -/
theorem of_writeOutput_eq_ok {settings : Settings} {disk written : Snapshot}
    {file : Path} {text : String}
    (done : writeOutput settings disk file text = .ok written) :
    written.workingFolder = disk.workingFolder ∧
      (∀ target, settings.outputPath? file = some target →
        written.files.lookup (disk.partsOf target) = some (.text text)) ∧
      ∀ place, (∀ target, settings.outputPath? file = some target →
        disk.partsOf target ≠ place) →
        written.files.lookup place = disk.files.lookup place := by
  unfold writeOutput at done
  cases output : settings.outputPath? file with
  | none =>
      rw [output] at done
      obtain rfl := Except.ok.inj done
      exact ⟨rfl, by simp, fun _ _ => rfl⟩
  | some target =>
      rw [output] at done
      obtain ⟨made, isMade, wrote⟩ := of_bind_eq_ok done
      obtain ⟨sameFolder, sameFiles⟩ := of_makeFolder_eq_ok (of_mapError_eq_ok isMade)
      obtain ⟨sameFolder', files⟩ := of_write_eq_ok (of_mapError_eq_ok wrote)
      have samePlace : made.partsOf target = disk.partsOf target := by
        rw [partsOf, partsOf, sameFolder]
      rw [samePlace, sameFiles] at files
      refine ⟨sameFolder'.trans sameFolder, ?_, ?_⟩
      · intro same isTarget
        obtain rfl := Option.some.inj isTarget
        rw [files, List.lookup_cons_self]
      · intro place elsewhere
        have different := elsewhere target rfl
        have other : (place == disk.partsOf target) = false := by
          simpa using different.symm
        rw [files, List.lookup_cons, other, lookup_filter_of_ne different.symm]

/-- Files that have other places leave a place as it is. -/
theorem of_writeOutputs_eq_ok {settings : Settings} {files : List (Path × String)}
    {disk after : Snapshot}
    (done : writeOutputs settings disk files = (.ok (), after)) :
    after.workingFolder = disk.workingFolder ∧
      ∀ place, (∀ entry ∈ files, ∀ target, settings.outputPath? entry.1 = some target →
        disk.partsOf target ≠ place) →
        after.files.lookup place = disk.files.lookup place := by
  induction files generalizing disk with
  | nil =>
      obtain ⟨_, rfl⟩ := Prod.mk.inj done
      exact ⟨rfl, fun _ _ => rfl⟩
  | cons first rest induction =>
      rw [writeOutputs] at done
      split at done
      · next between wrote =>
        obtain ⟨sameFolder, _, others⟩ := of_writeOutput_eq_ok wrote
        obtain ⟨sameFolder', othersLater⟩ := induction done
        refine ⟨sameFolder'.trans sameFolder, ?_⟩
        intro place elsewhere
        rw [othersLater place, others place]
        · exact elsewhere first List.mem_cons_self
        · intro entry member target isTarget
          rw [partsOf, sameFolder]
          exact elsewhere entry (List.mem_cons_of_mem _ member) target isTarget
      · simp at done

/-- A file that was written is on the disk if no later one has its place. -/
theorem content?_of_writeOutputs {settings : Settings}
    {before later : List (Path × String)}
    {file target : Path} {text : String} {disk after : Snapshot}
    (done : writeOutputs settings disk (before ++ (file, text) :: later) =
      (.ok (), after))
    (isTarget : settings.outputPath? file = some target)
    (elsewhere : ∀ entry ∈ later, ∀ other, settings.outputPath? entry.1 = some other →
      disk.partsOf other ≠ disk.partsOf target) :
    after.content? target = some (.text text) := by
  induction before generalizing disk with
  | nil =>
      rw [List.nil_append, writeOutputs] at done
      split at done
      · next between wrote =>
        obtain ⟨sameFolder, isWritten, _⟩ := of_writeOutput_eq_ok wrote
        obtain ⟨sameFolder', others⟩ := of_writeOutputs_eq_ok done
        have samePlace : after.partsOf target = disk.partsOf target := by
          rw [partsOf, partsOf, sameFolder', sameFolder]
        rw [content?, samePlace, others, isWritten target isTarget]
        intro entry member other isOther
        rw [partsOf, sameFolder]
        exact elsewhere entry member other isOther
      · simp at done
  | cons first rest induction =>
      rw [List.cons_append, writeOutputs] at done
      split at done
      · next between wrote =>
        obtain ⟨sameFolder, _, _⟩ := of_writeOutput_eq_ok wrote
        refine induction done fun entry member other isOther => ?_
        rw [partsOf, partsOf, sameFolder]
        exact elsewhere entry member other isOther
      · simp at done

end Command

/-! ## Requiring render modules -/

namespace Build

/-- A render module stands in the folder of its template. -/
theorem standsAt_renderModulePath {template : Path} {folder : List String}
    {last id : String} (stands : template.StandsAt (folder ++ [last]))
    (plain : '/' ∉ id.toList) :
    (renderModulePath template id).StandsAt (folder ++ [renderModuleName id]) := by
  have isName : ∀ name ∈ [renderModuleName id], IsName name := by
    intro name member
    rw [List.mem_singleton.mp member]
    exact ⟨ofSegment?_renderModuleName id, renderModuleName_plain plain⟩
  rw [renderModulePath_eq]
  exact stands.folder.join (Path.isAbsolute_of_plain (renderModuleName_plain plain))
    isName (innerParts_names isName)

/-- The specifier from a file to a path means that path. -/
theorem locate_specifierFrom {file target : Path}
    (folderAbsolute : file.folder.isAbsolute = true)
    (targetAbsolute : target.isAbsolute = true) (root : Path) :
    locate (Path.specifierFrom file.folder target) ⟨file, root⟩ =
      target.normalized := by
  rw [locate, isRelative_specifierFrom, if_pos rfl]
  exact Path.normalized_join_specifierFrom folderAbsolute targetAbsolute

end Build

namespace Settings

variable {settings : Settings} {output path : Path} {source target names : List String}

/-- What is written keeps its place, and was below the source root. -/
theorem HasRoots.of_outputPath?_eq_some
    (roots : settings.HasRoots output source target)
    (stands : path.StandsAt names) {written : Path}
    (isWritten : settings.outputPath? path = some written) :
    ∃ way, names = source ++ way ∧ written.StandsAt (target ++ way) := by
  cases isRest : settings.source.relativeTo? path with
  | none =>
      rw [outputPath?, roots.isOutput, relative?, isRest] at isWritten
      contradiction
  | some rest =>
      have inside := Path.isPrefix_of_relativeTo? isRest
      rw [roots.source.parts, stands.parts, List.cons_prefix_cons,
        namedParts_prefix_iff] at inside
      obtain ⟨_, way, rfl⟩ := inside
      obtain ⟨other, isOther, otherStands⟩ := roots.exists_outputPath? stands
      obtain rfl := Option.some.inj (isWritten.symm.trans isOther)
      exact ⟨way, rfl, otherStands⟩

end Settings

namespace Command

/-- In the place of a binding, an edit requires a module in memory: it has a
literal that is read as a specifier of that module. -/
structure Requires (shop : Workshop) (module : ModuleResult)
    (stored : RegisteredModule) (specifier : String) (edit : Edit) : Prop where
  written : ∃ binding ∈ bindingsOf shop module.source, ∃ literal mark,
    StringLiteral.ofSource? literal = some ⟨specifier, mark⟩ ∧
      edit = ⟨binding.replaced, "render" ++ binding.form.operator ++ "require(" ++
        literal ++ ")"⟩
  located : ∀ root, locate specifier ⟨module.file, root⟩ = stored.path.normalized

/-- Where a module was written, a specifier means the place where a module in
memory was written, with its content. -/
structure RequiresWritten (settings : Settings) (disk : Snapshot) (target : Path)
    (stored : RegisteredModule) (specifier : String) : Prop where
  placed : ∃ written, settings.outputPath? stored.path = some written ∧
    ∀ root, (locate specifier ⟨target, root⟩).sameAs written = true
  content : ∀ root, disk.content? (locate specifier ⟨target, root⟩) =
    some (.text stored.content)

/-- What the modules of a run require is in memory; and what is required within
some places is required in the output folder, too, where it was written. -/
def IsClosed (shop : Workshop) (settings : Settings) (found : Conversion)
    (after : Snapshot) (within : Path → Prop) : Prop :=
  ∀ module ∈ found.modules, ∃ target edits,
    settings.outputPath? module.file = some target ∧
    Edit.applyAll edits module.source = .ok module.code ∧
    ∀ edit ∈ edits, ∃ stored ∈ found.registry.modules, ∃ specifier,
      Requires shop module stored specifier edit ∧
        (within stored.path → RequiresWritten settings after target stored specifier)

theorem of_run_eq_ok {shop : Workshop} {settings : Settings} {found : Conversion}
    {after : Snapshot} (ran : run shop settings = (.ok found, after)) :
    conversion shop settings = .ok found ∧
      writeOutputs settings shop.disk
        (if settings.output.isSome then found.files else []) =
        (.ok (), after) := by
  unfold run at ran
  split at ran
  · simp at ran
  · next conversed =>
    obtain ⟨isOk, rfl⟩ := Prod.mk.inj ran
    obtain ⟨_, wrote, rfl⟩ := of_map_eq_ok isOk
    exact ⟨conversed, Prod.ext wrote rfl⟩

section

variable {shop : Workshop} {settings : Settings} {output : Path}
  {source target : List String} {state : TemplateState} {history : List Made}
  (distinct : Function.Injective shop.id)
  (plain : ∀ count, '/' ∉ (shop.id count).toList)
  (roots : settings.HasRoots output source target)
  (met : AreMet shop settings.source state) (records : Records shop.id history state)
include distinct plain met records

/-- Render modules stand somewhere. -/
theorem exists_standsAt_render {made : Made} (member : made ∈ history) :
    ∃ names, made.render.StandsAt names := by
  obtain ⟨folder, last, stands⟩ :=
    met.standing made.template made.render (records.found distinct plain member).1
  obtain ⟨count, bound, isAt⟩ := List.mem_iff_getElem.mp member
  rw [records.renders count made (by rw [List.getElem?_eq_getElem bound, isAt])]
  exact ⟨_, standsAt_renderModulePath stands (plain count)⟩

include roots

/-- A render module that is written keeps its text, as no later one has its place. -/
theorem content?_of_made {found : Conversion} {after : Snapshot}
    (registered : found.registry = state.registry)
    (wrote : writeOutputs settings shop.disk found.files = (.ok (), after))
    {made : Made} (member : made ∈ history) {written : Path}
    (isWritten : settings.outputPath? made.render = some written) :
    after.content? written = some (.text made.inMemory.content) := by
  obtain ⟨before, later, rfl⟩ := List.append_of_mem member
  rw [Conversion.files, registered, records.modules, List.map_map, List.map_append,
    List.map_cons, ← List.append_assoc] at wrote
  refine content?_of_writeOutputs wrote isWritten ?_
  intro entry isEntry place isPlace same
  obtain ⟨other, isLater, rfl⟩ := List.mem_map.mp isEntry
  obtain ⟨names, stands⟩ := exists_standsAt_render distinct plain met records member
  obtain ⟨otherNames, otherStands⟩ := exists_standsAt_render distinct plain met records
    (List.mem_append_right before (List.mem_cons_of_mem made isLater))
  obtain ⟨way, rfl, writtenStands⟩ := roots.of_outputPath?_eq_some stands isWritten
  obtain ⟨otherWay, rfl, placeStands⟩ :=
    roots.of_outputPath?_eq_some otherStands isPlace
  rw [Snapshot.partsOf_of_standsAt _ writtenStands,
    Snapshot.partsOf_of_standsAt _ placeStands,
    List.cons_inj_right, namedParts_injective.eq_iff,
    List.append_cancel_left_eq] at same
  have apart := (List.pairwise_append.mp (records.apart distinct plain)).2.1
  have different := (List.pairwise_cons.mp apart).1 other isLater
  rw [Path.sameAs, stands.parts, otherStands.parts, same,
    beq_self_eq_true] at different
  contradiction

/-- What a module requires below the source root, it requires in the
output folder, too. -/
theorem requiresWritten_of_made {found : Conversion} {after : Snapshot}
    (registered : found.registry = state.registry)
    (wrote : writeOutputs settings shop.disk found.files = (.ok (), after))
    {made : Made} (member : made ∈ history)
    (inside : settings.source.parts <+: made.render.parts)
    {file written : Path} {way : List String}
    (placed : IsPlaced source target file way)
    (writtenStands : written.StandsAt (target ++ way)) :
    RequiresWritten settings after written made.inMemory
      (Path.specifierFrom file.folder made.render) := by
  obtain ⟨names, stands⟩ := exists_standsAt_render distinct plain met records member
  rw [roots.source.parts, stands.parts, List.cons_prefix_cons,
    namedParts_prefix_iff] at inside
  obtain ⟨_, down, rfl⟩ := inside
  obtain ⟨place, isPlace, placeStands⟩ := roots.exists_outputPath? stands
  -- Both files have the same way to each other in the source root and in the
  -- output folder.
  obtain ⟨up, last, rfl, folderStands⟩ := placed.exists_folder
  rw [← List.append_assoc] at writtenStands
  have same := folderStands.specifierFrom_eq stands writtenStands.folder placeStands
  have located :
      ∀ root, locate (Path.specifierFrom file.folder made.render) ⟨written, root⟩ =
      place.normalized := by
    rw [same]
    exact locate_specifierFrom writtenStands.folder.isAbsolute placeStands.isAbsolute
  have settled := placeStands.normalized
  refine ⟨⟨place, isPlace, fun root => ?_⟩, fun root => ?_⟩
  · rw [located, Path.sameAs, settled.parts, placeStands.parts, beq_self_eq_true]
  · rw [located, Snapshot.content?, Snapshot.partsOf_of_standsAt _ settled,
      ← Snapshot.partsOf_of_standsAt after placeStands]
    exact content?_of_made distinct plain roots met records registered wrote
      member isPlace

end

theorem quote_of_mem_bindingsOf {shop : Workshop} {code : String} {found : Found}
    (member : found ∈ bindingsOf shop code) {call : RequireCall}
    (require : found.require = some call) :
    call.specifier.quote = '\'' ∨ call.specifier.quote = '"' := by
  unfold bindingsOf at member
  split at member
  · next program _ =>
    obtain ⟨value, isValue⟩ := Found.require_of_mem_inTree program.tree member
    exact RequireCall.quote_of_ofTree? (isValue.symm.trans require)
  · contradiction

/-- The edit of a binding requires a render module. -/
theorem requires_of_isOf {shop : Workshop} {module : ModuleResult}
    {planned : PlannedEdit} (isOf : planned.IsOf (bindingsOf shop module.source))
    {made : Made} (folderAbsolute : module.file.folder.isAbsolute = true)
    (renderAbsolute : made.render.isAbsolute = true) :
    Requires shop module made.inMemory
      (Path.specifierFrom module.file.folder made.render)
      (planned.edit module.file made.render) := by
  obtain ⟨isBinding, call, require, sameQuote⟩ := isOf
  refine ⟨⟨planned.found, isBinding, _, call.specifier.quote,
    ofSource?_quote (quote_of_mem_bindingsOf isBinding require) _, ?_⟩,
    locate_specifierFrom folderAbsolute renderAbsolute⟩
  rw [PlannedEdit.edit, renderBinding, sameQuote]

/-- The pipeline starts to convert modules without templates. -/
theorem areMet_start (shop : Workshop) (root : Path) :
    AreMet shop root { TemplateState.start with sourceRoot := some root } :=
  ⟨fun _ _ known => by contradiction, rfl, fun _ _ known => by contradiction,
    [], (Records.start shop.id).congr rfl rfl rfl⟩

/-- The output of a run is closed under what its modules require
within the source root. -/
theorem run_isClosed {shop : Workshop} (distinct : Function.Injective shop.id)
    (plain : ∀ count, '/' ∉ (shop.id count).toList)
    (wellFormed : shop.disk.IsWellFormed)
    {workspace output : Path} {arguments : Arguments} {settings : Settings}
    (loaded : Settings.load shop.disk workspace arguments = .ok settings)
    (isOutput : settings.output = some output) {found : Conversion} {after : Snapshot}
    (ran : run shop settings = (.ok found, after)) :
    IsClosed shop settings found after fun path => settings.source.parts <+:
      path.parts := by
  obtain ⟨source, target, roots⟩ :=
    Settings.hasRoots_of_load wellFormed loaded isOutput
  obtain ⟨conversed, wrote⟩ := of_run_eq_ok ran
  obtain ⟨before, behind, start, each, registered⟩ := of_conversion_eq_ok conversed
  rw [isOutput, Option.isSome_some, if_pos rfl] at wrote
  have placed : ∀ file ∈ moduleFiles shop.disk settings, ∃ way,
      IsPlaced source target file way :=
    fun file => exists_isPlaced wellFormed roots
  have absolute :
      ∀ file ∈ moduleFiles shop.disk settings, file.folder.isAbsolute = true := by
    intro file member
    obtain ⟨_, isPlaced⟩ := placed file member
    obtain ⟨_, _, _, folderStands⟩ := isPlaced.exists_folder
    exact folderStands.isAbsolute
  have metBefore : AreMet shop settings.source before.templates :=
    start ▸ areMet_start shop settings.source
  obtain ⟨met, _, converted⟩ :=
    metBefore.convertEach distinct plain wellFormed
      roots.source.isAbsolute absolute each
  obtain ⟨history, records⟩ := met.recorded
  intro module member
  obtain ⟨isFile, planned, areOf, edits, areWritten, applied⟩ :=
    converted module member
  obtain ⟨way, isPlaced⟩ := placed module.file isFile
  obtain ⟨written, isWritten, stands⟩ := roots.exists_outputPath? isPlaced.stands
  refine ⟨written, edits, isWritten, applied, ?_⟩
  intro edit isEdit
  obtain ⟨plan, isPlanned, render, known, rfl⟩ := areWritten.of_mem isEdit
  obtain ⟨made, isMade, _, rfl⟩ := records.made known
  obtain ⟨names, renderStands⟩ :=
    exists_standsAt_render distinct plain met records isMade
  refine ⟨made.inMemory, ?_, Path.specifierFrom module.file.folder made.render, ?_, ?_⟩
  · rw [registered, records.modules]
    exact List.mem_map_of_mem isMade
  · exact requires_of_isOf (areOf plan isPlanned) (absolute _ isFile)
      renderStands.isAbsolute
  · intro inside
    exact requiresWritten_of_made distinct plain roots met records registered wrote
      isMade inside isPlaced stands

/-- A module that requires a template. -/
def siteCode (specifier : String) : String :=
  "/*@coolievue*/template=require('" ++ specifier ++ "')"

/-- The program that `siteCode` is. -/
def siteProgram (specifier : String) : Javascript.Program :=
  let call : Span := ⟨23, 34 + specifier.length⟩
  ⟨.node (.program false) ⟨0, call.stop⟩ [.node .expressionStatement ⟨14, call.stop⟩
    [.node (.assign "=") ⟨14, call.stop⟩
      [.node (.identifier "template" 0) ⟨14, 22⟩ [],
        .node (.call false) call
          [.node (.identifier "require" 0) ⟨23, 30⟩ [],
            .node (.string ("'" ++ specifier ++ "'")) ⟨31, 33 + specifier.length⟩
              []]]]],
    [⟨"@coolievue", ⟨0, 14⟩, false⟩]⟩

/-- A disk with a module in `/src`, and a template that the module requires. -/
def siteShop (specifier : String) (template : List Part) : Workshop :=
  { requiringShop with
    disk := ⟨⟨"/"⟩, [([.root, .named "src", .named "main.js"],
      .text (siteCode specifier)), (.root :: template, .text "A")], []⟩
    parse := fun _ => .ok (siteProgram specifier) }

/-- The template stands in the source root, in a folder that is not
searched for modules. -/
def innerShop :
    Workshop := siteShop "./.t/a.html" [.named "src", .named ".t", .named "a.html"]

/-- The template stands beside the source root. -/
def outerShop : Workshop := siteShop "../a.html" [.named "a.html"]

def siteArguments : Arguments :=
  { Arguments.default with outDir := some ⟨"dist"⟩ }

/-- The settings to write what stands in `/src` to `/dist`. -/
def siteSettings : Settings := ⟨none, ⟨"/src"⟩, some ⟨"/dist"⟩, [], []⟩

theorem isWellFormed_innerShop : innerShop.disk.IsWellFormed := by
  refine ⟨by decide, ?_⟩
  intro file member
  simp only [innerShop, siteShop, List.mem_cons, List.not_mem_nil, or_false] at member
  rcases member with rfl | rfl
  · exact ⟨["src", "main.js"], by simp, by decide +kernel, rfl⟩
  · exact ⟨["src", ".t", "a.html"], by simp, by decide +kernel, rfl⟩

theorem exists_run_of_any {shop : Workshop} {settings : Settings}
    {test : Conversion → Bool}
    (passes : (run shop settings).1.toOption.any test = true) :
    ∃ found after, run shop settings = (.ok found, after) ∧ test found = true := by
  cases isOk : (run shop settings).1 with
  | error => simp [isOk, Except.toOption] at passes
  | ok found =>
      rw [isOk] at passes
      exact ⟨found, _, Prod.ext_iff.mpr ⟨isOk, rfl⟩, passes⟩

/-- A template in the source root: its render module is written
where it is required. -/
theorem inner_template_written :
    ∃ found after, run innerShop siteSettings = (.ok found, after) ∧
      (∃ stored ∈ found.registry.modules, siteSettings.source.parts <+:
        stored.path.parts) ∧
      IsClosed innerShop siteSettings found after
        fun path => siteSettings.source.parts <+: path.parts := by
  have loaded :
      Settings.load innerShop.disk ⟨"src"⟩ siteArguments = .ok siteSettings := by
    rfl
  have evaluated : (run innerShop siteSettings).1.toOption.any (fun found =>
      found.registry.modules.any fun stored =>
        siteSettings.source.parts.isPrefixOf stored.path.parts) = true := by
    decide +kernel
  obtain ⟨found, after, ran, holds⟩ := exists_run_of_any evaluated
  refine ⟨found, after, ran, ?_, @run_isClosed innerShop requiringShop_distinct
    requiringShop_plain isWellFormed_innerShop _ _ _ _ loaded rfl _ _ ran⟩
  obtain ⟨stored, member, inside⟩ := List.any_eq_true.mp holds
  exact ⟨stored, member, List.isPrefixOf_iff_prefix.mp inside⟩

/-- A template beside the source root: its render module is required, but
it is not written. -/
theorem outer_template_unwritten :
    Settings.load outerShop.disk ⟨"src"⟩ siteArguments = .ok siteSettings ∧
      ∃ found after, run outerShop siteSettings = (.ok found, after) ∧
        ¬ IsClosed outerShop siteSettings found after fun _ => True := by
  have evaluated : (run outerShop siteSettings).1.toOption.any (fun found =>
      found.modules.any (fun module => module.code != module.source) &&
        found.registry.modules.all fun stored =>
          (siteSettings.outputPath? stored.path).isNone) = true := by
    decide +kernel
  obtain ⟨found, after, ran, holds⟩ := exists_run_of_any evaluated
  rw [Bool.and_eq_true, List.any_eq_true, List.all_eq_true] at holds
  obtain ⟨⟨module, member, changed⟩, outside⟩ := holds
  refine ⟨rfl, found, after, ran, fun closed => ?_⟩
  obtain ⟨target, edits, _, applied, requires⟩ := closed module member
  cases edits with
  | nil =>
      rw [Edit.applyAll_nil, Except.ok.injEq] at applied
      rw [applied, bne_self_eq_false] at changed
      contradiction
  | cons edit rest =>
      obtain ⟨stored, isStored, _, _, isWritten⟩ := requires edit List.mem_cons_self
      obtain ⟨place, isPlace, _⟩ := (isWritten trivial).placed
      have unwritten := outside stored isStored
      rw [isPlace] at unwritten
      contradiction

end Command

end VuePrecompiler
