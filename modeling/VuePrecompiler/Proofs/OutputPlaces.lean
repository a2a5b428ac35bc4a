import VuePrecompiler.Command.Run
import VuePrecompiler.Proofs.SettledRoots

/-!
# Where modules are found and written

A file of the source tree is written to the place in the output folder that it
has below the source root.  Modules are found below the source root and never
below an output folder in there.  So what is written takes the place of a module
only if the source root stands below the output folder, and then for one module
at most.
-/

namespace VuePrecompiler

open Files Command

namespace Settings

/-- A file of the source tree keeps its place when it is written. -/
theorem HasRoots.exists_outputPath? {settings : Settings} {output path : Path}
    {source target way : List String} (roots : settings.HasRoots output source target)
    (stands : path.StandsAt (source ++ way)) :
    ∃ written, settings.outputPath? path = some written ∧
      written.StandsAt (target ++ way) := by
  have inside : settings.source.parts <+: path.parts := by
    rw [roots.source.parts, stands.parts, namedParts_append, ← List.cons_append]
    exact List.prefix_append _ _
  obtain ⟨rest, isRest, relative, inner⟩ :=
    Path.exists_relativeTo? roots.source.isAbsolute inside
  refine ⟨output.join rest, ?_, roots.output.join relative ?_ ?_⟩
  · rw [outputPath?, roots.isOutput, relative?, isRest]
    rfl
  · exact fun name member => stands.areNames name (List.mem_append_right _ member)
  · rw [inner, roots.source.parts, stands.parts, namedParts_append, ← List.cons_append,
      List.drop_left]

end Settings

namespace Command

theorem mem_moduleFiles_iff {disk : Snapshot} {settings : Settings} {file : Path} :
    file ∈ moduleFiles disk settings ↔
      ∃ entry ∈ disk.files,
        isReached settings.source.parts (settings.output.map Path.parts) entry.1 =
          true ∧
        file = .ofParts entry.1 ∧ settings.includes file = true := by
  simp only [moduleFiles, List.mem_filter, List.mem_map, List.mem_mergeSort]
  constructor
  · rintro ⟨⟨parts, ⟨⟨entry, isEntry, rfl⟩, reached⟩, rfl⟩, included⟩
    exact ⟨entry, isEntry, reached, rfl, included⟩
  · rintro ⟨entry, isEntry, reached, rfl, included⟩
    exact ⟨⟨entry.1, ⟨⟨entry, isEntry, rfl⟩, reached⟩, rfl⟩, included⟩

/-- A module stands below the source root, and not in an output
folder that does, too. -/
structure IsPlaced (source target : List String) (file : Path) (way : List String) :
    Prop where
  stands : file.StandsAt (source ++ way)
  below : way ≠ []
  outside : ∀ inner, inner ≠ [] → target = source ++ inner → ¬ inner <+: way

/-- A module stands in a folder. -/
theorem IsPlaced.exists_folder {source target : List String} {file : Path}
    {way : List String} (placed : IsPlaced source target file way) :
    ∃ up last, way = up ++ [last] ∧ file.folder.StandsAt (source ++ up) := by
  have parted := List.dropLast_concat_getLast placed.below
  have stands := placed.stands
  rw [← parted, ← List.append_assoc] at stands
  exact ⟨_, _, parted.symm, stands.folder⟩

theorem exists_isPlaced {disk : Snapshot} {settings : Settings} {output file : Path}
    {source target : List String} (wellFormed : disk.IsWellFormed)
    (roots : settings.HasRoots output source target)
    (member : file ∈ moduleFiles disk settings) :
    ∃ way, IsPlaced source target file way := by
  obtain ⟨entry, isEntry, reached, rfl, _⟩ := mem_moduleFiles_iff.mp member
  obtain ⟨names, _, areNames, parts⟩ := wellFormed.files entry isEntry
  rw [parts] at reached ⊢
  simp only [isReached, roots.source.parts, roots.isOutput, roots.output.parts,
    Option.map_some, Option.any_some, Bool.and_eq_true, Bool.not_eq_true',
    Bool.eq_false_iff, ne_eq, List.isPrefixOf_iff_prefix, List.cons_prefix_cons,
    true_and, bne_iff_ne, List.cons_inj_right,
    namedParts_prefix_iff, namedParts_injective.eq_iff] at reached
  obtain ⟨⟨⟨⟨way, rfl⟩, below⟩, _⟩, outside⟩ := reached
  refine ⟨way, Path.standsAt_ofParts areNames, by simpa using below, ?_⟩
  rintro inner isInner rfl ⟨behind, rfl⟩
  exact outside ⟨⟨List.prefix_append _ _, by simpa using isInner⟩, behind, by
    rw [List.append_assoc]⟩

/-- A module is written over another one exactly if the source root stands below
the output folder, and the module as far below the source root as that, at the
place of the other. -/
theorem outputPath?_sameAs_module_iff {disk : Snapshot} {workspace output : Path}
    {arguments : Arguments} {settings : Settings} (wellFormed : disk.IsWellFormed)
    (loaded : Settings.load disk workspace arguments = .ok settings)
    (isOutput : settings.output = some output) {file other : Path}
    (isFile : file ∈ moduleFiles disk settings)
    (isOther : other ∈ moduleFiles disk settings) :
    ∃ written, settings.outputPath? file = some written ∧
      (written.sameAs other = true ↔
        ∃ between, between ≠ [] ∧ settings.source.parts = output.parts ++ between ∧
          file.parts = settings.source.parts ++
            (between ++ other.parts.drop settings.source.parts.length)) := by
  obtain ⟨source, target, roots⟩ :=
    Settings.hasRoots_of_load wellFormed loaded isOutput
  obtain ⟨way, placed⟩ := exists_isPlaced wellFormed roots isFile
  obtain ⟨otherWay, otherPlaced⟩ := exists_isPlaced wellFormed roots isOther
  obtain ⟨written, isWritten, stands⟩ := roots.exists_outputPath? placed.stands
  refine ⟨written, isWritten, ?_⟩
  have otherParts :
      other.parts.drop settings.source.parts.length = namedParts otherWay := by
    rw [otherPlaced.stands.parts, roots.source.parts, namedParts_append,
      ← List.cons_append, List.drop_left]
  rw [Path.sameAs, beq_iff_eq, otherParts, stands.parts, otherPlaced.stands.parts,
    placed.stands.parts, roots.source.parts, roots.output.parts]
  simp only [List.cons_append, List.cons_inj_right, namedParts_append,
    List.append_cancel_left_eq]
  constructor
  · intro same
    rw [← namedParts_append, ← namedParts_append, namedParts_injective.eq_iff] at same
    rcases List.append_eq_append_iff.mp same with
      ⟨between, rfl, rfl⟩ | ⟨inner, rfl, rfl⟩
    · refine ⟨namedParts between, ?_, namedParts_append _ _, namedParts_append _ _⟩
      intro empty
      rw [namedParts, List.map_eq_nil_iff] at empty
      exact roots.differ (by rw [empty, List.append_nil])
    · -- The other module would stand in an output folder below the source root.
      have isInner : inner ≠ [] := by
        rintro rfl
        exact roots.differ (List.append_nil source)
      exact absurd (List.prefix_append inner way)
        (otherPlaced.outside inner isInner rfl)
  · rintro ⟨between, -, isSource, isWay⟩
    rw [isWay, isSource, List.append_assoc]

/-- A source root with a folder of its own name. -/
def nestedDisk : Snapshot where
  workingFolder := ⟨"/"⟩
  files :=
    [([.root, .named "src", .named "a.js"], .text "first();"),
      ([.root, .named "src", .named "src", .named "a.js"], .text "second();")]
  folders := []

/-- The command line that names the folder around the source root for output. -/
def outwardArguments : Arguments :=
  { Arguments.default with outDir := some ⟨"."⟩ }

/-- The settings to write the modules below `/src` to the root. -/
def outwardSettings : Settings := ⟨none, ⟨"/src"⟩, some ⟨"/"⟩, [], []⟩

theorem isWellFormed_nestedDisk : nestedDisk.IsWellFormed := by
  refine ⟨by decide, ?_⟩
  intro file member
  simp only [nestedDisk, List.mem_cons, List.not_mem_nil, or_false] at member
  rcases member with rfl | rfl
  · exact ⟨["src", "a.js"], by simp, by decide +kernel, rfl⟩
  · exact ⟨["src", "src", "a.js"], by simp, by decide +kernel, rfl⟩

theorem load_outwardArguments :
    Settings.load nestedDisk ⟨"src"⟩ outwardArguments = .ok outwardSettings := by
  rfl

theorem outer_mem_moduleFiles :
    ⟨"/src/a.js"⟩ ∈ moduleFiles nestedDisk outwardSettings :=
  mem_moduleFiles_iff.mpr ⟨_,
    List.mem_cons_self, by decide +kernel, by rfl, by decide +kernel⟩

theorem inner_mem_moduleFiles :
    ⟨"/src/src/a.js"⟩ ∈ moduleFiles nestedDisk outwardSettings :=
  mem_moduleFiles_iff.mpr ⟨_,
    List.mem_cons_of_mem _ List.mem_cons_self, by decide +kernel, by rfl,
    by decide +kernel⟩

/-- In a source root that stands below the output folder, a module is
written over another. -/
theorem module_written_over_another :
    Settings.load nestedDisk ⟨"src"⟩ outwardArguments = .ok outwardSettings ∧
      ⟨"/src/src/a.js"⟩ ∈ moduleFiles nestedDisk outwardSettings ∧
      ⟨"/src/a.js"⟩ ∈ moduleFiles nestedDisk outwardSettings ∧
      outwardSettings.outputPath? ⟨"/src/src/a.js"⟩ = some ⟨"/src/a.js"⟩ :=
  ⟨load_outwardArguments, inner_mem_moduleFiles,
    outer_mem_moduleFiles, by decide +kernel⟩

/-- The outer one of the two modules is written over none. -/
theorem outer_module_written_apart :
    ∃ written, outwardSettings.outputPath? ⟨"/src/a.js"⟩ = some written ∧
      (written.sameAs ⟨"/src/src/a.js"⟩ = true ↔
        ∃ between, between ≠ [] ∧
          outwardSettings.source.parts = (⟨"/"⟩ : Path).parts ++ between ∧
          (⟨"/src/a.js"⟩ : Path).parts = outwardSettings.source.parts ++
            (between ++
              (⟨"/src/src/a.js"⟩ : Path).parts.drop
                outwardSettings.source.parts.length)) :=
  outputPath?_sameAs_module_iff isWellFormed_nestedDisk load_outwardArguments rfl
    outer_mem_moduleFiles inner_mem_moduleFiles

end Command

end VuePrecompiler
