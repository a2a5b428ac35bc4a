import VuePrecompiler.Proofs.Results
import VuePrecompiler.Proofs.StandingPaths
import VuePrecompiler.Settings.Resolved

/-!
# The roots of a run

Whatever the command line and the settings file say, the source root and the
output folder are absolute and normal, and they are not the same folder.
-/

namespace VuePrecompiler

open Files Command

namespace Files.Snapshot

/-- A snapshot is what it is meant to be: relative paths start from an absolute
folder, and files are listed by the parts of normal absolute paths, none of
which is the root. -/
structure IsWellFormed (disk : Snapshot) : Prop where
  workingFolder : disk.workingFolder.isAbsolute = true
  files : ∀ file ∈ disk.files, ∃ names : List String,
    names ≠ [] ∧ (∀ name ∈ names, IsName name) ∧ file.1 = .root :: namedParts names

theorem partsOf_of_standsAt (disk : Snapshot) {path : Path} {names : List String}
    (stands : path.StandsAt names) :
    disk.partsOf path = .root :: namedParts names := by
  rw [partsOf, Path.join, if_pos stands.isAbsolute, stands.normalParts, stands.parts]

/-- A file is not the root, so it stands in a folder. -/
theorem IsWellFormed.exists_folder {disk : Snapshot} (wellFormed : disk.IsWellFormed)
    {path : Path} {names : List String} (stands : path.StandsAt names)
    (isFile : disk.isFile path = true) :
    ∃ folder last, path.StandsAt (folder ++ [last]) := by
  rw [Snapshot.isFile, content?, partsOf_of_standsAt disk stands] at isFile
  obtain ⟨content, found⟩ := Option.isSome_iff_exists.mp isFile
  obtain ⟨before, behind, files, _⟩ := List.lookup_eq_some_iff.mp found
  obtain ⟨others, notRoot, _, parts⟩ :=
    wellFormed.files _ (files ▸ List.mem_append_cons_self)
  obtain rfl := namedParts_injective (List.cons.inj parts).2
  refine ⟨names.dropLast, names.getLast notRoot, ?_⟩
  rwa [List.dropLast_concat_getLast]

end Files.Snapshot

namespace Settings

theorem standsAt_absolute {disk : Snapshot} (wellFormed : disk.IsWellFormed)
    (path : Path) :
    ∃ names, (absolute disk path).StandsAt names :=
  Path.standsAt_normalized (Path.isAbsolute_join wellFormed.workingFolder)

theorem isAbsolute_absolute {disk : Snapshot} (wellFormed : disk.IsWellFormed)
    (path : Path) : (absolute disk path).isAbsolute = true := by
  obtain ⟨names, stands⟩ := standsAt_absolute wellFormed path
  exact stands.isAbsolute

/-- The ancestors of an absolute path are absolute. -/
theorem isAbsolute_of_mem_ancestors {path ancestor : Path}
    (absolute : path.isAbsolute = true)
    (member : ancestor ∈ path.ancestors) : ancestor.isAbsolute = true := by
  unfold Path.ancestors at member
  generalize path.parts.length = count at member
  induction count generalizing path with
  | zero =>
      rw [Path.ancestors.go, List.mem_singleton] at member
      rwa [member]
  | succ count induction =>
      rw [Path.ancestors.go] at member
      rcases Path.parent?_of_absolute absolute with
        ⟨_, none⟩ | ⟨_, parent, above, isAbove, _⟩
      · rw [none, List.mem_singleton] at member
        rwa [member]
      · rw [above] at member
        rcases List.mem_cons.mp member with rfl | higher
        · exact absolute
        · exact induction isAbove higher

/-- Where the paths of a settings file start, if there is one, or the workspace. -/
def baseOf (disk : Snapshot) (workspace : Path) (file : Option Path) : Path :=
  file.elim (absolute disk workspace) fun file =>
    file.parent?.getD (absolute disk workspace)

theorem isAbsolute_baseOf {disk : Snapshot} (wellFormed : disk.IsWellFormed)
    (workspace : Path) {file : Option Path}
    (absolute : ∀ found ∈ file, found.isAbsolute = true) :
    (baseOf disk workspace file).isAbsolute = true := by
  cases file with
  | none => exact isAbsolute_absolute wellFormed workspace
  | some found =>
      rcases Path.parent?_of_absolute (absolute found rfl) with
        ⟨_, none⟩ | ⟨_, parent, above, isAbove, _⟩
      · rw [baseOf, Option.elim_some, none]
        exact isAbsolute_absolute wellFormed workspace
      · rw [baseOf, Option.elim_some, above]
        exact isAbove

theorem isAbsolute_of_mem_settingsFilePlaces {workspace place : Path}
    (absolute : workspace.isAbsolute = true)
    (member : place ∈ settingsFilePlaces workspace) : place.isAbsolute = true := by
  obtain ⟨folder, isAncestor, rfl⟩ := List.mem_map.mp member
  exact Path.isAbsolute_join (isAbsolute_of_mem_ancestors absolute isAncestor)

/-- The settings file is given by an absolute path, and the roots
start from its folder. -/
theorem of_load_eq_ok {disk : Snapshot} {workspace : Path} {arguments : Arguments}
    {settings : Settings} (wellFormed : disk.IsWellFormed)
    (loaded : load disk workspace arguments = .ok settings) :
    (∀ file ∈ settings.file, file.isAbsolute = true) ∧ ∃ written : SettingsFile,
      settings.source =
        ((baseOf disk workspace settings.file).join
          ⟨written.source.getD "."⟩).normalized ∧
      outputFolder disk arguments written (baseOf disk workspace settings.file)
        settings.source =
        .ok settings.output := by
  unfold load at loaded
  obtain ⟨written, _, loaded⟩ := of_bind_eq_ok loaded
  obtain ⟨output, isOutput, loaded⟩ := of_bind_eq_ok loaded
  obtain ⟨globs, _, same⟩ := of_bind_eq_ok loaded
  obtain rfl := Except.ok.inj same
  refine ⟨?_, written, rfl, isOutput⟩
  intro file isFile
  simp only [Option.mem_def] at isFile
  split at isFile
  · obtain rfl := Option.some.inj isFile
    exact isAbsolute_absolute wellFormed _
  · have place := List.mem_of_find?_eq_some isFile
    exact isAbsolute_of_mem_settingsFilePlaces
      (isAbsolute_absolute wellFormed workspace) place

/-- An output folder is normal, and it is not the source root. -/
theorem of_outputFolder_eq_some {disk : Snapshot} {arguments : Arguments}
    {written : SettingsFile} {base source output : Path}
    (wellFormed : disk.IsWellFormed) (absolute : base.isAbsolute = true)
    (isOutput : outputFolder disk arguments written base source = .ok (some output)) :
    (∃ names, output.StandsAt names) ∧ output.sameAs source = false := by
  unfold outputFolder at isOutput
  split at isOutput
  · simp [pure, Except.pure] at isOutput
  · dsimp only at isOutput
    have settle : ∀ folder : Path, (∃ names, folder.StandsAt names) →
        (if folder.sameAs source then throw (.outputIsSource folder)
          else return some folder :
          Except SettingsError (Option Path)) = .ok (some output) →
        (∃ names, output.StandsAt names) ∧ output.sameAs source = false := by
      intro folder stands chosen
      split at chosen
      · contradiction
      · next different =>
        obtain rfl := Option.some.inj (Except.ok.inj chosen)
        exact ⟨stands, by simpa using different⟩
    split at isOutput
    · obtain ⟨folder, isFolder, chosen⟩ := of_bind_eq_ok isOutput
      obtain rfl := Except.ok.inj isFolder
      exact settle _ (standsAt_absolute wellFormed _) chosen
    · obtain ⟨folder, isFolder, chosen⟩ := of_bind_eq_ok isOutput
      obtain rfl := Except.ok.inj isFolder
      exact settle _ (Path.standsAt_normalized (Path.isAbsolute_join absolute)) chosen
    · obtain ⟨folder, isFolder, _⟩ := of_bind_eq_ok isOutput
      contradiction

/-- The source root and the output folder of settings stand
somewhere, and they differ. -/
structure HasRoots (settings : Settings) (output : Path)
    (sourceNames outputNames : List String) : Prop where
  source : settings.source.StandsAt sourceNames
  isOutput : settings.output = some output
  output : output.StandsAt outputNames
  differ : outputNames ≠ sourceNames

theorem hasRoots_of_load {disk : Snapshot} {workspace : Path} {arguments : Arguments}
    {settings : Settings} {output : Path} (wellFormed : disk.IsWellFormed)
    (loaded : load disk workspace arguments = .ok settings)
    (isOutput : settings.output = some output) :
    ∃ sourceNames outputNames, settings.HasRoots output sourceNames outputNames := by
  obtain ⟨absolute, written, source, chosen⟩ := of_load_eq_ok wellFormed loaded
  have baseAbsolute := isAbsolute_baseOf wellFormed workspace absolute
  rw [isOutput] at chosen
  obtain ⟨⟨outputNames, outputStands⟩, differ⟩ :=
    of_outputFolder_eq_some wellFormed baseAbsolute chosen
  obtain ⟨sourceNames, sourceStands⟩ := Path.standsAt_normalized
    (@Path.isAbsolute_join _ ⟨written.source.getD "."⟩ baseAbsolute)
  rw [← source] at sourceStands
  refine ⟨sourceNames, outputNames, sourceStands, isOutput, outputStands, ?_⟩
  rintro rfl
  rw [Path.sameAs, outputStands.parts, sourceStands.parts, beq_self_eq_true] at differ
  contradiction

end Settings

end VuePrecompiler
