import VuePrecompiler.Build.Resolution
import VuePrecompiler.Proofs.NormalPaths
import VuePrecompiler.Proofs.Quotation

/-!
# Specifiers lead to what they were made for

The way from a folder to a path goes up to where their normal forms part, and
down again.  Followed from the folder it ends at the normal form of the path,
also after it was written as a literal and read back.
-/

namespace VuePrecompiler.Files

open Text

namespace Path

/-! ## The common start -/

theorem take_commonCount (left right : List Part) :
    left.take (commonCount left right) = right.take (commonCount left right) := by
  induction left generalizing right with
  | nil => simp [commonCount]
  | cons first rest induction =>
      cases right with
      | nil => simp [commonCount]
      | cons other others =>
          rw [commonCount]
          split
          · next same => rw [same, List.take_succ_cons, List.take_succ_cons, induction]
          · rfl

theorem commonCount_cons_self (part : Part) (left right : List Part) :
    commonCount (part :: left) (part :: right) = commonCount left right + 1 := by
  rw [commonCount, if_pos rfl]

/-! ## The way -/

/-- Upward parts, and names below them. -/
def wayParts (up : Nat) (down : List String) : List Part :=
  List.replicate up .parent ++ namedParts down

/-- Up from some names and down over others, where both begin alike. -/
theorem foldl_settle_way (folder target : List String) :
    let common := commonCount (namedParts folder) (namedParts target)
    (wayParts (folder.length - common) (target.drop common)).foldl settle
        ((namedParts folder).reverse ++ [.root]) =
      (namedParts target).reverse ++ [.root] := by
  intro common
  have sameStart : folder.take common = target.take common := by
    have taken := take_commonCount (namedParts folder) (namedParts target)
    rw [namedParts, namedParts, ← List.map_take, ← List.map_take] at taken
    exact namedParts_injective taken
  have parted : (namedParts folder).reverse =
      namedParts (folder.drop common).reverse ++
        (namedParts (folder.take common)).reverse := by
    rw [← reverse_namedParts, ← List.reverse_append, ← namedParts_append,
      List.take_append_drop]
  have upward : folder.length - common = (folder.drop common).reverse.length := by
    rw [List.length_reverse, List.length_drop]
  rw [wayParts, List.foldl_append, parted, upward, List.append_assoc,
    foldl_settle_parents, foldl_settle_named, sameStart, ← List.append_assoc,
    ← List.reverse_append, ← namedParts_append, List.take_append_drop]

/-- The texts of the way between absolute paths denote upward parts and names. -/
theorem wayFrom_absolute {folder target : Path} {folderNames targetNames : List String}
    (folderParts : normalParts folder.parts = .root :: namedParts folderNames)
    (targetParts : normalParts target.parts = .root :: namedParts targetNames) :
    let common := commonCount (namedParts folderNames) (namedParts targetNames)
    wayFrom folder target =
      List.replicate (folderNames.length - common) ['.', '.'] ++
        (targetNames.drop common).map String.toList := by
  intro common
  have count : (Part.root :: namedParts folderNames).length - (common + 1) =
      folderNames.length - common := by
    rw [List.length_cons, namedParts, List.length_map]
    omega
  have texts : (List.drop common (namedParts targetNames)).map Part.text =
      (targetNames.drop common).map String.toList := by
    rw [namedParts, ← List.map_drop, List.map_map]
    rfl
  simp only [wayFrom, folderParts, targetParts, commonCount_cons_self,
    List.drop_succ_cons]
  rw [count, texts]

theorem innerParts_way {up : Nat} {down : List String}
    (areNames : ∀ name ∈ down, IsName name) :
    innerParts (joinSlash (List.replicate up ['.', '.'] ++ down.map String.toList)) =
      wayParts up down := by
  have plain : Plain (List.replicate up ['.', '.'] ++ down.map String.toList) := by
    intro segment member
    rcases List.mem_append.mp member with upward | downward
    · rw [List.eq_of_mem_replicate upward]
      decide
    · exact plain_names areNames segment downward
  have upParts : (List.replicate up ['.', '.']).filterMap Part.ofSegment? =
      List.replicate up .parent := List.filterMap_replicate_of_some rfl
  rw [innerParts_joinSlash plain, List.filterMap_append, upParts,
    filterMap_names areNames, wayParts]

/-! ## The specifier -/

/-- A specifier says that it is relative, in front of the way or as its beginning. -/
theorem toList_specifierFrom (folder target : Path) :
    let way := joinSlash (wayFrom folder target)
    (specifierFrom folder target).toList = '.' :: '/' :: way ∨
      (specifierFrom folder target).toList = way ∧
      ∃ rest, way = '.' :: '.' :: '/' :: rest := by
  intro way
  rw [specifierFrom]
  split
  · next upward =>
    obtain ⟨rest, shape⟩ := List.isPrefixOf_iff_prefix.mp upward
    exact Or.inr ⟨String.toList_ofList, rest, shape.symm⟩
  · exact Or.inl String.toList_ofList

/-- Whichever of the two, it denotes the parts of the way. -/
theorem innerParts_specifierFrom (folder target : Path) :
    innerParts (specifierFrom folder target).toList =
      innerParts (joinSlash (wayFrom folder target)) := by
  rcases toList_specifierFrom folder target with here | ⟨up, _⟩
  · have dotted : (specifierFrom folder target).toList =
        ['.'] ++ '/' :: joinSlash (wayFrom folder target) := here
    have nothing : innerParts ['.'] = [] := rfl
    rw [dotted, innerParts_append, nothing, List.nil_append]
  · rw [up]

/-- A specifier starts with a dot or two, and a slash. -/
theorem specifierFrom_starts (folder target : Path) :
    "./".toList <+: (specifierFrom folder target).toList ∨
      "../".toList <+: (specifierFrom folder target).toList := by
  rcases toList_specifierFrom folder target with here | ⟨up, rest, shape⟩
  · exact Or.inl ⟨_, here.symm⟩
  · exact Or.inr ⟨rest, by rw [up, shape]; rfl⟩

theorem specifierFrom_relative (folder target : Path) :
    (⟨specifierFrom folder target⟩ : Path).isAbsolute = false := by
  rw [isAbsolute]
  rcases toList_specifierFrom folder target with here | ⟨up, rest, shape⟩
  · rw [here]
    rfl
  · rw [up, shape]
    rfl

/-- Followed from its folder, a specifier ends at the normal form of its target. -/
theorem normalized_join_specifierFrom {folder target : Path}
    (folderAbsolute : folder.isAbsolute = true)
    (targetAbsolute : target.isAbsolute = true) :
    (folder.join ⟨specifierFrom folder target⟩).normalized = target.normalized := by
  obtain ⟨folderNames, _, folderParts⟩ := normalParts_absolute folderAbsolute
  obtain ⟨targetNames, areNames, targetParts⟩ := normalParts_absolute targetAbsolute
  have downNames : ∀ name ∈ targetNames.drop
      (commonCount (namedParts folderNames) (namedParts targetNames)), IsName name :=
    fun name member => areNames name (List.mem_of_mem_drop member)
  have way : innerParts (specifierFrom folder target).toList =
      wayParts (folderNames.length -
        commonCount (namedParts folderNames) (namedParts targetNames))
        (targetNames.drop (commonCount (namedParts folderNames)
          (namedParts targetNames))) := by
    rw [innerParts_specifierFrom, wayFrom_absolute folderParts targetParts,
      innerParts_way downNames]
  have settled : normalParts (folder.join ⟨specifierFrom folder target⟩).parts =
      normalParts target.parts := by
    rw [parts_join_absolute folderAbsolute (specifierFrom_relative folder target), way,
      normalParts_append, folderParts, List.reverse_cons, foldl_settle_way,
      targetParts, List.reverse_append, List.reverse_reverse]
    rfl
  rw [normalized, settled, normalized]

end Path

end VuePrecompiler.Files

namespace VuePrecompiler.Build

open Files Javascript

theorem isRelative_specifierFrom (folder target : Path) :
    isRelative (Path.specifierFrom folder target) = true := by
  unfold isRelative
  simp only [Bool.or_eq_true, List.isPrefixOf_iff_prefix]
  rcases Path.specifierFrom_starts folder target with here | up
  · exact Or.inl (Or.inr here)
  · exact Or.inr up

/-- The literal that is written for a render module is read back, starts with a
dot, and leads to the module from the file that it was written into. -/
theorem locate_written_specifier {file target root : Path} {mark : Char}
    (fileAbsolute : file.isAbsolute = true) (below : file.parts ≠ [.root])
    (targetAbsolute : target.isAbsolute = true) (isQuote : mark = '\'' ∨ mark = '"') :
    ∃ specifier,
      StringLiteral.ofSource? (quote (Path.specifierFrom file.folder target) mark) =
        some ⟨specifier, mark⟩ ∧
      ("./".toList <+: specifier.toList ∨ "../".toList <+: specifier.toList) ∧
      locate specifier ⟨file, root⟩ = target.normalized := by
  refine ⟨Path.specifierFrom file.folder target, ofSource?_quote isQuote _,
    Path.specifierFrom_starts file.folder target, ?_⟩
  have folderAbsolute := Path.folder_absolute fileAbsolute below
  rw [locate, isRelative_specifierFrom, if_pos rfl]
  exact Path.normalized_join_specifierFrom folderAbsolute targetAbsolute

/-- Dots, repeated slashes, quotes and a way up are no obstacle. -/
theorem locate_written_specifier_up :
    ∃ specifier,
      StringLiteral.ofSource?
          (quote (Path.specifierFrom (⟨"/a/./b//c.js"⟩ : Path).folder
            ⟨"/a/x/../it's.js"⟩) '\'') =
        some ⟨specifier, '\''⟩ ∧
      ("./".toList <+: specifier.toList ∨ "../".toList <+: specifier.toList) ∧
      locate specifier ⟨⟨"/a/./b//c.js"⟩, ⟨"src"⟩⟩ = ⟨"/a/it's.js"⟩ := by
  have normal : (⟨"/a/x/../it's.js"⟩ : Path).normalized = ⟨"/a/it's.js"⟩ := by
    decide +kernel
  rw [← normal]
  exact locate_written_specifier (by decide) (by decide +kernel)
    (by decide) (Or.inl rfl)

end VuePrecompiler.Build
