import VuePrecompiler.Proofs.Specifiers

/-!
# Where absolute paths stand

An absolute path with nothing to cancel is told by the names on the way from the
root.  Folders, joined paths and relative paths are computed on these names, and
the specifier between two files depends only on the names behind a folder that
both stand in: it stays the same when the folder is copied to another place.
-/

namespace VuePrecompiler.Files

open Text

namespace Path

/-- A path is absolute, and nothing in it can be cancelled: it
leads over some names. -/
structure StandsAt (path : Path) (names : List String) : Prop where
  areNames : ∀ name ∈ names, IsName name
  parts : path.parts = .root :: namedParts names

theorem isAbsolute_of_parts {path : Path} {inner : List Part}
    (parts : path.parts = .root :: inner) : path.isAbsolute = true := by
  apply isAbsolute_of_root_mem
  rw [parts]
  exact List.mem_cons_self

namespace StandsAt

variable {path : Path} {names : List String}

theorem isAbsolute (stands : path.StandsAt names) : path.isAbsolute = true :=
  isAbsolute_of_parts stands.parts

theorem normalParts (stands : path.StandsAt names) :
    normalParts path.parts = path.parts := by
  rw [stands.parts, Files.normalParts, List.foldl_cons]
  rw [show settle [] .root = [.root] from rfl, foldl_settle_named, List.reverse_append,
    List.reverse_reverse]
  rfl

end StandsAt

theorem standsAt_ofParts {names : List String}
    (areNames : ∀ name ∈ names, IsName name) :
    (ofParts (.root :: namedParts names)).StandsAt names := by
  have begins : (ofParts (.root :: namedParts names)).text.toList =
      '/' :: joinSlash ((namedParts names).map Part.text) := String.toList_ofList
  exact ⟨areNames, by
    rw [parts_of_absolute begins, map_text_namedParts, innerParts_names areNames]⟩

/-- The normal form of an absolute path stands somewhere. -/
theorem standsAt_normalized {path : Path} (absolute : path.isAbsolute = true) :
    ∃ names, path.normalized.StandsAt names := by
  obtain ⟨names, areNames, parts⟩ := normalParts_absolute absolute
  refine ⟨names, ?_⟩
  rw [normalized, parts]
  exact standsAt_ofParts areNames

theorem StandsAt.normalized {path : Path} {names : List String}
    (stands : path.StandsAt names) : path.normalized.StandsAt names := by
  rw [Path.normalized, stands.normalParts, stands.parts]
  exact standsAt_ofParts stands.areNames

/-! ## Folders and joined paths -/

/-- The folder of a file lacks the last name. -/
theorem StandsAt.folder {path : Path} {names : List String} {last : String}
    (stands : path.StandsAt (names ++ [last])) : path.folder.StandsAt names := by
  refine ⟨fun name member => stands.areNames name (List.mem_append_left _ member), ?_⟩
  have parts : path.parts = (.root :: namedParts names) ++ [.named last] := by
    rw [stands.parts, namedParts_append]
    rfl
  rcases parent?_of_absolute stands.isAbsolute with
    ⟨isRoot, _⟩ | ⟨_, parent, above, _, isParent⟩
  · rw [parts] at isRoot
    simp at isRoot
  · rw [Path.folder, above, Option.getD_some, isParent, parts, List.dropLast_concat]

/-- A path goes on behind a folder over the names of a relative path. -/
theorem StandsAt.join {base tail : Path} {names more : List String}
    (stands : base.StandsAt names) (relative : tail.isAbsolute = false)
    (areNames : ∀ name ∈ more, IsName name)
    (inner : innerParts tail.text.toList = namedParts more) :
    (base.join tail).StandsAt (names ++ more) := by
  refine ⟨?_, ?_⟩
  · intro name member
    exact (List.mem_append.mp member).elim (stands.areNames name) (areNames name)
  · rw [parts_join_absolute stands.isAbsolute relative, stands.parts, inner,
      namedParts_append, List.cons_append]

theorem isAbsolute_join {base tail : Path} (absolute : base.isAbsolute = true) :
    (base.join tail).isAbsolute = true := by
  by_cases rooted : tail.isAbsolute = true
  · rw [Path.join, if_pos rooted]
    exact rooted
  · rw [isAbsolute_join_of_relative (Bool.eq_false_iff.mpr rooted)]
    exact absolute

/-! ## Relative paths -/

theorem dropParts_suffix (count : Nat) (segments : List (List Char)) :
    relativeTo?.dropParts count segments <:+ segments := by
  induction segments generalizing count with
  | nil => simp [relativeTo?.dropParts]
  | cons segment rest induction =>
      rw [relativeTo?.dropParts.eq_def]
      split
      · contradiction
      · next shape =>
        obtain ⟨rfl, rfl⟩ := List.cons.inj shape
        split
        · exact (induction _).trans (List.suffix_cons _ _)
        · split
          · exact List.suffix_refl _
          · exact (induction _).trans (List.suffix_cons _ _)

/-- The texts that are left denote the parts behind the dropped ones. -/
theorem filterMap_dropParts (count : Nat) (segments : List (List Char)) :
    (relativeTo?.dropParts count segments).filterMap Part.ofSegment? =
      (segments.filterMap Part.ofSegment?).drop count := by
  induction segments generalizing count with
  | nil => simp [relativeTo?.dropParts]
  | cons segment rest induction =>
      rw [relativeTo?.dropParts.eq_def, List.filterMap_cons]
      cases denotes : Part.ofSegment? segment with
      | none => simp only [denotes, Option.isNone_none, ↓reduceIte, induction]
      | some part =>
          cases count with
          | zero =>
              simp only [denotes, Option.isNone_some, Bool.false_eq_true, ↓reduceIte,
                List.drop_zero, List.filterMap_cons]
          | succ count =>
              simp only [denotes, Option.isNone_some, Bool.false_eq_true, ↓reduceIte,
                List.drop_succ_cons, induction]

/-- What is left begins with a text that denotes something. -/
theorem ne_nil_of_mem_head?_dropParts {count : Nat} {segments : List (List Char)}
    {first : List Char}
    (begins : (relativeTo?.dropParts count segments).head? = some first) :
    first ≠ [] := by
  induction segments generalizing count with
  | nil => simp [relativeTo?.dropParts] at begins
  | cons segment rest induction =>
      rw [relativeTo?.dropParts.eq_def] at begins
      cases denotes : Part.ofSegment? segment with
      | none =>
          simp only [denotes, Option.isNone_none, ↓reduceIte] at begins
          exact induction begins
      | some part =>
          cases count with
          | zero =>
              simp only [denotes, Option.isNone_some, Bool.false_eq_true, ↓reduceIte,
                List.head?_cons, Option.some_inj] at begins
              rw [← begins]
              exact ne_nil_of_isSome_ofSegment? (by rw [denotes]; rfl)
          | succ count =>
              simp only [denotes, Option.isNone_some,
                Bool.false_eq_true, ↓reduceIte] at begins
              exact induction begins

/-- Texts between slashes, the first of which is not empty, are those
of a relative path. -/
theorem isAbsolute_joinSlash {segments : List (List Char)} (plain : Plain segments)
    (begins : ∀ first, segments.head? = some first → first ≠ []) :
    (⟨String.ofList (joinSlash segments)⟩ : Path).isAbsolute = false := by
  rw [Bool.eq_false_iff]
  intro absolute
  obtain ⟨rest, text⟩ := isAbsolute_iff.mp absolute
  rw [String.toList_ofList] at text
  cases segments with
  | nil => contradiction
  | cons first later =>
      obtain ⟨c, others, rfl⟩ := List.exists_cons_of_ne_nil (begins first rfl)
      have firstPlain := plain (c :: others) List.mem_cons_self
      have isFirst : (joinSlash ((c :: others) :: later)).head? = some c := by
        cases later <;> rfl
      rw [text, List.head?_cons, Option.some_inj] at isFirst
      exact firstPlain (isFirst ▸ List.mem_cons_self)

/-- The path as seen from a folder that its parts begin with: it denotes
the parts behind. -/
theorem exists_relativeTo? {base path : Path} (absolute : base.isAbsolute = true)
    (inside : base.parts <+: path.parts) :
    ∃ rest, base.relativeTo? path = some rest ∧ rest.isAbsolute = false ∧
      innerParts rest.text.toList = path.parts.drop base.parts.length := by
  obtain ⟨baseRest, baseBegins⟩ := isAbsolute_iff.mp absolute
  have baseParts := parts_of_absolute baseBegins
  obtain ⟨behind, parted⟩ := inside
  have pathAbsolute : path.isAbsolute = true := by
    rw [baseParts] at parted
    exact isAbsolute_of_parts parted.symm
  obtain ⟨later, plain, segments, parts⟩ := exists_dropSilent pathAbsolute
  have left : Plain (relativeTo?.dropParts (innerParts baseRest).length later) :=
    fun segment member => plain segment ((dropParts_suffix _ _).subset member)
  refine ⟨⟨String.ofList
    (joinSlash (relativeTo?.dropParts (innerParts baseRest).length later))⟩,
    ?_, ?_, ?_⟩
  · have isPrefix : base.parts.isPrefixOf path.parts = true :=
      List.isPrefixOf_iff_prefix.mpr ⟨behind, parted⟩
    rw [relativeTo?, if_pos isPrefix, baseParts]
    simp only [List.isEmpty_cons, Bool.false_eq_true, ↓reduceIte, relativeTo?.after,
      segments, List.length_cons, Nat.add_sub_cancel]
  · exact isAbsolute_joinSlash left fun first begins =>
      ne_nil_of_mem_head?_dropParts begins
  · rw [String.toList_ofList, innerParts_joinSlash left, filterMap_dropParts,
      baseParts, parts, List.length_cons, List.drop_succ_cons]

theorem isPrefix_of_relativeTo? {base path rest : Path}
    (isInside : base.relativeTo? path = some rest) : base.parts <+: path.parts := by
  unfold relativeTo? at isInside
  split at isInside
  · next inside => exact List.isPrefixOf_iff_prefix.mp inside
  · contradiction

/-! ## Specifiers in copied folders -/

theorem commonCount_append (shared left right : List Part) :
    commonCount (shared ++ left) (shared ++ right) = shared.length +
      commonCount left right := by
  induction shared with
  | nil => simp
  | cons part rest induction =>
      rw [List.cons_append, List.cons_append, commonCount_cons_self, induction,
        List.length_cons]
      omega

/-- The way between two paths in a folder is told by the names behind that folder. -/
theorem StandsAt.wayFrom {folder target : Path} {shared up down : List String}
    (folderStands : folder.StandsAt (shared ++ up))
    (targetStands : target.StandsAt (shared ++ down)) :
    wayFrom folder target =
      List.replicate (up.length - commonCount (namedParts up) (namedParts down))
        ['.', '.'] ++
        (down.drop (commonCount (namedParts up) (namedParts down))).map
          String.toList := by
  have shift : commonCount (namedParts (shared ++ up)) (namedParts (shared ++ down)) =
      shared.length + commonCount (namedParts up) (namedParts down) := by
    rw [namedParts_append, namedParts_append, commonCount_append, namedParts,
      List.length_map]
  rw [wayFrom_absolute (folderStands.normalParts.trans folderStands.parts)
    (targetStands.normalParts.trans targetStands.parts), shift, List.length_append,
    Nat.add_sub_add_left, List.drop_length_add_append]

/-- The specifier between two files stays the same when a folder
with both is copied. -/
theorem StandsAt.specifierFrom_eq {folder target folderCopy targetCopy : Path}
    {source copy up down : List String} (folderStands : folder.StandsAt (source ++ up))
    (targetStands : target.StandsAt (source ++ down))
    (folderCopied : folderCopy.StandsAt (copy ++ up))
    (targetCopied : targetCopy.StandsAt (copy ++ down)) :
    specifierFrom folder target = specifierFrom folderCopy targetCopy := by
  rw [specifierFrom, specifierFrom, folderStands.wayFrom targetStands,
    folderCopied.wayFrom targetCopied]

end Path

end VuePrecompiler.Files
