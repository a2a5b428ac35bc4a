import Mathlib.Data.List.DropRight
import VuePrecompiler.Proofs.Segments

/-!
# Parts, folders and names

What the parts of a path are, when it is given by its texts between slashes,
and how a folder, a name in it and the path of the two belong together.
-/

namespace VuePrecompiler.Files

open Text

/-- Texts that stand between slashes and have no slash in them. -/
def Plain (segments : List (List Char)) : Prop :=
  ∀ segment ∈ segments, '/' ∉ segment

/-- The parts that the texts between the slashes of a text denote. -/
def innerParts (text : List Char) : List Part :=
  (splitOnChar '/' text).filterMap Part.ofSegment?

theorem innerParts_nil : innerParts [] = [] := rfl

theorem innerParts_append (left right : List Char) :
    innerParts (left ++ '/' :: right) = innerParts left ++ innerParts right := by
  rw [innerParts, splitOnChar_append, List.filterMap_append]
  rfl

/-- A slash in front of a text denotes nothing. -/
theorem innerParts_slash (rest : List Char) :
    innerParts ('/' :: rest) = innerParts rest :=
  innerParts_append [] rest

theorem innerParts_joinSlash {segments : List (List Char)} (plain : Plain segments) :
    innerParts (Path.joinSlash segments) = segments.filterMap Part.ofSegment? := by
  by_cases none : segments = []
  · subst none
    rfl
  · rw [innerParts, Path.splitOnChar_joinSlash none plain]

namespace Path

theorem segments_plain (path : Path) : Plain path.segments := by
  intro segment member
  exact notMem_of_mem_splitOnChar member

theorem segments_ofSegments {segments : List (List Char)} (more : segments ≠ [])
    (plain : Plain segments) :
    (⟨String.ofList (joinSlash segments)⟩ : Path).segments = segments := by
  rw [Path.segments, String.toList_ofList, splitOnChar_joinSlash more plain]

theorem isAbsolute_iff {path : Path} :
    path.isAbsolute = true ↔ ∃ rest, path.text.toList = '/' :: rest := by
  rw [isAbsolute, beq_iff_eq, List.head?_eq_some_iff]

theorem isAbsolute_of_plain {name : String} (plain : '/' ∉ name.toList) :
    (⟨name⟩ : Path).isAbsolute = false := by
  rw [Bool.eq_false_iff]
  intro absolute
  obtain ⟨rest, begins⟩ := isAbsolute_iff.mp absolute
  exact plain (by simp [begins])

theorem parts_of_absolute {path : Path} {rest : List Char}
    (begins : path.text.toList = '/' :: rest) :
    path.parts = .root :: innerParts rest := by
  have absolute : path.isAbsolute = true := isAbsolute_iff.mpr ⟨rest, begins⟩
  have segments : path.segments = [] :: splitOnChar '/' rest := by
    rw [Path.segments, begins, splitOnChar_cons_self]
  simp only [parts, segments, absolute, ↓reduceIte]
  rfl

theorem parts_eq_root_cons {path : Path} (absolute : path.isAbsolute = true) :
    path.parts = .root :: innerParts path.text.toList := by
  obtain ⟨rest, begins⟩ := isAbsolute_iff.mp absolute
  rw [parts_of_absolute begins, begins, innerParts_slash]

/-- Behind the first text between slashes each text stands for itself. -/
theorem parts_of_segments {path : Path} {first : List Char} {later : List (List Char)}
    (segments : path.segments = first :: later) :
    ∃ leading, path.parts = leading ++ later.filterMap Part.ofSegment? := by
  rw [parts, segments]
  by_cases absolute : path.isAbsolute = true
  · exact ⟨[.root], by simp only [absolute, ↓reduceIte]; rfl⟩
  · by_cases dot : first = ['.']
    · exact ⟨[.current], by simp only [absolute, dot, ↓reduceIte]; rfl⟩
    · exact ⟨(Part.ofSegment? first).toList,
        by simp only [absolute, dot, ↓reduceIte]; rfl⟩

/-- The name of a path is its last text between slashes. -/
theorem name?_of_segments {path : Path} {before : List (List Char)} {last : List Char}
    {name : String} (segments : path.segments = before ++ [last])
    (isName : Part.ofSegment? last = some (.named name)) : path.name? = some name := by
  have final : path.parts.getLast? = some (.named name) := by
    cases before with
    | nil =>
        -- The only text cannot be that before the slash of an absolute path.
        have relative : path.isAbsolute = false := by
          rw [Bool.eq_false_iff]
          intro absolute
          obtain ⟨rest, begins⟩ := isAbsolute_iff.mp absolute
          rw [Path.segments, begins, splitOnChar_cons_self] at segments
          exact splitOnChar_ne_nil '/' rest (List.cons.inj segments).2
        have noDot : last ≠ ['.'] := by
          rintro rfl
          simp [Part.ofSegment?] at isName
        simp only [parts, segments, List.nil_append, relative, noDot, isName,
          Bool.false_eq_true, ↓reduceIte]
        rfl
    | cons first before =>
        rw [List.cons_append] at segments
        obtain ⟨leading, parts⟩ := parts_of_segments segments
        rw [parts, List.filterMap_append, List.filterMap_cons, isName,
          ← List.append_assoc]
        exact List.getLast?_concat
  rw [name?, final]

/-! ## Joining -/

theorem ofList_isEmpty {text : List Char} :
    (String.ofList text).isEmpty = true ↔ text = [] := by
  rw [String.isEmpty_iff, ← String.toList_inj, String.toList_ofList]
  rfl

/-- A relative path goes on directly behind an empty path or a slash. -/
theorem join_eq_append {before : List Char} {tail : Path}
    (relative : tail.isAbsolute = false)
    (ready : before = [] ∨ before.getLast? = some '/') :
    (⟨String.ofList before⟩ : Path).join tail =
      ⟨String.ofList (before ++ tail.text.toList)⟩ := by
  have isReady : ((String.ofList before).isEmpty ||
      (String.ofList before).toList.getLast? == some '/') = true := by
    rw [Bool.or_eq_true, ofList_isEmpty, String.toList_ofList, beq_iff_eq]
    exact ready
  rw [join, relative, if_neg Bool.false_ne_true, if_pos isReady, String.ofList_append,
    String.ofList_toList]

theorem join_empty {tail : Path} (relative : tail.isAbsolute = false) :
    (⟨""⟩ : Path).join tail = tail := by
  have joined := @join_eq_append [] tail relative (Or.inl rfl)
  rw [List.nil_append, String.ofList_toList] at joined
  exact joined

/-- Behind any other text a slash comes in between. -/
theorem join_eq_append_slash {before : List Char} {tail : Path}
    (relative : tail.isAbsolute = false) (notEmpty : before ≠ [])
    (noSlash : before.getLast? ≠ some '/') :
    (⟨String.ofList before⟩ : Path).join tail =
      ⟨String.ofList (before ++ '/' :: tail.text.toList)⟩ := by
  have notReady : ¬((String.ofList before).isEmpty ||
      (String.ofList before).toList.getLast? == some '/') = true := by
    rw [Bool.or_eq_true, ofList_isEmpty, String.toList_ofList, beq_iff_eq, not_or]
    exact ⟨notEmpty, noSlash⟩
  have text : String.ofList before ++ "/" ++ tail.text =
      String.ofList (before ++ '/' :: tail.text.toList) := by
    rw [← String.toList_inj]
    simp only [String.toList_append, String.toList_ofList, List.append_assoc]
    rfl
  rw [join, relative, if_neg Bool.false_ne_true, if_neg notReady, text]

section

variable {path tail : Path}

/-- A slash stands between a path and a relative one that continues it,
unless it ends there. -/
theorem toList_join (relative : tail.isAbsolute = false) :
    (path.join tail).text.toList = path.text.toList ++ tail.text.toList ∧
        (path.text.toList = [] ∨ ∃ before, path.text.toList = before ++ ['/']) ∨
      path.text.toList ≠ [] ∧
        (path.join tail).text.toList = path.text.toList ++ '/' ::
          tail.text.toList := by
  obtain ⟨text, rfl⟩ : ∃ text, path = ⟨String.ofList text⟩ :=
    ⟨path.text.toList, by rw [String.ofList_toList]⟩
  by_cases ready : text = [] ∨ text.getLast? = some '/'
  · rw [join_eq_append relative ready, String.toList_ofList, String.toList_ofList]
    exact .inl ⟨rfl, ready.imp_right List.getLast?_eq_some_iff.mp⟩
  · rw [not_or] at ready
    rw [join_eq_append_slash relative ready.1 ready.2, String.toList_ofList,
      String.toList_ofList]
    exact .inr ⟨ready.1, rfl⟩

theorem innerParts_join (relative : tail.isAbsolute = false) :
    innerParts (path.join tail).text.toList =
      innerParts path.text.toList ++ innerParts tail.text.toList := by
  rcases @toList_join path _ relative with
    ⟨joined, empty | ⟨before, ends⟩⟩ | ⟨_, joined⟩
  · rw [joined, empty]
    rfl
  · rw [joined, ends, List.append_assoc, List.singleton_append, innerParts_append,
      innerParts_append, innerParts_nil, List.append_nil]
  · rw [joined, innerParts_append]

theorem isAbsolute_join_of_relative (relative : tail.isAbsolute = false) :
    (path.join tail).isAbsolute = path.isAbsolute := by
  by_cases empty : path.text.toList = []
  · rcases @toList_join path _ relative with ⟨joined, _⟩ | ⟨notEmpty, _⟩
    · rw [isAbsolute, joined, empty, List.nil_append]
      exact relative.trans (by rw [isAbsolute, empty]; rfl)
    · contradiction
  · rcases @toList_join path _ relative with ⟨joined, _⟩ | ⟨_, joined⟩
    all_goals rw [isAbsolute, isAbsolute, joined, List.head?_append_of_ne_nil _ empty]

end

/-- The parts of a relative path come behind those of an absolute one. -/
theorem parts_join_absolute {base tail : Path} (absolute : base.isAbsolute = true)
    (relative : tail.isAbsolute = false) :
    (base.join tail).parts = base.parts ++ innerParts tail.text.toList := by
  have isAbsolute := (isAbsolute_join_of_relative relative).trans absolute
  rw [parts_eq_root_cons isAbsolute, innerParts_join relative,
    parts_eq_root_cons absolute, List.cons_append]

/-! ## Silent texts at the end -/

theorem dropSilent_cons (first : List Char) (later : List (List Char)) :
    dropSilent (first :: later) =
      first :: later.rdropWhile fun segment => (Part.ofSegment? segment).isNone := rfl

theorem dropSilent_singleton (only : List Char) : dropSilent [only] = [only] := rfl

theorem dropSilent_concat {before : List (List Char)} {last : List Char}
    (more : before ≠ []) (loud : (Part.ofSegment? last).isSome = true) :
    dropSilent (before ++ [last]) = before ++ [last] := by
  cases before with
  | nil => contradiction
  | cons first before =>
      rw [List.cons_append, dropSilent_cons, List.rdropWhile_concat_neg]
      simp [Option.isSome_iff_ne_none.mp loud]

theorem dropSilent_idem (segments : List (List Char)) :
    dropSilent (dropSilent segments) = dropSilent segments := by
  cases segments with
  | nil => rfl
  | cons first later =>
      rw [dropSilent_cons, dropSilent_cons, List.rdropWhile_idempotent]

theorem dropSilent_isPrefix (segments : List (List Char)) :
    dropSilent segments <+: segments := by
  cases segments with
  | nil => exact List.prefix_refl []
  | cons first later =>
      rw [dropSilent_cons, List.cons_prefix_cons]
      exact ⟨rfl, List.rdropWhile_prefix _ _⟩

/-- The last of the texts that remain denotes something, or is the first one. -/
theorem loud_of_dropSilent_eq {before : List (List Char)} {last : List Char}
    (more : before ≠ []) (kept : dropSilent (before ++ [last]) = before ++ [last]) :
    (Part.ofSegment? last).isSome = true := by
  cases before with
  | nil => contradiction
  | cons first before =>
      rw [List.cons_append, dropSilent_cons, List.cons_inj_right,
        List.rdropWhile_eq_self_iff] at kept
      simpa [Option.isSome_iff_ne_none] using kept (by simp)

theorem ne_nil_of_isSome_ofSegment? {segment : List Char}
    (loud : (Part.ofSegment? segment).isSome = true) : segment ≠ [] := by
  rintro rfl
  simp [Part.ofSegment?] at loud

/-! ## Parents of absolute paths -/

/-- Silent texts at the end denote nothing, so the parts are those of the
texts that are left. -/
theorem filterMap_rdropWhile (segments : List (List Char)) :
    (segments.rdropWhile fun segment => (Part.ofSegment? segment).isNone).filterMap
      Part.ofSegment? = segments.filterMap Part.ofSegment? := by
  induction segments using List.reverseRecOn with
  | nil => rfl
  | append_singleton before last induction =>
      simp only [List.rdropWhile_concat]
      split
      · next silent =>
        rw [induction, List.filterMap_append, List.filterMap_cons,
          Option.isNone_iff_eq_none.mp silent, List.filterMap_nil, List.append_nil]
      · rfl

/-- What is left of the texts of an absolute path without silent texts at the end. -/
theorem exists_dropSilent {path : Path} (absolute : path.isAbsolute = true) :
    ∃ later, Plain later ∧ dropSilent path.segments = [] :: later ∧
      path.parts = .root :: later.filterMap Part.ofSegment? := by
  obtain ⟨rest, begins⟩ := isAbsolute_iff.mp absolute
  refine ⟨(splitOnChar '/' rest).rdropWhile fun segment =>
    (Part.ofSegment? segment).isNone,
      ?_, ?_, ?_⟩
  · intro segment member
    exact notMem_of_mem_splitOnChar ((List.rdropWhile_prefix _ _).subset member)
  · rw [Path.segments, begins, splitOnChar_cons_self, dropSilent_cons]
  · rw [parts_of_absolute begins, filterMap_rdropWhile]
    rfl

/-- A text whose texts between slashes begin with an empty one is that of
an absolute path. -/
theorem begins_ofSegments (later : List (List Char)) :
    (ofSegments true ([] :: later)).text.toList = '/' :: joinSlash later := by
  by_cases alone : later = []
  · subst alone
    rfl
  · have several : (true && ([] :: later).length == 1) = false := by simpa using alone
    rw [ofSegments, several, joinSlash_cons alone]
    exact String.toList_ofList

theorem isAbsolute_ofSegments (later : List (List Char)) :
    (ofSegments true ([] :: later)).isAbsolute = true :=
  isAbsolute_iff.mpr ⟨_, begins_ofSegments later⟩

theorem parts_ofSegments {later : List (List Char)} (plain : Plain later) :
    (ofSegments true ([] :: later)).parts =
      .root :: later.filterMap Part.ofSegment? := by
  rw [parts_of_absolute (begins_ofSegments later), innerParts_joinSlash plain]

/-- The root has no parent; that of another absolute path is absolute and
lacks the last part. -/
theorem parent?_of_absolute {path : Path} (absolute : path.isAbsolute = true) :
    path.parts = [.root] ∧ path.parent? = none ∨
      path.parts ≠ [.root] ∧ ∃ parent, path.parent? = some parent ∧
        parent.isAbsolute = true ∧ parent.parts = path.parts.dropLast := by
  obtain ⟨later, plain, segments, parts⟩ := exists_dropSilent absolute
  rcases List.eq_nil_or_concat' later with rfl | ⟨before, last, rfl⟩
  · exact Or.inl ⟨parts, by rw [parent?, segments]; rfl⟩
  · have loud : (Part.ofSegment? last).isSome = true := by
      have kept := dropSilent_idem path.segments
      rw [segments] at kept
      exact @loud_of_dropSilent_eq ([] :: before) last (by simp) kept
    obtain ⟨part, isLast⟩ := Option.isSome_iff_exists.mp loud
    rw [List.filterMap_append, List.filterMap_cons, isLast] at parts
    have beforePlain : Plain (before.rdropWhile fun segment =>
        (Part.ofSegment? segment).isNone) := fun segment member =>
      plain segment (List.mem_append_left _
        ((List.rdropWhile_prefix _ _).subset member))
    have front : ([] :: (before ++ [last])).dropLast = [] :: before := by
      rw [← List.cons_append, List.dropLast_concat]
    have parent :
        path.parent? = some (ofSegments true (dropSilent ([] :: before))) := by
      obtain ⟨next, others, several⟩ := List.exists_cons_of_ne_nil
        (List.append_ne_nil_of_right_ne_nil before (List.cons_ne_nil last []))
      rw [several] at front
      rw [parent?, segments, several, absolute]
      simp only [front]
    refine Or.inr ⟨by simp [parts], _, parent, isAbsolute_ofSegments _, ?_⟩
    rw [dropSilent_cons, parts_ofSegments beforePlain, filterMap_rdropWhile, parts,
      ← List.cons_append]
    exact List.dropLast_concat.symm

/-! ## Folders -/

/-- A path with more than one text between slashes is absolute if the
first one is empty. -/
theorem isAbsolute_iff_of_segments {path : Path} {first next : List Char}
    {later : List (List Char)} (segments : path.segments = first :: next :: later) :
    path.isAbsolute = true ↔ first = [] := by
  have text : path.text.toList = first ++ '/' :: joinSlash (next :: later) := by
    rw [← joinSlash_cons (by simp), ← segments]
    exact (joinSlash_splitOnChar path.text.toList).symm
  have plain : '/' ∉ first := path.segments_plain first (by simp [segments])
  rw [isAbsolute_iff, text]
  constructor
  · rintro ⟨rest, begins⟩
    cases first with
    | nil => rfl
    | cons c first =>
        obtain ⟨rfl, _⟩ := List.cons.inj begins
        exact absurd List.mem_cons_self plain
  · rintro rfl
    exact ⟨_, rfl⟩

/-- The texts between the slashes of a folder: only the first may be silent, and
it is empty in absolute folders only. -/
structure Tidy (absolute : Bool) (segments : List (List Char)) : Prop where
  plain : Plain segments
  kept : dropSilent segments = segments
  more : segments ≠ []
  leading : absolute = true ↔ segments.head? = some []

/-- The folder of a path is empty or has tidy texts between its slashes. -/
theorem folder_tidy (path : Path) :
    path.folder = ⟨""⟩ ∨ ∃ segments, Tidy path.isAbsolute segments ∧
      path.folder = ofSegments path.isAbsolute segments := by
  unfold folder parent?
  split
  · exact Or.inl rfl
  · split <;> exact Or.inl rfl
  · next several notEmpty notSingle =>
    right
    refine ⟨dropSilent (dropSilent path.segments).dropLast, ?_, rfl⟩
    have whole := dropSilent_isPrefix path.segments
    have shorter := (dropSilent_isPrefix (dropSilent path.segments).dropLast).trans
      (List.dropLast_prefix _)
    -- At least two texts are left, the first of which stays.
    obtain ⟨first, next, later, shape⟩ :
        ∃ first next later, dropSilent path.segments = first :: next :: later := by
      rcases shape : dropSilent path.segments with _ | ⟨first, _ | ⟨next, later⟩⟩
      · exact absurd shape notEmpty
      · exact absurd shape (notSingle first)
      · exact ⟨first, next, later, rfl⟩
    refine ⟨?_, dropSilent_idem _, ?_, ?_⟩
    · intro segment member
      exact path.segments_plain segment (whole.subset (shorter.subset member))
    · rw [shape, List.dropLast_cons_cons, dropSilent_cons]
      simp
    · obtain ⟨rest, segments⟩ := whole
      rw [shape] at segments
      rw [shape, List.dropLast_cons_cons, dropSilent_cons, List.head?_cons,
        Option.some_inj]
      exact isAbsolute_iff_of_segments segments.symm

/-- The folder of an absolute path other than the root is absolute. -/
theorem folder_absolute {path : Path} (absolute : path.isAbsolute = true)
    (below : path.parts ≠ [.root]) : path.folder.isAbsolute = true := by
  rcases parent?_of_absolute absolute with
    ⟨isRoot, _⟩ | ⟨_, parent, above, parentAbsolute, _⟩
  · exact absurd isRoot below
  · rw [folder, above]
    exact parentAbsolute

/-- The last of tidy texts is not empty, unless they are those of the root. -/
theorem Tidy.last_ne_nil {absolute : Bool} {before : List (List Char)}
    {last : List Char} (tidy : Tidy absolute (before ++ [last]))
    (notRoot : (absolute && (before ++ [last]).length == 1) = false) : last ≠ [] := by
  cases before with
  | nil =>
      intro empty
      have absolute : absolute = true := tidy.leading.mpr (by simp [empty])
      simp [absolute] at notRoot
  | cons first before =>
      exact ne_nil_of_isSome_ofSegment? (loud_of_dropSilent_eq (by simp) tidy.kept)

theorem getLast?_joinSlash (before : List (List Char)) {last : List Char}
    (more : last ≠ []) : (joinSlash (before ++ [last])).getLast? = last.getLast? := by
  by_cases alone : before = []
  · subst alone
    rfl
  · rw [joinSlash_append alone (by simp), List.getLast?_append_of_ne_nil _ (by simp)]
    exact List.getLast?_cons_of_ne_nil more

/-- A name in a tidy folder follows its texts. -/
theorem join_ofSegments {absolute : Bool} {segments : List (List Char)} {name : String}
    (tidy : Tidy absolute segments) (plain : '/' ∉ name.toList) :
    (ofSegments absolute segments).join ⟨name⟩ =
      ⟨String.ofList (joinSlash (segments ++ [name.toList]))⟩ := by
  have relative : (⟨name⟩ : Path).isAbsolute = false := isAbsolute_of_plain plain
  have joined : joinSlash (segments ++ [name.toList]) =
      joinSlash segments ++ '/' :: name.toList := joinSlash_append tidy.more (by simp)
  rw [joined]
  by_cases isRoot : (absolute && segments.length == 1) = true
  · obtain ⟨isAbsolute, single⟩ := Bool.and_eq_true_iff.mp isRoot
    obtain ⟨only, rfl⟩ := List.length_eq_one_iff.mp (by simpa using single)
    obtain rfl : only = [] := by simpa using tidy.leading.mp isAbsolute
    rw [ofSegments, if_pos isRoot]
    exact @join_eq_append ['/'] _ relative (Or.inr rfl)
  · rw [Bool.not_eq_true] at isRoot
    obtain ⟨before, last, rfl⟩ :=
      List.eq_nil_or_concat' segments |>.resolve_left tidy.more
    have lastMore := tidy.last_ne_nil isRoot
    have lastPlain : '/' ∉ last := tidy.plain last (by simp)
    have noSlash : (joinSlash (before ++ [last])).getLast? ≠ some '/' := by
      rw [getLast?_joinSlash before lastMore]
      intro ends
      exact lastPlain (List.mem_of_getLast? ends)
    have notEmpty : joinSlash (before ++ [last]) ≠ [] := by
      intro empty
      have final := getLast?_joinSlash before lastMore
      rw [empty, List.getLast?_nil, eq_comm, List.getLast?_eq_none_iff] at final
      exact lastMore final
    rw [ofSegments, isRoot]
    exact join_eq_append_slash relative notEmpty noSlash

/-- The folder of a path whose texts end with a name is what stands before the name. -/
theorem folder_of_segments {path : Path} {absolute : Bool}
    {segments : List (List Char)} {name : List Char} (tidy : Tidy absolute segments)
    (shape : path.segments = segments ++ [name])
    (loud : (Part.ofSegment? name).isSome = true) :
    path.folder = ofSegments absolute segments := by
  have kept : dropSilent path.segments = segments ++ [name] := by
    rw [shape]
    exact dropSilent_concat tidy.more loud
  obtain ⟨first, next, later, several⟩ :
      ∃ first next later, segments ++ [name] = first :: next :: later := by
    obtain ⟨first, before, rfl⟩ := List.exists_cons_of_ne_nil tidy.more
    obtain ⟨next, later, rest⟩ := List.exists_cons_of_ne_nil
      (List.append_ne_nil_of_right_ne_nil before (List.cons_ne_nil name []))
    exact ⟨first, next, later, by rw [List.cons_append, rest]⟩
  have isAbsolute : path.isAbsolute = absolute := by
    have head : segments.head? = some first := by
      rw [← List.head?_append_of_ne_nil _ tidy.more, several]
      rfl
    rw [Bool.eq_iff_iff, isAbsolute_iff_of_segments (shape.trans several),
      tidy.leading, head, Option.some_inj]
  have above :
      path.parent? = some (ofSegments path.isAbsolute (dropSilent segments)) := by
    have front : (first :: next :: later).dropLast = segments := by
      rw [← several, List.dropLast_concat]
    rw [parent?, kept, several]
    simp only [front]
  rw [folder, above, Option.getD_some, isAbsolute, tidy.kept]

end Path

end VuePrecompiler.Files
