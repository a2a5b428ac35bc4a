import Mathlib.Logic.Relation
import VuePrecompiler.Files.Normal
import VuePrecompiler.Proofs.PathParts

/-!
# Normal forms of paths

The parts of a path settle to names behind the root, or behind some steps up.
They do so by cancelling one part, or two that belong together, at a time.
Parent parts take names away again, so a way up and down leads from one normal
form to another.
-/

namespace VuePrecompiler.Files

open Text

/-- A text that denotes itself when it stands between slashes. -/
structure IsName (name : String) : Prop where
  denotes : Part.ofSegment? name.toList = some (.named name)
  plain : '/' ∉ name.toList

instance (name : String) : Decidable (IsName name) :=
  decidable_of_iff (Part.ofSegment? name.toList = some (.named name) ∧
    '/' ∉ name.toList)
    ⟨fun both => ⟨both.1, both.2⟩, fun isName => ⟨isName.denotes, isName.plain⟩⟩

/-- Some names, as parts. -/
def namedParts (names : List String) : List Part :=
  names.map Part.named

theorem namedParts_append (left right : List String) :
    namedParts (left ++ right) = namedParts left ++ namedParts right :=
  List.map_append

theorem named_injective : Function.Injective Part.named :=
  fun _ _ same => Part.named.inj same

theorem namedParts_injective : Function.Injective namedParts :=
  List.map_injective_iff.mpr named_injective

theorem namedParts_prefix_iff {left right : List String} :
    namedParts left <+: namedParts right ↔ left <+: right :=
  List.prefix_map_iff_of_injective named_injective

theorem map_text_namedParts (names : List String) :
    (namedParts names).map Part.text = names.map String.toList := by
  rw [namedParts, List.map_map]
  rfl

section

variable {names : List String} (areNames : ∀ name ∈ names, IsName name)
include areNames

theorem plain_names : Plain (names.map String.toList) := by
  intro segment member
  obtain ⟨name, isMember, rfl⟩ := List.mem_map.mp member
  exact (areNames name isMember).plain

/-- Names denote themselves. -/
theorem filterMap_names :
    (names.map String.toList).filterMap Part.ofSegment? = namedParts names := by
  rw [List.filterMap_map, namedParts, ← List.filterMap_eq_map]
  exact List.filterMap_congr fun name member => (areNames name member).denotes

theorem innerParts_names :
    innerParts (Path.joinSlash (names.map String.toList)) = namedParts names := by
  rw [innerParts_joinSlash (plain_names areNames), filterMap_names areNames]

end

/-- A part that can stand behind the root. -/
def IsInner (part : Part) : Prop :=
  part = .parent ∨ ∃ name, IsName name ∧ part = .named name

theorem isInner_of_segment {segment : List Char} {part : Part} (plain : '/' ∉ segment)
    (denotes : Part.ofSegment? segment = some part) : IsInner part := by
  unfold Part.ofSegment? at denotes
  split at denotes
  · contradiction
  · contradiction
  · exact Or.inl (Option.some.inj denotes).symm
  · next notEmpty notCurrent notParent =>
    obtain rfl := Option.some.inj denotes
    refine Or.inr ⟨String.ofList segment, ⟨?_, ?_⟩, rfl⟩
    · rw [String.toList_ofList]
      unfold Part.ofSegment?
      split
      · contradiction
      · contradiction
      · contradiction
      · rfl
    · rw [String.toList_ofList]
      exact plain

theorem isInner_of_mem {text : List Char} {part : Part}
    (member : part ∈ innerParts text) : IsInner part := by
  obtain ⟨segment, isSegment, denotes⟩ := List.mem_filterMap.mp member
  exact isInner_of_segment (notMem_of_mem_splitOnChar isSegment) denotes

theorem root_notMem_innerParts {text : List Char} : .root ∉ innerParts text := by
  intro member
  rcases isInner_of_mem member with same | ⟨name, _, same⟩ <;> contradiction

/-- A part of a path is the root of an absolute one, a dot, or one that
stands behind others. -/
theorem of_mem_parts {path : Path} {part : Part} (member : part ∈ path.parts) :
    part = .root ∧ path.isAbsolute = true ∨ part = .current ∨ IsInner part := by
  have inner {first : List Char} {later : List (List Char)}
      (segments : path.segments = first :: later) {segment : List Char}
      (isSegment : segment ∈ first :: later)
      (denotes : Part.ofSegment? segment = some part) :
      IsInner part :=
    isInner_of_segment (path.segments_plain segment (segments ▸ isSegment)) denotes
  unfold Path.parts at member
  split at member
  · contradiction
  · next first later segments =>
    have inLater (among : part ∈ later.filterMap Part.ofSegment?) : IsInner part := by
      obtain ⟨segment, isSegment, denotes⟩ := List.mem_filterMap.mp among
      exact inner segments (List.mem_cons_of_mem _ isSegment) denotes
    split at member
    · next absolute =>
      exact (List.mem_cons.mp member).imp (⟨·, absolute⟩) fun among =>
        .inr (inLater among)
    · split at member
      · exact .inr ((List.mem_cons.mp member).imp_right inLater)
      · refine .inr (.inr ((List.mem_append.mp member).elim
          (fun isFirst => ?_) inLater))
        exact inner segments List.mem_cons_self (Option.mem_toList.mp isFirst)

/-- The root is a part of absolute paths only. -/
theorem Path.isAbsolute_of_root_mem {path : Path} (member : .root ∈ path.parts) :
    path.isAbsolute = true := by
  rcases of_mem_parts member with ⟨_, absolute⟩ | same | same | ⟨name, _, same⟩
  · exact absolute
  all_goals contradiction

theorem isName_of_mem_parts {path : Path} {name : String}
    (member : .named name ∈ path.parts) : IsName name := by
  rcases of_mem_parts member with ⟨same, _⟩ | same | same | ⟨other, isName, same⟩
  · contradiction
  · contradiction
  · contradiction
  · obtain rfl := Part.named.inj same
    exact isName

/-- The parts between slashes are names, unless one of them leads up. -/
theorem exists_namedParts {text : List Char} (noParent : .parent ∉ innerParts text) :
    ∃ names : List String, (∀ name ∈ names, IsName name) ∧
      innerParts text = namedParts names := by
  have inner : ∀ part ∈ innerParts text, ∃ name, IsName name ∧ part = .named name := by
    intro part member
    rcases isInner_of_mem member with rfl | named
    · exact absurd member noParent
    · exact named
  generalize innerParts text = parts at inner
  clear noParent
  induction parts with
  | nil => exact ⟨[], by simp, rfl⟩
  | cons part parts induction =>
      obtain ⟨name, isName, rfl⟩ := inner part List.mem_cons_self
      obtain ⟨names, areNames, rfl⟩ :=
        induction fun part member => inner part (List.mem_cons_of_mem _ member)
      exact ⟨name :: names, List.forall_mem_cons.mpr ⟨isName, areNames⟩, rfl⟩

/-! ## Settling -/

@[simp] theorem settle_named (settled : List Part) (name : String) :
    settle settled (.named name) = .named name :: settled := rfl

@[simp] theorem settle_parent_of_named (before : List Part) (name : String) :
    settle (.named name :: before) .parent = before := rfl

theorem foldl_settle_named (names : List String) (settled : List Part) :
    (namedParts names).foldl settle settled =
      (namedParts names).reverse ++ settled := by
  induction names generalizing settled with
  | nil => rfl
  | cons name rest induction =>
      rw [namedParts, List.map_cons, List.foldl_cons, settle_named, ← namedParts,
        induction, List.reverse_cons, List.append_assoc, List.singleton_append]

/-- As many parents as there are names take all of them away. -/
theorem foldl_settle_parents (names : List String) (settled : List Part) :
    (List.replicate names.length Part.parent).foldl settle
      (namedParts names ++ settled) =
      settled := by
  induction names with
  | nil => rfl
  | cons name rest induction =>
      rw [List.length_cons, List.replicate_succ, List.foldl_cons, namedParts,
        List.map_cons, List.cons_append, settle_parent_of_named,
        ← namedParts, induction]

/-- What can be cancelled in the parts of a path without looking at a disk: a dot,
a name with the step up behind it, and a step up from the root. -/
inductive Cancels : List Part → List Part → Prop where
  | current (before after : List Part) :
      Cancels (before ++ .current :: after) (before ++ after)
  | name (before after : List Part) (name : String) :
      Cancels (before ++ .named name :: .parent :: after) (before ++ after)
  | aboveRoot (after : List Part) :
      Cancels (.root :: .parent :: after) (.root :: after)

/-- What a normal form begins with: the root, or some steps up. -/
inductive Stem where
  | root
  | up (count : Nat)
deriving DecidableEq

namespace Stem

def parts : Stem → List Part
  | root => [.root]
  | up count => List.replicate count .parent

def isRoot : Stem → Bool
  | root => true
  | up _ => false

/-- The stem behind one more step up. -/
def above : Stem → Stem
  | root => root
  | up count => up (count + 1)

@[simp] theorem isRoot_above (stem : Stem) : stem.above.isRoot = stem.isRoot := by
  cases stem <;> rfl

theorem reverse_parts (stem : Stem) : stem.parts.reverse = stem.parts := by
  cases stem with
  | root => rfl
  | up count => exact List.reverse_replicate

theorem settle_parent (stem : Stem) :
    settle stem.parts .parent = stem.above.parts := by
  cases stem with
  | root => rfl
  | up count => cases count <;> simp [parts, above, settle, List.replicate_succ]

theorem parts_parent_cancels (stem : Stem) (after : List Part) :
    Relation.ReflTransGen Cancels (stem.parts ++ .parent :: after)
      (stem.above.parts ++ after) := by
  cases stem with
  | root => exact .single (.aboveRoot after)
  | up count =>
      rw [parts, above, parts, List.replicate_succ', List.append_assoc,
        List.singleton_append]

end Stem

/-- Names behind a stem remain names behind a stem of the same kind,
whatever parts follow, and all that happens to the parts on the way is that
some of them cancel. -/
theorem foldl_settle_stem {parts : List Part} (noRoot : .root ∉ parts)
    (names : List String) (stem : Stem) :
    ∃ (left : List String) (result : Stem), result.isRoot = stem.isRoot ∧
      parts.foldl settle (namedParts names ++ stem.parts) = namedParts left ++
        result.parts ∧
      Relation.ReflTransGen Cancels ((namedParts names ++ stem.parts).reverse ++ parts)
        (namedParts left ++ result.parts).reverse := by
  induction parts generalizing names stem with
  | nil => exact ⟨names, stem, rfl, rfl, by rw [List.append_nil]⟩
  | cons part rest induction =>
      have notInRest : .root ∉ rest := List.not_mem_of_not_mem_cons noRoot
      rw [List.foldl_cons]
      cases part with
      | root => exact absurd List.mem_cons_self noRoot
      | current =>
          obtain ⟨left, result, sameKind, settled, cancels⟩ :=
            induction notInRest names stem
          exact ⟨left, result, sameKind, settled, cancels.head (.current _ rest)⟩
      | named name =>
          obtain ⟨left, result, sameKind, settled, cancels⟩ :=
            induction notInRest (name :: names) stem
          refine ⟨left, result, sameKind, settled, ?_⟩
          rw [namedParts, List.map_cons, List.cons_append, List.reverse_cons,
            List.append_assoc, List.singleton_append] at cancels
          exact cancels
      | parent =>
          cases names with
          | nil =>
              -- Only the stem is left, so the step up belongs to it.
              obtain ⟨left, result, sameKind, settled, cancels⟩ :=
                induction notInRest [] stem.above
              refine ⟨left, result, sameKind.trans stem.isRoot_above, ?_, ?_⟩
              · rw [← settled, ← stem.settle_parent]
                rfl
              · have start := stem.parts_parent_cancels rest
                rw [← stem.reverse_parts, ← stem.above.reverse_parts] at start
                exact start.trans cancels
          | cons name before =>
              obtain ⟨left, result, sameKind, settled, cancels⟩ :=
                induction notInRest before stem
              refine ⟨left, result, sameKind, settled, .head ?_ cancels⟩
              rw [namedParts, List.map_cons, List.cons_append, List.reverse_cons,
                List.append_assoc, List.singleton_append]
              exact .name _ rest name

theorem reverse_namedParts (names : List String) :
    (namedParts names).reverse = namedParts names.reverse :=
  List.map_reverse.symm

/-- What is left of some parts was among them. -/
theorem mem_of_mem_normalParts {parts : List Part} {part : Part}
    (member : part ∈ normalParts parts) : part ∈ parts := by
  have kept : ∀ settled, part ∈ parts.foldl settle settled → part ∈ settled ∨
      part ∈ parts := by
    clear member
    induction parts with
    | nil => exact fun settled => .inl
    | cons first rest induction =>
        intro settled member
        rw [List.mem_cons, ← or_assoc]
        refine (induction _ member).imp_left fun isLeft => ?_
        unfold settle at isLeft
        split at isLeft
        · exact .inl isLeft
        · split at isLeft
          · exact .inl (List.mem_cons_of_mem _ isLeft)
          · split at isLeft
            · exact .inl isLeft
            · exact (List.mem_cons.mp isLeft).symm
        · exact (List.mem_cons.mp isLeft).symm
  exact (kept [] (List.mem_reverse.mp member)).resolve_left List.not_mem_nil

/-- The parts of a path settle to names behind a stem, which is the root
for absolute paths. -/
theorem exists_normalParts (path : Path) :
    ∃ (stem : Stem) (names : List String), stem.isRoot = path.isAbsolute ∧
      (∀ name ∈ names, IsName name) ∧
      normalParts path.parts = stem.parts ++ namedParts names ∧
      Relation.ReflTransGen Cancels path.parts (normalParts path.parts) := by
  obtain ⟨left, stem, kind, settled, cancels⟩ :
      ∃ (left : List String) (stem : Stem), stem.isRoot = path.isAbsolute ∧
        path.parts.foldl settle [] = namedParts left ++ stem.parts ∧
        Relation.ReflTransGen Cancels path.parts
          (namedParts left ++ stem.parts).reverse := by
    by_cases absolute : path.isAbsolute = true
    · rw [absolute, Path.parts_eq_root_cons absolute]
      exact foldl_settle_stem root_notMem_innerParts [] .root
    · have noRoot : .root ∉ path.parts :=
        fun member => absolute (Path.isAbsolute_of_root_mem member)
      rw [Bool.not_eq_true] at absolute
      rw [absolute]
      exact foldl_settle_stem noRoot [] (.up 0)
  have shape : normalParts path.parts = stem.parts ++ namedParts left.reverse := by
    rw [normalParts, settled, List.reverse_append, stem.reverse_parts,
      reverse_namedParts]
  refine ⟨stem, left.reverse, kind, ?_, shape, ?_⟩
  · intro name member
    have inNormal : .named name ∈ normalParts path.parts := by
      rw [shape]
      exact List.mem_append_right _ (List.mem_map_of_mem member)
    exact isName_of_mem_parts (mem_of_mem_normalParts inNormal)
  · rw [normalParts, settled]
    exact cancels

/-- The normal form of an absolute path: names below the root. -/
theorem normalParts_absolute {path : Path} (absolute : path.isAbsolute = true) :
    ∃ names : List String, (∀ name ∈ names, IsName name) ∧
      normalParts path.parts = .root :: namedParts names := by
  obtain ⟨stem, names, kind, areNames, shape, _⟩ := exists_normalParts path
  cases stem with
  | root => exact ⟨names, areNames, shape⟩
  | up count =>
      rw [absolute] at kind
      contradiction

/-- Parts that follow a path are settled onto its normal form. -/
theorem normalParts_append (parts later : List Part) :
    normalParts (parts ++ later) =
      (later.foldl settle (normalParts parts).reverse).reverse := by
  rw [normalParts, List.foldl_append, normalParts, List.reverse_reverse]

/-- A dot in front of a relative path settles to nothing. -/
theorem normalParts_relative {path : Path} (relative : path.isAbsolute = false) :
    normalParts path.parts = normalParts (innerParts path.text.toList) := by
  obtain ⟨first, later, segments⟩ := List.exists_cons_of_ne_nil
    (splitOnChar_ne_nil '/' path.text.toList)
  have inner : innerParts path.text.toList =
      (Part.ofSegment? first).toList ++ later.filterMap Part.ofSegment? := by
    rw [innerParts, segments, List.filterMap_cons]
    cases Part.ofSegment? first <;> rfl
  have parts :
      path.parts = if first = ['.'] then .current :: later.filterMap Part.ofSegment?
        else (Part.ofSegment? first).toList ++ later.filterMap Part.ofSegment? := by
    simp [Path.parts, Path.segments, segments, relative]
  rw [parts, inner]
  split
  · next dot =>
    subst dot
    rfl
  · rfl

theorem normalParts_append_named (parts : List Part) (names : List String) :
    normalParts (parts ++ namedParts names) = normalParts parts ++
      namedParts names := by
  rw [normalParts_append, foldl_settle_named, List.reverse_append,
    List.reverse_reverse, List.reverse_reverse]

end VuePrecompiler.Files
