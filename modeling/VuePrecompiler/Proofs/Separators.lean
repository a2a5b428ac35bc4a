import VuePrecompiler.Proofs.CursorMoves
import VuePrecompiler.Proofs.LexemePlaces
import VuePrecompiler.Proofs.Slices

/-!
# Separators

A text is cut at the first occurrence of a separator, and not at all if there
is none.
-/

namespace VuePrecompiler.Text

/-! ## Occurrences -/

/-- A text without a certain character stands in front of that
character or behind it. -/
theorem in_front_or_behind {separator : List Char} {c : Char} (plain : c ∉ separator)
    {left right before after : List Char}
    (same : left ++ c :: right = before ++ (separator ++ after)) :
    (∃ rest, before = left ++ c :: rest) ∨ separator <:+: left := by
  rcases List.append_eq_append_iff.mp same with ⟨rest, rfl, tail⟩ | ⟨rest, rfl, tail⟩
  · cases rest with
    | nil =>
        cases separator with
        | nil => exact .inr List.nil_infix
        | cons p separator =>
            obtain ⟨rfl, _⟩ := List.cons.inj tail
            exact absurd List.mem_cons_self plain
    | cons p rest =>
        obtain ⟨rfl, _⟩ := List.cons.inj tail
        exact .inl ⟨rest, rfl⟩
  · rcases List.append_eq_append_iff.mp tail with
      ⟨overlap, rfl, _⟩ | ⟨overlap, rfl, ends⟩
    · exact .inr (List.infix_append' _ _ _)
    · cases overlap with
      | nil =>
          rw [List.append_nil]
          exact .inr List.infix_append_right
      | cons p overlap =>
          obtain ⟨rfl, _⟩ := List.cons.inj ends
          exact absurd (List.mem_append_right rest List.mem_cons_self) plain

/-- What a character does not belong to stands on one side of it. -/
theorem infix_append_cons {separator : List Char} {c : Char} (plain : c ∉ separator)
    (left right : List Char) :
    separator <:+: left ++ c :: right ↔
      separator <:+: left ∨ separator <:+: right := by
  constructor
  · rintro ⟨before, after, shape⟩
    rw [List.append_assoc] at shape
    rcases in_front_or_behind plain shape.symm with ⟨rest, rfl⟩ | inLeft
    · refine .inr ⟨rest, after, ?_⟩
      rw [List.append_assoc, List.append_cancel_left_eq, List.cons_append] at shape
      rw [List.append_assoc, (List.cons.inj shape).2]
    · exact .inl inLeft
  · rintro (inLeft | inRight)
    · exact List.infix_append_of_infix_left inLeft
    · exact List.infix_append_of_infix_right (List.infix_cons inRight)

section

variable {separator : List Char}

theorem splitOnce?_cons_of_other {c : Char} {text : List Char}
    (other : ¬ separator <+: c :: text) :
    splitOnce? separator (c :: text) =
      (splitOnce? separator text).map fun (before, after) => (c :: before, after) := by
  have notHere : separator.isPrefixOf (c :: text) = false := by
    rw [Bool.eq_false_iff, ne_eq, List.isPrefixOf_iff_prefix]
    exact other
  rw [splitOnce?, splitOnce?, breakOn, notHere, if_neg Bool.false_ne_true,
    Option.map_map]
  rfl

/-- A text is cut where a separator is for the first time. -/
theorem splitOnce?_append {before : List Char} (more : separator ≠ [])
    (first : ¬ separator <:+: before ++ separator.dropLast) (after : List Char) :
    splitOnce? separator (before ++ (separator ++ after)) = some (before, after) := by
  have cut : breakOn separator (before ++ (separator ++ after)) =
      (before, separator ++ after) := by
    refine breakOn_of_first ?_ more
    rintro left right rfl nonempty begins
    refine first ?_
    have length : separator.length ≤ (right ++ separator.dropLast).length := by
      have := List.length_pos_iff.mpr nonempty
      rw [List.length_append, List.length_dropLast]
      omega
    have shape : right ++ (separator ++ after) =
        (right ++ separator.dropLast) ++ (separator.getLast more :: after) := by
      rw [List.append_assoc, ← List.singleton_append (l := after),
        ← List.append_assoc _ [_], List.dropLast_concat_getLast]
    rw [shape] at begins
    have within :=
      List.prefix_of_prefix_length_le begins (List.prefix_append _ _) length
    rw [List.append_assoc]
    exact List.infix_append_of_infix_right within.isInfix
  rw [splitOnce?, cut]
  dsimp only
  rw [afterPrefix?_append, Option.map_some]

theorem of_splitOnce?_eq_some {text before after : List Char}
    (found : splitOnce? separator text = some (before, after)) :
    text = before ++ (separator ++ after) := by
  obtain ⟨rest, behind, same⟩ := Option.map_eq_some_iff.mp found
  obtain ⟨rfl, rfl⟩ := Prod.mk.inj same
  rw [← of_afterPrefix?_eq_some behind, breakOn_append]

theorem splitOnce?_eq_none_iff (more : separator ≠ []) {text : List Char} :
    splitOnce? separator text = none ↔ ¬ separator <:+: text := by
  induction text with
  | nil =>
      have absent : splitOnce? separator [] = none := by
        cases separator with
        | nil => contradiction
        | cons p separator => rfl
      exact iff_of_true absent fun occurs => more (List.infix_nil.mp occurs)
  | cons c text induction =>
      rw [List.infix_cons_iff, not_or]
      by_cases begins : separator <+: c :: text
      · obtain ⟨after, shape⟩ := begins
        have cut := @splitOnce?_append separator [] more ?_ after
        · rw [List.nil_append, shape] at cut
          rw [cut]
          exact iff_of_false nofun fun absent => absent.1 ⟨after, shape⟩
        · intro occurs
          have := occurs.length_le
          have := List.length_pos_iff.mpr more
          rw [List.nil_append, List.length_dropLast] at *
          omega
      · rw [splitOnce?_cons_of_other begins, Option.map_eq_none_iff, induction]
        exact (and_iff_right begins).symm

/-- No separator is in front of the cut. -/
theorem not_infix_of_splitOnce? (more : separator ≠ []) {text before after : List Char}
    (found : splitOnce? separator text = some (before, after)) :
    ¬ separator <:+: before := by
  obtain ⟨rest, behind, same⟩ := Option.map_eq_some_iff.mp found
  obtain ⟨rfl, rfl⟩ := Prod.mk.inj same
  clear found same behind
  induction text with
  | nil => exact fun occurs => more (List.infix_nil.mp occurs)
  | cons c text induction =>
      rw [breakOn]
      split
      · exact fun occurs => more (List.infix_nil.mp occurs)
      · next other =>
        rw [List.isPrefixOf_iff_prefix] at other
        rw [List.infix_cons_iff, not_or]
        refine ⟨fun begins => other (begins.trans ?_), induction⟩
        rw [List.cons_prefix_cons]
        exact ⟨rfl, _, breakOn_append separator text⟩

theorem not_infix_dropLast (more : separator ≠ []) :
    ¬ separator <:+: separator.dropLast := by
  intro occurs
  have short := occurs.length_le
  have nonempty := List.length_pos_iff.mpr more
  rw [List.length_dropLast] at short
  omega

/-- The separator at the cut is the first one. -/
theorem first_of_splitOnce? (more : separator ≠ []) {text before after : List Char}
    (found : splitOnce? separator text = some (before, after)) :
    ¬ separator <:+: before ++ separator.dropLast := by
  induction text generalizing before with
  | nil =>
      have absent : splitOnce? separator [] = none :=
        (splitOnce?_eq_none_iff more).mpr fun occurs => more (List.infix_nil.mp occurs)
      rw [absent] at found
      contradiction
  | cons c text induction =>
      by_cases begins : separator <+: c :: text
      · obtain ⟨rest, parts⟩ := begins
        have first : ¬ separator <:+: [] ++ separator.dropLast :=
          not_infix_dropLast more
        have here := splitOnce?_append more first rest
        rw [List.nil_append, parts, found] at here
        cases here
        exact not_infix_dropLast more
      · have whole := of_splitOnce?_eq_some found
        rw [splitOnce?_cons_of_other begins] at found
        obtain ⟨⟨inner, rest⟩, cut, same⟩ := Option.map_eq_some_iff.mp found
        cases same
        rw [List.cons_append, List.infix_cons_iff, not_or]
        refine ⟨fun occurs => begins (occurs.trans ?_), induction cut⟩
        have shorter : separator.dropLast <+: separator ++ after :=
          (List.dropLast_prefix separator).trans (List.prefix_append _ _)
        rw [whole]
        exact (List.prefix_append_right_inj (c :: inner)).mpr shorter

end

/-! ## Separators of one character -/

/-- A cut is behind a text in which its separator does not occur. -/
theorem breakOn_char_append {separator : Char} {front : List Char}
    (plain : separator ∉ front) (text : List Char) :
    breakOn [separator] (front ++ text) =
      (front ++ (breakOn [separator] text).1, (breakOn [separator] text).2) := by
  have others : ∀ c ∈ front, (c != separator) = true := by
    intro c member
    exact bne_iff_ne.mpr fun same => plain (same ▸ member)
  rw [breakOn_singleton, breakOn_singleton, List.takeWhile_append_of_pos others,
    List.dropWhile_append_of_pos others]

theorem splitOnce?_char_append {separator : Char} {front : List Char}
    (plain : separator ∉ front) (text : List Char) :
    splitOnce? [separator] (front ++ text) =
      (splitOnce? [separator] text).map fun (before, after) =>
        (front ++ before, after) := by
  rw [splitOnce?, splitOnce?, breakOn_char_append plain, Option.map_map]
  rfl

theorem splitOnce?_char {separator : Char} {before : List Char}
    (plain : separator ∉ before) (after : List Char) :
    splitOnce? [separator] (before ++ separator :: after) = some (before, after) := by
  have here : splitOnce? [separator] (separator :: after) = some ([], after) := by
    simp [splitOnce?, breakOn_singleton, afterPrefix?]
  rw [splitOnce?_char_append plain, here, Option.map_some]
  dsimp only
  rw [List.append_nil]

theorem splitOnce?_of_notMem {separator : Char} {text : List Char}
    (absent : separator ∉ text) : splitOnce? [separator] text = none := by
  have nothing : splitOnce? [separator] [] = none := rfl
  rw [← List.append_nil text, splitOnce?_char_append absent, nothing, Option.map_none]

end VuePrecompiler.Text
