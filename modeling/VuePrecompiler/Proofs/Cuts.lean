import VuePrecompiler.Text.Bytes

/-!
# Positions between characters

A byte position is a cut of a text if it falls between two characters or at
an end.  `splitAtByte?` succeeds at the cuts and nowhere else, and two cuts
enclose a stretch of whole characters.
-/

namespace VuePrecompiler.Text

/-- A position falls between two characters of a text, or at one of its ends. -/
def IsCut (text : List Char) (position : Nat) : Prop :=
  ∃ left right, text = left ++ right ∧ byteLength left = position

theorem byteLength_eq_zero {text : List Char} : byteLength text = 0 ↔ text = [] := by
  cases text with
  | nil => simp
  | cons c rest =>
      have positive := c.utf8Size_pos
      simp only [byteLength_cons, reduceCtorEq, iff_false]
      omega

theorem splitAtByte?_append (left right : List Char) :
    splitAtByte? (byteLength left) (left ++ right) = some (left, right) := by
  induction left with
  | nil => cases right <;> simp [splitAtByte?]
  | cons c left induction =>
      have positive := c.utf8Size_pos
      obtain ⟨size, sizeEq⟩ : ∃ size, byteLength (c :: left) = size + 1 :=
        ⟨byteLength (c :: left) - 1, by rw [byteLength_cons]; omega⟩
      have behind : size + 1 - c.utf8Size = byteLength left := by
        rw [← sizeEq, byteLength_cons]
        omega
      have fits : c.utf8Size ≤ size + 1 := by
        rw [← sizeEq, byteLength_cons]
        omega
      rw [sizeEq, List.cons_append, splitAtByte?, if_pos fits, behind, induction]
      rfl

theorem of_splitAtByte?_eq_some {position : Nat} {text left right : List Char}
    (split : splitAtByte? position text = some (left, right)) :
    text = left ++ right ∧ byteLength left = position := by
  induction text generalizing position left with
  | nil =>
      cases position with
      | zero =>
          simp only [splitAtByte?, Option.some.injEq, Prod.mk.injEq] at split
          obtain ⟨rfl, rfl⟩ := split
          exact ⟨rfl, rfl⟩
      | succ position => simp [splitAtByte?] at split
  | cons c rest induction =>
      cases position with
      | zero =>
          simp only [splitAtByte?, Option.some.injEq, Prod.mk.injEq] at split
          obtain ⟨rfl, rfl⟩ := split
          exact ⟨rfl, rfl⟩
      | succ position =>
          rw [splitAtByte?] at split
          split at split
          · next fits =>
            obtain ⟨⟨inner, behind⟩, found, parts⟩ := Option.map_eq_some_iff.mp split
            simp only [Prod.mk.injEq] at parts
            obtain ⟨rfl, rfl⟩ := parts
            obtain ⟨rfl, size⟩ := induction found
            refine ⟨rfl, ?_⟩
            rw [byteLength_cons, size]
            omega
          · contradiction

theorem isSome_splitAtByte?_iff {position : Nat} {text : List Char} :
    (splitAtByte? position text).isSome ↔ IsCut text position := by
  constructor
  · intro found
    obtain ⟨⟨left, right⟩, split⟩ := Option.isSome_iff_exists.mp found
    exact ⟨left, right, of_splitAtByte?_eq_some split⟩
  · rintro ⟨left, right, rfl, rfl⟩
    simp [splitAtByte?_append]

/-- Of two ways to cut a text in two, the one with more in front takes the front of
the other and some of the rest. -/
theorem exists_middle {left right before after : List Char}
    (parts : left ++ right = before ++ after)
    (behind : byteLength left ≤ byteLength before) :
    ∃ inside, before = left ++ inside ∧ right = inside ++ after := by
  rcases List.append_eq_append_iff.mp parts with ⟨inside, rfl, rfl⟩ | ⟨extra, rfl, rfl⟩
  · exact ⟨inside, rfl, rfl⟩
  · have none_extra : extra = [] := by
      rw [byteLength_append] at behind
      exact byteLength_eq_zero.mp (by omega)
    subst none_extra
    exact ⟨[], by simp, rfl⟩

namespace IsCut

/-- A cut behind the first part of a text is a cut of the second part. -/
theorem of_append {left right : List Char} {position : Nat}
    (cut : IsCut (left ++ right) position) (behind : byteLength left ≤ position) :
    IsCut right (position - byteLength left) := by
  obtain ⟨upTo, after, parts, rfl⟩ := cut
  obtain ⟨inside, rfl, rfl⟩ := exists_middle parts behind
  exact ⟨inside, after, rfl, by simp⟩

/-- Two cuts enclose a stretch of whole characters. -/
theorem between {text : List Char} {start stop : Nat} (first : IsCut text start)
    (second : IsCut text stop) (ordered : start ≤ stop) :
    ∃ before inside after, text = before ++ (inside ++ after) ∧
      byteLength before = start ∧ byteLength inside = stop - start := by
  obtain ⟨before, behind, rfl, rfl⟩ := first
  obtain ⟨inside, after, rfl, size⟩ := second.of_append ordered
  exact ⟨before, inside, after, rfl, rfl, size⟩

end IsCut

end VuePrecompiler.Text
