import Mathlib.Data.List.DropRight
import VuePrecompiler.Text.Blank

/-!
# Trimmed texts

Trimming takes the blanks off both ends of a text and leaves the rest as it is.
-/

namespace VuePrecompiler.Text

theorem trimEnd_append_blanks (text : List Char) {blanks : List Char}
    (areBlank : ∀ c ∈ blanks, isBlank c = true) :
    trimEnd (text ++ blanks) = trimEnd text := by
  have reversed : ∀ c ∈ blanks.reverse, isBlank c = true := fun c member =>
    areBlank c (List.mem_reverse.mp member)
  rw [trimEnd, List.reverse_append, List.dropWhile_append_of_pos reversed, trimEnd]

theorem trimEnd_append_visible (text : List Char) {c : Char}
    (visible : isBlank c = false) :
    trimEnd (text ++ [c]) = text ++ [c] :=
  List.rdropWhile_concat_neg isBlank text c (Bool.eq_false_iff.mp visible)

theorem trimStart_of_trim {text : List Char} (isTrimmed : trim text = text) :
    trimStart text = text := by
  have short : text.length ≤ (trimStart text).length :=
    calc text.length = (trim text).length := by rw [isTrimmed]
      _ ≤ (trimStart text).length :=
          (List.rdropWhile_prefix isBlank (trimStart text)).length_le
  exact (List.dropWhile_sublist isBlank).eq_of_length_le short

theorem trimEnd_of_trim {text : List Char} (isTrimmed : trim text = text) :
    trimEnd text = text := by
  rw [trim, trimStart_of_trim isTrimmed] at isTrimmed
  exact isTrimmed

/-- Blanks around a trimmed text are taken off again. -/
theorem trim_surrounded {text before after : List Char} (isTrimmed : trim text = text)
    (blanksBefore : ∀ c ∈ before, isBlank c = true)
    (blanksAfter : ∀ c ∈ after, isBlank c = true) :
    trim (before ++ text ++ after) = text := by
  have start : trimStart (before ++ text ++ after) = trimStart (text ++ after) := by
    rw [List.append_assoc, trimStart, List.dropWhile_append_of_pos blanksBefore,
      trimStart]
  cases text with
  | nil =>
      have nothing : trimStart after = [] := List.dropWhile_eq_nil_iff.mpr blanksAfter
      rw [trim, start, List.nil_append, nothing]
      rfl
  | cons c text =>
      have visible : ¬ isBlank c = true :=
        List.dropWhile_eq_self_iff.mp (trimStart_of_trim isTrimmed) (Nat.succ_pos _)
      have kept : trimStart (c :: text ++ after) = c :: text ++ after := by
        rw [trimStart, List.cons_append, List.dropWhile_cons, if_neg visible]
      rw [trim, start, kept, trimEnd_append_blanks _ blanksAfter,
        trimEnd_of_trim isTrimmed]

/-- The blanks at both ends of a text. -/
theorem exists_trim (text : List Char) :
    ∃ before after, text = before ++ trim text ++ after ∧
    (∀ c ∈ before, isBlank c = true) ∧ ∀ c ∈ after, isBlank c = true := by
  refine ⟨text.takeWhile isBlank, ((trimStart text).reverse.takeWhile isBlank).reverse,
    ?_, ?_, ?_⟩
  · have ending : trim text ++ ((trimStart text).reverse.takeWhile isBlank).reverse =
        trimStart text := by
      rw [trim, trimEnd, ← List.reverse_append, List.takeWhile_append_dropWhile,
        List.reverse_reverse]
    rw [List.append_assoc, ending, trimStart, List.takeWhile_append_dropWhile]
  · exact List.all_eq_true.mp List.all_takeWhile
  · intro c member
    exact List.all_eq_true.mp List.all_takeWhile c (List.mem_reverse.mp member)

theorem head_trimEnd {text : List Char} {c : Char}
    (head : (trimEnd text).head? = some c) : text.head? = some c := by
  have parts : trimEnd text ++ (text.reverse.takeWhile isBlank).reverse = text := by
    rw [trimEnd, ← List.reverse_append, List.takeWhile_append_dropWhile,
      List.reverse_reverse]
  rw [← parts, List.head?_append, head]
  rfl

theorem trimStart_trim (text : List Char) : trimStart (trim text) = trim text := by
  cases shape : trim text with
  | nil => rfl
  | cons c rest =>
      have head : (trimStart text).head? = some c :=
        head_trimEnd (by rw [← trim, shape]; rfl)
      have visible := List.head?_dropWhile_not isBlank text
      rw [← trimStart, head] at visible
      rw [trimStart, List.dropWhile_cons, visible, if_neg Bool.false_ne_true]

/-- A trimmed text has no blanks to be trimmed. -/
theorem trim_trim (text : List Char) : trim (trim text) = trim text := by
  rw [trim, trimStart_trim, trim, trimEnd, trimEnd, List.reverse_reverse,
    List.dropWhile_idempotent]

/-- Blanks are trimmed off a text with a visible character at each end. -/
theorem trim_visible {first last : Char} (text : List Char) {before after : List Char}
    (blanksBefore : ∀ c ∈ before, isBlank c = true)
    (firstVisible : isBlank first = false)
    (lastVisible : isBlank last = false)
    (blanksAfter : ∀ c ∈ after, isBlank c = true) :
    trim (before ++ (first :: (text ++ [last]) ++ after)) =
      first :: (text ++ [last]) := by
  have start : trimStart (before ++ (first :: (text ++ [last]) ++ after)) =
      first :: (text ++ [last]) ++ after := by
    rw [trimStart, List.dropWhile_append_of_pos blanksBefore, List.cons_append,
      List.dropWhile_cons, firstVisible, if_neg Bool.false_ne_true]
  rw [trim, start, trimEnd_append_blanks _ blanksAfter, ← List.cons_append,
    trimEnd_append_visible _ lastVisible]

theorem trimEnd_append_cons (front : List Char) {c : Char}
    (visible : isBlank c = false) (text : List Char) :
    trimEnd (front ++ c :: text) = front ++ c :: trimEnd text := by
  have reversed :
      (front ++ c :: text).reverse = text.reverse ++ c :: front.reverse := by simp
  rw [trimEnd, trimEnd, reversed, List.dropWhile_append]
  split
  · next blank =>
    rw [List.dropWhile_cons, visible, if_neg Bool.false_ne_true,
      List.isEmpty_iff.mp blank]
    simp
  · simp

theorem trim_cons_blank {text : List Char} (isTrimmed : trim text = text) :
    trim (' ' :: text) = text := by
  have start : trimStart (' ' :: text) = trimStart text := by
    rw [trimStart, List.dropWhile_cons, if_pos (by decide), trimStart]
  rw [trim, start, ← trim, isTrimmed]

/-- The last character of a trimmed text is visible. -/
theorem exists_last_of_trim {text : List Char} (isTrimmed : trim text = text)
    (more : text ≠ []) :
    ∃ front last, text = front ++ [last] ∧ isBlank last = false := by
  refine ⟨text.dropLast, text.getLast more,
    (List.dropLast_concat_getLast more).symm, ?_⟩
  rw [Bool.eq_false_iff]
  exact List.rdropWhile_eq_self_iff.mp (trimEnd_of_trim isTrimmed) more

end VuePrecompiler.Text
