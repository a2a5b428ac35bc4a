import VuePrecompiler.Proofs.Trimming
import VuePrecompiler.Text.Cursor

/-!
# What is left after a move

What a cursor takes and what it leaves depend on the text in front of it
only, not on the position.
-/

namespace VuePrecompiler.Text

/-! ## Cuts of a text -/

@[simp] theorem afterPrefix?_append (start rest : List Char) :
    afterPrefix? start (start ++ rest) = some rest := by
  induction start with
  | nil => rfl
  | cons c start induction =>
      rw [List.cons_append, afterPrefix?, if_pos rfl, induction]

theorem afterPrefix?_eq_none {start text : List Char} (other : ¬ start <+: text) :
    afterPrefix? start text = none := by
  induction start generalizing text with
  | nil => exact absurd List.nil_prefix other
  | cons p start induction =>
      cases text with
      | nil => rfl
      | cons c text =>
          rw [afterPrefix?]
          split
          · next same =>
            subst same
            exact induction fun begins =>
              other (List.cons_prefix_cons.mpr ⟨rfl, begins⟩)
          · rfl

/-- A text is cut at a separator if the separator does not begin earlier. -/
theorem breakOn_of_first {separator before after : List Char}
    (first : ∀ left right, before = left ++ right → right ≠ [] →
      ¬ separator <+: right ++ (separator ++ after)) (more : separator ≠ []) :
    breakOn separator (before ++ (separator ++ after)) =
      (before, separator ++ after) := by
  induction before with
  | nil =>
      cases separator with
      | nil => contradiction
      | cons p separator =>
          have here : (p :: separator).isPrefixOf (p :: (separator ++ after)) = true :=
            List.isPrefixOf_iff_prefix.mpr (List.prefix_append (p :: separator) after)
          rw [List.nil_append, List.cons_append, breakOn, if_pos here]
  | cons c before induction =>
      have notHere :
          separator.isPrefixOf (c :: (before ++ (separator ++ after))) = false := by
        rw [Bool.eq_false_iff, ne_eq, List.isPrefixOf_iff_prefix]
        exact first [] (c :: before) rfl (by simp)
      have later := induction fun left right split nonempty =>
        first (c :: left) right (by rw [split, List.cons_append]) nonempty
      rw [List.cons_append, breakOn, notHere, later]
      rfl

theorem breakOn_char {stop : Char} {before after : List Char} (plain : stop ∉ before) :
    breakOn [stop] (before ++ ([stop] ++ after)) = (before, [stop] ++ after) := by
  refine breakOn_of_first ?_ (List.cons_ne_nil stop [])
  rintro left right rfl nonempty begins
  cases right with
  | nil => contradiction
  | cons c right =>
      obtain ⟨rfl, _⟩ := List.cons_prefix_cons.mp begins
      exact plain (List.mem_append_right left List.mem_cons_self)

theorem takeWhile_append_of_stop {test : Char → Bool} {taken tail : List Char}
    (all : ∀ c ∈ taken, test c = true) (stops : ∀ c ∈ tail.head?, test c = false) :
    (taken ++ tail).takeWhile test = taken := by
  rw [List.takeWhile_append_of_pos all]
  cases tail with
  | nil => rw [List.takeWhile_nil, List.append_nil]
  | cons c tail =>
      rw [List.takeWhile_cons, stops c rfl, if_neg Bool.false_ne_true, List.append_nil]

theorem dropWhile_append_of_stop {test : Char → Bool} {taken tail : List Char}
    (all : ∀ c ∈ taken, test c = true) (stops : ∀ c ∈ tail.head?, test c = false) :
    (taken ++ tail).dropWhile test = tail := by
  rw [List.dropWhile_append_of_pos all]
  cases tail with
  | nil => rfl
  | cons c tail => rw [List.dropWhile_cons, stops c rfl, if_neg Bool.false_ne_true]

namespace Cursor

/-! ## Moves -/

@[simp] theorem rest_bump (cursor : Cursor) :
    cursor.bump.rest = cursor.rest.drop 1 := by
  rcases cursor with ⟨offset, _ | ⟨c, rest⟩⟩ <;> rfl

@[simp] theorem rest_skip (count : Nat) (cursor : Cursor) :
    (cursor.skip count).rest = cursor.rest.drop count := by
  induction count generalizing cursor with
  | zero => rfl
  | succ count induction =>
      rw [skip, induction, rest_bump, List.drop_drop, Nat.add_comm]

@[simp] theorem takeWhile_fst (test : Char → Bool) (cursor : Cursor) :
    (cursor.takeWhile test).1 = cursor.rest.takeWhile test := rfl

@[simp] theorem rest_takeWhile (test : Char → Bool) (cursor : Cursor) :
    (cursor.takeWhile test).2.rest = cursor.rest.dropWhile test := rfl

@[simp] theorem takeUntil_fst (stop : List Char) (cursor : Cursor) :
    (cursor.takeUntil stop).1 = (breakOn stop cursor.rest).1 := rfl

@[simp] theorem rest_takeUntil (stop : List Char) (cursor : Cursor) :
    (cursor.takeUntil stop).2.rest = (breakOn stop cursor.rest).2 := rfl

@[simp] theorem rest_skipBlanks (cursor : Cursor) :
    cursor.skipBlanks.rest = cursor.rest.dropWhile isBlank := rfl

/-- A text in front of the cursor is passed. -/
theorem rest_eat {text tail : List Char} {cursor : Cursor}
    (shape : cursor.rest = text ++ tail) : (cursor.eat text).rest = tail := by
  rw [eat, shape, afterPrefix?_append]

/-- What stands before a separator is taken, and the separator passed. -/
theorem takeUntil_eat {separator before after : List Char} {cursor : Cursor}
    (shape : cursor.rest = before ++ (separator ++ after))
    (cut : breakOn separator (before ++ (separator ++ after)) =
      (before, separator ++ after)) :
    (cursor.takeUntil separator).1 = before ∧
      ((cursor.takeUntil separator).2.eat separator).rest = after := by
  constructor
  · rw [takeUntil_fst, shape, cut]
  · refine rest_eat ?_
    rw [rest_takeUntil, shape, cut]

end Cursor

end VuePrecompiler.Text
