import VuePrecompiler.Text.Bytes
import VuePrecompiler.Text.Blank
import VuePrecompiler.Text.Cut

/-!
# Cursors

A cursor stands at a byte position of a text and sees what is left of it.
Every movement goes forward: what is left never grows.
-/

namespace VuePrecompiler.Text

/-- A byte position in a text, and the text from there on. -/
structure Cursor where
  offset : Nat
  rest : List Char
deriving Repr, Inhabited

namespace Cursor

def start (text : String) : Cursor := ⟨0, text.toList⟩

/-- Pass the next character. -/
def bump (cursor : Cursor) : Cursor :=
  match cursor.rest with
  | [] => cursor
  | c :: rest => ⟨cursor.offset + c.utf8Size, rest⟩

/-- Pass the next `count` characters. -/
def skip : Nat → Cursor → Cursor
  | 0, cursor => cursor
  | count + 1, cursor => skip count cursor.bump

/-- Take characters as long as they satisfy a test. -/
def takeWhile (test : Char → Bool) (cursor : Cursor) : List Char × Cursor :=
  let taken := cursor.rest.takeWhile test
  (taken, ⟨cursor.offset + byteLength taken, cursor.rest.dropWhile test⟩)

/-- Take everything up to the next occurrence of a text, or to the end. -/
def takeUntil (stop : List Char) (cursor : Cursor) : List Char × Cursor :=
  let (taken, rest) := breakOn stop cursor.rest
  (taken, ⟨cursor.offset + byteLength taken, rest⟩)

/-- Pass a text if the cursor stands before it. -/
def eat (text : List Char) (cursor : Cursor) : Cursor :=
  match afterPrefix? text cursor.rest with
  | some rest => ⟨cursor.offset + byteLength text, rest⟩
  | none => cursor

/-- Pass blanks. -/
def skipBlanks (cursor : Cursor) : Cursor :=
  (cursor.takeWhile isBlank).2

/-- Whether a text follows. -/
def sees (text : List Char) (cursor : Cursor) : Bool :=
  text.isPrefixOf cursor.rest

theorem length_bump (cursor : Cursor) :
    cursor.bump.rest.length ≤ cursor.rest.length := by
  unfold bump
  split <;> simp_all

theorem length_bump_lt {cursor : Cursor} (more : cursor.rest ≠ []) :
    cursor.bump.rest.length < cursor.rest.length := by
  unfold bump
  split <;> simp_all

theorem length_skip (count : Nat) (cursor : Cursor) :
    (skip count cursor).rest.length ≤ cursor.rest.length := by
  induction count generalizing cursor with
  | zero => simp [skip]
  | succ count ih => exact Nat.le_trans (ih cursor.bump) (length_bump cursor)

theorem length_skip_lt {count : Nat} (positive : 0 < count) {cursor : Cursor}
    (more : cursor.rest ≠ []) :
    (skip count cursor).rest.length < cursor.rest.length := by
  cases count with
  | zero => omega
  | succ count =>
      exact Nat.lt_of_le_of_lt (length_skip count cursor.bump) (length_bump_lt more)

theorem length_takeWhile (test : Char → Bool) (cursor : Cursor) :
    (cursor.takeWhile test).2.rest.length ≤ cursor.rest.length :=
  length_dropWhile _ _

theorem length_takeWhile_lt {test : Char → Bool} {cursor : Cursor}
    (some_taken : (cursor.takeWhile test).1 ≠ []) :
    (cursor.takeWhile test).2.rest.length < cursor.rest.length := by
  have parts :
      cursor.rest.takeWhile test ++ cursor.rest.dropWhile test = cursor.rest :=
    List.takeWhile_append_dropWhile
  have counted := congrArg List.length parts
  simp only [List.length_append] at counted
  have positive : 0 < (cursor.rest.takeWhile test).length :=
    List.length_pos_iff.mpr some_taken
  simp only [takeWhile]
  omega

theorem length_takeUntil (stop : List Char) (cursor : Cursor) :
    (cursor.takeUntil stop).2.rest.length ≤ cursor.rest.length :=
  length_breakOn stop cursor.rest

theorem length_eat (text : List Char) (cursor : Cursor) :
    (cursor.eat text).rest.length ≤ cursor.rest.length := by
  have shorter : ∀ (pre given rest : List Char), afterPrefix? pre given = some rest →
      rest.length ≤ given.length := by
    intro pre
    induction pre with
    | nil => intro given rest h; simp [afterPrefix?] at h; simp [h]
    | cons p pre ih =>
      intro given rest h
      cases given with
      | nil => simp [afterPrefix?] at h
      | cons c given =>
        by_cases same : p = c
        · simp only [afterPrefix?, same, ↓reduceIte] at h
          have := ih given rest h
          simp only [List.length_cons]
          omega
        · simp [afterPrefix?, same] at h
  unfold eat
  split
  · next rest h => exact shorter _ _ _ h
  · exact Nat.le_refl _

theorem length_skipBlanks (cursor : Cursor) :
    cursor.skipBlanks.rest.length ≤ cursor.rest.length :=
  length_takeWhile _ _

end Cursor

end VuePrecompiler.Text
