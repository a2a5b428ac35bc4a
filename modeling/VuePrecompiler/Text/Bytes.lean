/-!
# Characters measured in bytes

Positions everywhere in this library count the bytes of the UTF-8 form of a
text, while texts are walked as lists of characters.  This file ties the two
together: `byteLength` measures a list of characters and `splitAtByte?` cuts
it at a byte position, provided that the position falls between characters.
-/

namespace VuePrecompiler.Text

/-- The number of bytes a list of characters takes in UTF-8. -/
def byteLength : List Char → Nat
  | [] => 0
  | c :: rest => c.utf8Size + byteLength rest

@[simp] theorem byteLength_nil : byteLength [] = 0 := rfl

@[simp] theorem byteLength_cons (c : Char) (rest : List Char) :
    byteLength (c :: rest) = c.utf8Size + byteLength rest := rfl

@[simp] theorem byteLength_append (left right : List Char) :
    byteLength (left ++ right) = byteLength left + byteLength right := by
  induction left with
  | nil => simp
  | cons c rest ih => simp [ih, Nat.add_assoc]

/-- Cut a text at a byte position.  There is no cut past the end, and none
inside a character. -/
def splitAtByte? : Nat → List Char → Option (List Char × List Char)
  | 0, text => some ([], text)
  | _ + 1, [] => none
  | n + 1, c :: rest =>
    if c.utf8Size ≤ n + 1 then
      (splitAtByte? (n + 1 - c.utf8Size) rest).map fun (left, right) =>
        (c :: left, right)
    else none
termination_by structural _ text => text

/-- What lies behind a byte position, if it falls between characters. -/
def dropBytes? : Nat → List Char → Option (List Char)
  | 0, text => some text
  | _ + 1, [] => none
  | n + 1, c :: rest =>
    if c.utf8Size ≤ n + 1 then dropBytes? (n + 1 - c.utf8Size) rest else none
termination_by structural _ text => text

/-- What lies behind a position is the second part of the cut there. -/
theorem dropBytes?_eq (n : Nat) (text : List Char) :
    dropBytes? n text = (splitAtByte? n text).map Prod.snd := by
  induction text generalizing n with
  | nil => cases n <;> simp [dropBytes?, splitAtByte?]
  | cons c rest ih =>
    cases n with
    | zero => simp [dropBytes?, splitAtByte?]
    | succ n =>
      simp only [dropBytes?, splitAtByte?]
      split
      · rw [ih]
        cases splitAtByte? (n + 1 - c.utf8Size) rest <;> rfl
      · rfl

/-- The characters between two byte positions, if both fall between characters. -/
def sliceBytes? (start stop : Nat) (text : List Char) : Option (List Char) := do
  if stop < start then none
  let (slice, _) ← splitAtByte? (stop - start) (← dropBytes? start text)
  return slice

end VuePrecompiler.Text
