/-!
# Numbers in text

Unsigned numbers of 32 bits, as character references and key modifiers spell
them: one leading plus sign is allowed, and a number that is too large is none.
-/

namespace VuePrecompiler.Text

/-- The value of a digit, for bases up to sixteen. -/
def digitValue? (base : Nat) (c : Char) : Option Nat :=
  let value :=
    if '0' ≤ c && c ≤ '9' then c.toNat - '0'.toNat
    else if 'a' ≤ c && c ≤ 'f' then c.toNat - 'a'.toNat + 10
    else if 'A' ≤ c && c ≤ 'F' then c.toNat - 'A'.toNat + 10
    else 16
  if value < base then some value else none

/-- The number that digits spell behind a number read before. -/
def numberBehind? (base : Nat) (before : Nat) : List Char → Option Nat
  | [] => some before
  | c :: rest => (digitValue? base c).bind fun digit =>
      numberBehind? base (before * base + digit) rest

/-- The number that at least one digit spells. -/
def number? (base : Nat) : List Char → Option Nat
  | [] => none
  | digits => numberBehind? base 0 digits

/-- An unsigned number of 32 bits, with or without a plus sign. -/
def word32? (base : Nat) (text : List Char) : Option Nat :=
  let digits :=
    match text with
    | '+' :: digits => digits
    | _ => text
  (number? base digits).filter (· < 0x100000000)

/-- The character of a code point, if it has one. -/
def charOfCode? (code : Nat) : Option Char :=
  if code.isValidChar then some (Char.ofNat code) else none

/-- The digits of a number in base sixteen, in small letters and at
least `width` of them. -/
def hexDigits (width : Nat) (value : Nat) : List Char :=
  let digits := Nat.toDigits 16 value
  List.replicate (width - digits.length) '0' ++ digits

end VuePrecompiler.Text
