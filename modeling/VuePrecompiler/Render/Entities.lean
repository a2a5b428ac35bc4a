import VuePrecompiler.Text.Number
import VuePrecompiler.Text.Cut
import VuePrecompiler.Text.Bytes

/-!
# Character references

`&lt;`, `&#60;` and `&#x3C;` stand for a character.  Texts are decoded in one
pass; an ampersand that starts no reference stands for itself.
-/

namespace VuePrecompiler.Render

open Text

/-- The characters with a name. -/
def namedReference? (name : List Char) : Option Char :=
  if name = "lt".toList then some '<'
  else if name = "gt".toList then some '>'
  else if name = "amp".toList then some '&'
  else if name = "quot".toList then some '"'
  else if name = "apos".toList then some '\''
  else if name = "nbsp".toList then some '\u00a0'
  else none

/-- The character of a reference, given between the ampersand and the semicolon. -/
def referenced? (name : List Char) : Option Char :=
  (namedReference? name).or
    (match name with
    | '#' :: 'x' :: digits => (word32? 16 digits).bind charOfCode?
    | '#' :: 'X' :: digits => (word32? 16 digits).bind charOfCode?
    | '#' :: digits => (word32? 10 digits).bind charOfCode?
    | _ => none)

/-- The reference at the start of the text behind an ampersand: its character
and what follows it.  A reference takes at most ten bytes before its semicolon. -/
def reference? (text : List Char) : Option (Char × List Char) :=
  match breakOn [';'] text with
  | (name, _ :: after) =>
    if byteLength name ≤ 9 then (referenced? name).map fun c => (c, after) else none
  | (_, []) => none

theorem length_reference {text after : List Char} {c : Char}
    (found : reference? text = some (c, after)) : after.length < text.length := by
  have shorter := length_breakOn [';'] text
  unfold reference? at found
  split at found
  · next name semicolon rest cut =>
    rw [cut] at shorter
    split at found
    · simp only [Option.map_eq_some_iff, Prod.mk.injEq] at found
      obtain ⟨_, _, _, rfl⟩ := found
      simp only [List.length_cons] at shorter
      omega
    · simp at found
  · simp at found

/-- Put characters in the place of their references. -/
def decodeReferences : List Char → List Char
  | [] => []
  | c :: rest =>
    if c = '&' then
      match _found : reference? rest with
      | some (decoded, after) => decoded :: decodeReferences after
      | none => c :: decodeReferences rest
    else c :: decodeReferences rest
termination_by text => text.length
decreasing_by
  · have := length_reference _found
    simp only [List.length_cons]
    omega
  · simp
  · simp

/-- Put characters in the place of their references in a string. -/
def decoded (text : String) : String :=
  String.ofList (decodeReferences text.toList)

end VuePrecompiler.Render
