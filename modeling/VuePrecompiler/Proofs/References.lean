import Mathlib.Data.List.Forall2
import VuePrecompiler.Render.Entities
import VuePrecompiler.Proofs.Separators
import VuePrecompiler.Proofs.Quotation
import VuePrecompiler.Proofs.Numbers

/-!
# Escaped texts decoded

A character can be written as itself, by its name, or by its number in base ten
or sixteen.  Whichever way is chosen for each character of a text, decoding
what is written gives the text, in one pass.
-/

namespace VuePrecompiler.Render

open Text

/-! ## References read back -/

/-- The characters that have a name. -/
def namedCharacters : List (String × Char) :=
  [("lt", '<'), ("gt", '>'), ("amp", '&'), ("quot", '"'), ("apos", '\''),
    ("nbsp", '\u00a0')]

/-- The ways to write a character in a template.  The digits of its number may be
in either letter case, and there are no leading zeros. -/
inductive IsEscape : List Char → Char → Prop where
  | plain {c : Char} : c ≠ '&' → IsEscape [c] c
  | named {name : String} {c : Char} :
      (name, c) ∈ namedCharacters → IsEscape ('&' :: (name.toList ++ [';'])) c
  | decimal (c : Char) : IsEscape ('&' :: '#' :: (Nat.toDigits 10 c.toNat ++ [';'])) c
  | hexadecimal {mark : Char} {digits : List Char} {c : Char} :
      mark = 'x' ∨ mark = 'X' → digits.map Char.toLower = Nat.toDigits 16 c.toNat →
      IsEscape ('&' :: '#' :: mark :: (digits ++ [';'])) c

/-- What stands between the ampersand and the semicolon of a
reference to a character. -/
structure Refers (name : List Char) (c : Char) : Prop where
  closed : ';' ∉ name
  short : byteLength name ≤ 9
  known : referenced? name = some c

theorem Refers.reference? {name : List Char} {c : Char} (refers : Refers name c)
    (rest : List Char) : reference? (name ++ ';' :: rest) = some (c, rest) := by
  have semicolon : breakOn [';'] (';' :: rest) = ([], ';' :: rest) := rfl
  have cut : breakOn [';'] (name ++ ';' :: rest) = (name, ';' :: rest) := by
    rw [breakOn_char_append refers.closed, semicolon, List.append_nil]
  rw [Render.reference?, cut]
  dsimp only
  rw [if_pos refers.short, refers.known, Option.map_some]

theorem refers_named {name : String} {c : Char} (named : (name, c) ∈ namedCharacters) :
    Refers name.toList c := by
  have all : ∀ entry ∈ namedCharacters, ';' ∉ entry.1.toList ∧
      byteLength entry.1.toList ≤ 9 ∧ referenced? entry.1.toList = some entry.2 := by
    decide
  obtain ⟨closed, short, known⟩ := all (name, c) named
  exact ⟨closed, short, known⟩

theorem toNat_lt (c : Char) : c.toNat < 0x110000 := by
  have valid : c.toNat.isValidChar := c.valid
  rcases valid with small | ⟨_, small⟩ <;> omega

theorem namedReference?_number (digits : List Char) :
    namedReference? ('#' :: digits) = none := by
  simp [namedReference?]

theorem refers_decimal (c : Char) : Refers ('#' :: Nat.toDigits 10 c.toNat) c := by
  have small := toNat_lt c
  have number := numberBehind?_toDigits (by decide : 1 < 10) (by decide) c.toNat
  have length : (Nat.toDigits 10 c.toNat).length ≤ 7 :=
    (Nat.length_toDigits_le_iff (by decide) (by decide)).mpr (by omega)
  have word : word32? 10 (Nat.toDigits 10 c.toNat) = some c.toNat :=
    word32?_of_numberBehind? (by decide) number Nat.toDigits_ne_nil (by omega)
  refine ⟨?_, ?_, ?_⟩
  · exact List.not_mem_cons_of_ne_of_not_mem (by decide)
      (notMem_of_numberBehind? number (by decide))
  · have bytes := byteLength_of_numberBehind? (by decide) number
    have mark : '#'.utf8Size = 1 := rfl
    rw [byteLength_cons]
    omega
  · rw [referenced?, namedReference?_number, Option.none_or, word, Option.bind_some,
      Javascript.charOfCode?_toNat]
    -- The digits are no mark of base sixteen.
    · intro rest same
      have member : 'x' ∈ Nat.toDigits 10 c.toNat := same ▸ List.mem_cons_self
      exact notMem_of_numberBehind? number (by decide) member
    · intro rest same
      have member : 'X' ∈ Nat.toDigits 10 c.toNat := same ▸ List.mem_cons_self
      exact notMem_of_numberBehind? number (by decide) member

theorem refers_hexadecimal {mark : Char} {digits : List Char} {c : Char}
    (isMark : mark = 'x' ∨ mark = 'X')
    (same : digits.map Char.toLower = Nat.toDigits 16 c.toNat) :
    Refers ('#' :: mark :: digits) c := by
  have small := toNat_lt c
  have number : numberBehind? 16 0 digits = some c.toNat := by
    rw [← numberBehind?_map_toLower, same]
    exact numberBehind?_toDigits (by decide) (by decide) c.toNat
  have length : digits.length ≤ 6 := by
    rw [← List.length_map (f := Char.toLower), same]
    exact (Nat.length_toDigits_le_iff (by decide) (by decide)).mpr (by omega)
  have nonempty : digits ≠ [] := by
    rintro rfl
    exact Nat.toDigits_ne_nil same.symm
  have word : word32? 16 digits = some c.toNat :=
    word32?_of_numberBehind? (by decide) number nonempty (by omega)
  have bytes := byteLength_of_numberBehind? (by decide) number
  have closed : ';' ∉ digits := notMem_of_numberBehind? number (by decide)
  have known : (word32? 16 digits).bind charOfCode? = some c := by
    rw [word, Option.bind_some, Javascript.charOfCode?_toNat]
  have sign : '#'.utf8Size = 1 := rfl
  rcases isMark with rfl | rfl
  · have letter : 'x'.utf8Size = 1 := rfl
    refine ⟨by simp [closed], ?_, ?_⟩
    · rw [byteLength_cons, byteLength_cons]
      omega
    · rw [referenced?, namedReference?_number, Option.none_or]
      exact known
  · have letter : 'X'.utf8Size = 1 := rfl
    refine ⟨by simp [closed], ?_, ?_⟩
    · rw [byteLength_cons, byteLength_cons]
      omega
    · rw [referenced?, namedReference?_number, Option.none_or]
      exact known

/-! ## Decoding -/

theorem decodeReferences_plain {c : Char} (plain : c ≠ '&') (rest : List Char) :
    decodeReferences (c :: rest) = c :: decodeReferences rest := by
  rw [decodeReferences, if_neg plain]

theorem Refers.decodeReferences {name : List Char} {c : Char} (refers : Refers name c)
    (rest : List Char) :
    decodeReferences ('&' :: (name ++ ';' :: rest)) = c :: decodeReferences rest := by
  rw [Render.decodeReferences, if_pos rfl]
  split
  · next decoded after found =>
    rw [refers.reference?] at found
    obtain ⟨rfl, rfl⟩ := Prod.mk.inj (Option.some.inj found)
    rfl
  · next absent =>
    rw [refers.reference?] at absent
    contradiction

/-- What a character is written as is decoded to it, whatever follows. -/
theorem IsEscape.decodeReferences {written : List Char} {c : Char}
    (escape : IsEscape written c) (rest : List Char) :
    decodeReferences (written ++ rest) = c :: decodeReferences rest := by
  cases escape with
  | plain plain => exact decodeReferences_plain plain rest
  | named named => simpa using (refers_named named).decodeReferences rest
  | decimal => simpa using (refers_decimal c).decodeReferences rest
  | hexadecimal isMark same =>
      simpa using (refers_hexadecimal isMark same).decodeReferences rest

theorem decodeReferences_flatten {written : List (List Char)} {text : List Char}
    (escaped : List.Forall₂ IsEscape written text) :
    decodeReferences written.flatten = text := by
  induction escaped with
  | nil => rw [List.flatten_nil, decodeReferences]
  | cons here _ induction => rw [List.flatten_cons, here.decodeReferences, induction]

/-- A text without ampersands has no references. -/
theorem decoded_of_notMem {text : String} (plain : '&' ∉ text.toList) :
    decoded text = text := by
  have escaped : List.Forall₂ IsEscape (text.toList.map fun c => [c]) text.toList := by
    rw [List.forall₂_map_left_iff, List.forall₂_same]
    exact fun c member => .plain fun same => plain (same ▸ member)
  have single : (text.toList.map fun c => [c]).flatten = text.toList := by
    rw [← List.flatMap_def, List.flatMap_singleton']
  rw [decoded, ← single, decodeReferences_flatten escaped, String.ofList_toList]

/-- However each character of a text is written, decoding gives the text.  So a decoded
ampersand starts no reference, and a text without ampersands is not changed. -/
theorem decoded_escaped :
    (∀ (text : String) (written : List (List Char)),
      List.Forall₂ IsEscape written text.toList →
        decoded (String.ofList written.flatten) = text) ∧
    (∀ text : String, '&' ∉ text.toList → decoded text = text) ∧
    decoded "&amp;lt;" = "&lt;" := by
  refine ⟨?_, fun text => decoded_of_notMem, by decide +kernel⟩
  intro text written escaped
  rw [decoded, String.toList_ofList, decodeReferences_flatten escaped,
    String.ofList_toList]

/-- The largest character, an ampersand and a semicolon, next to each other. -/
theorem decoded_neighbours :
    let largest := Char.ofNat 0x10FFFF
    let written := ["&#X10Ffff;".toList, "&amp;".toList, "&#38;".toList, [';']]
    List.Forall₂ IsEscape written [largest, '&', '&', ';'] ∧
      decoded "&#X10Ffff;&amp;&#38;;" = String.ofList [largest, '&', '&', ';'] := by
  intro largest written
  have digits :
      "10Ffff".toList.map Char.toLower = Nat.toDigits 16 largest.toNat := by decide
  have named : ("amp", '&') ∈ namedCharacters := by decide
  have escaped : List.Forall₂ IsEscape written [largest, '&', '&', ';'] :=
    .cons (.hexadecimal (.inr rfl) digits) <| .cons (.named named) <|
      .cons (.decimal '&') <| .cons (.plain (by decide)) .nil
  refine ⟨escaped, ?_⟩
  exact decoded_escaped.1 (String.ofList _) written (by rwa [String.toList_ofList])

end VuePrecompiler.Render
