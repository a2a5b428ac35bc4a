import VuePrecompiler.Javascript.StringLiteral

/-!
# Literals read back

What is written for a character between quotes stands for that character
again, whatever follows it.  So a quoted text is read back as it was.
-/

namespace VuePrecompiler.Javascript

open Text

-- The equations of `unescape` are many: here they are derived once, for all
-- proofs below.
attribute [local simp] unescape

/-- Some text between quotes stands for a character, whatever follows. -/
def Unescapes (written : List Char) (c : Char) : Prop :=
  ∀ rest, unescape (written ++ rest) = c :: unescape rest

/-- If every character is written as a text that stands for it, every text
can be read back. -/
theorem unescape_flatMap {write : Char → List Char}
    (faithful : ∀ c, Unescapes (write c) c)
    (text : List Char) : unescape (text.flatMap write) = text := by
  induction text with
  | nil => simp [unescape]
  | cons c rest induction => rw [List.flatMap_cons, faithful c, induction]

theorem unescapes_self {c : Char} (plain : c ≠ '\\') : Unescapes [c] c := by
  intro rest
  rw [List.singleton_append, unescape]
  intro same
  exact absurd same plain

/-- A backslash before a quote or another backslash takes away its meaning. -/
theorem unescapes_backslash {c : Char} (special : c = '\\' ∨ c = '\'' ∨ c = '"') :
    Unescapes ['\\', c] c := by
  intro rest
  rcases special with
    rfl | rfl | rfl <;> simp [unescape, isLineTerminator, singleEscape?]

theorem unescapes_letter {letter c : Char} (escape : (letter, c) ∈ [('n', '\n'),
    ('r', '\r'), ('t', '\t'), ('b', '\x08'), ('f', '\x0c'), ('v', '\x0b')]) :
    Unescapes ['\\', letter] c := by
  intro rest
  simp only [List.mem_cons, Prod.mk.injEq, List.not_mem_nil, or_false] at escape
  rcases escape with
    ⟨rfl, rfl⟩ | ⟨rfl, rfl⟩ | ⟨rfl, rfl⟩ | ⟨rfl, rfl⟩ | ⟨rfl, rfl⟩ | ⟨rfl, rfl⟩ <;>
    simp [unescape, isLineTerminator, singleEscape?]

theorem charOfCode?_toNat (c : Char) : charOfCode? c.toNat = some c := by
  have valid : c.toNat.isValidChar := c.valid
  rw [charOfCode?, if_pos valid, Char.ofNat_toNat]

/-- Two digits in base sixteen are read back. -/
theorem word32?_hexDigits_two {code : Nat} (small : code < 0xA0) :
    (hexDigits 2 code).length = 2 ∧ word32? 16 (hexDigits 2 code) = some code := by
  have all : ∀ code < 0xA0,
      (hexDigits 2 code).length = 2 ∧ word32? 16 (hexDigits 2 code) = some code := by
    decide +kernel
  exact all code small

theorem unescape_byte {digits : List Char} (width : digits.length = 2)
    (rest : List Char) :
    unescape ('\\' :: 'x' :: (digits ++ rest)) = ofHexEscape 'x' digits ++
      unescape rest := by
  rw [unescape, List.take_left' width, List.drop_left' width]

theorem unescape_unit {digits : List Char} (width : digits.length = 4)
    (noBrace : digits.head? ≠ some '{') (rest : List Char) :
    unescape ('\\' :: 'u' :: (digits ++ rest)) = ofHexEscape 'u' digits ++
      unescape rest := by
  rw [unescape, List.take_left' width, List.drop_left' width]
  intro more same
  cases digits with
  | nil => contradiction
  | cons digit digits =>
      obtain ⟨rfl, _⟩ := List.cons.inj same
      exact noBrace rfl

theorem unescapes_hex {c : Char} (small : c.toNat < 0xA0) :
    Unescapes ('\\' :: 'x' :: hexDigits 2 c.toNat) c := by
  intro rest
  obtain ⟨width, digits⟩ := word32?_hexDigits_two small
  have escape : ofHexEscape 'x' (hexDigits 2 c.toNat) = [c] := by
    rw [ofHexEscape, digits, Option.bind_some, charOfCode?_toNat]
  exact (unescape_byte width rest).trans (by rw [escape]; rfl)

theorem unescapes_unicode {digits : List Char} {c : Char} (width : digits.length = 4)
    (noBrace : digits.head? ≠ some '{') (number : word32? 16 digits = some c.toNat) :
    Unescapes ('\\' :: 'u' :: digits) c := by
  intro rest
  have escape : ofHexEscape 'u' digits = [c] := by
    rw [ofHexEscape, number, Option.bind_some, charOfCode?_toNat]
  exact (unescape_unit width noBrace rest).trans (by rw [escape]; rfl)

theorem isControl_small {c : Char} (control : isControl c = true) :
    c.toNat < 0xA0 := by
  simp only [isControl, Bool.or_eq_true, Bool.and_eq_true,
    decide_eq_true_eq] at control
  omega

theorem unescapes_quotedChar {quote : Char}
    (isQuote : quote = '\'' ∨ quote = '"') (c : Char) :
    Unescapes (quotedChar quote c) c := by
  unfold quotedChar
  split
  · exact unescapes_backslash (Or.inl rfl)
  · exact unescapes_letter (by simp)
  · exact unescapes_letter (by simp)
  · exact unescapes_letter (by simp)
  · exact unescapes_letter (by simp)
  · exact unescapes_letter (by simp)
  · exact unescapes_letter (by simp)
  · exact @unescapes_unicode ['2', '0', '2', '8'] _ rfl (by decide) (by decide +kernel)
  · exact @unescapes_unicode ['2', '0', '2', '9'] _ rfl (by decide) (by decide +kernel)
  · next noBackslash _ _ _ _ _ _ _ _ =>
    split
    · next same =>
      rw [same]
      exact unescapes_backslash (Or.inr isQuote)
    · split
      · next control => exact unescapes_hex (isControl_small control)
      · exact unescapes_self noBackslash

/-- A text between two quotes is read back with its quote, if what is written for
each character stands for that character. -/
theorem ofSource?_written {write : Char → List Char} {mark : Char}
    (isQuote : mark = '\'' ∨ mark = '"') (faithful : ∀ c, Unescapes (write c) c)
    (value : String) :
    StringLiteral.ofSource?
      (String.ofList (mark :: value.toList.flatMap write ++ [mark])) =
      some ⟨value, mark⟩ := by
  have quotes : (decide (mark = '\'') || decide (mark = '"')) = true := by
    simpa using isQuote
  simp only [StringLiteral.ofSource?, String.toList_ofList, List.cons_append, quotes,
    List.getLast?_concat, Bool.true_and, decide_true, ↓reduceIte, List.dropLast_concat,
    unescape_flatMap faithful, String.ofList_toList]

/-- A quoted text is read back with its quote. -/
theorem ofSource?_quote {mark : Char} (isQuote : mark = '\'' ∨ mark = '"')
    (value : String) :
    StringLiteral.ofSource? (quote value mark) = some ⟨value, mark⟩ :=
  ofSource?_written isQuote (unescapes_quotedChar isQuote) value

/-! ## Literals of generated code -/

/-- Four digits in base sixteen are read back. -/
theorem word32?_hexDigits_four {code : Nat} (small : code < 0x20) :
    (hexDigits 4 code).length = 4 ∧ (hexDigits 4 code).head? ≠ some '{' ∧
      word32? 16 (hexDigits 4 code) = some code := by
  have all : ∀ code < 0x20, (hexDigits 4 code).length = 4 ∧
      (hexDigits 4 code).head? ≠ some '{' ∧
      word32? 16 (hexDigits 4 code) = some code := by
    decide +kernel
  exact all code small

theorem unescapes_jsonChar (c : Char) : Unescapes (jsonChar c) c := by
  unfold jsonChar
  split
  · exact unescapes_backslash (Or.inr (Or.inr rfl))
  · exact unescapes_backslash (Or.inl rfl)
  · exact unescapes_letter (by simp)
  · exact unescapes_letter (by simp)
  · exact unescapes_letter (by simp)
  · exact unescapes_letter (by simp)
  · exact unescapes_letter (by simp)
  · next noBackslash _ _ _ _ _ =>
    split
    · next small =>
      obtain ⟨width, noBrace, number⟩ := word32?_hexDigits_four small
      exact unescapes_unicode width noBrace number
    · exact unescapes_self noBackslash

theorem unescapes_literalChar (c : Char) : Unescapes (literalChar c) c := by
  unfold literalChar
  split
  · exact @unescapes_unicode ['2', '0', '2', '8'] _ rfl (by decide) (by decide +kernel)
  · exact @unescapes_unicode ['2', '0', '2', '9'] _ rfl (by decide) (by decide +kernel)
  · exact unescapes_jsonChar c

/-- A literal of generated code stands for its text. -/
theorem ofSource?_literal (value : String) :
    StringLiteral.ofSource? (literal value) = some ⟨value, '"'⟩ :=
  ofSource?_written (.inr rfl) unescapes_literalChar value

theorem literal_injective {first second : String}
    (same : literal first = literal second) : first = second := by
  have read := ofSource?_literal first
  rw [same, ofSource?_literal] at read
  exact (StringLiteral.mk.inj (Option.some.inj read)).1.symm

end VuePrecompiler.Javascript
