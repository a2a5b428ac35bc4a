import VuePrecompiler.Proofs.StrictLiterals

/-!
# Quoted texts

What is written for a character between quotes is a part of a literal that
denotes it.  So a quoted text is a literal of strict code: it ends at its last
quote and not before, it stays on one line, and it is read back.  The same
holds of the literals of generated code, which are written as in JSON.
-/

namespace VuePrecompiler.Javascript

open Text

/-- From the front, every backslash escapes the character behind it.  No
quote stands outside of such pairs, and no backslash is left over for what
follows the text. -/
inductive IsGuarded (mark : Char) : List Char → Prop where
  | nil : IsGuarded mark []
  | plain {c : Char} {rest : List Char} : c ≠ mark → c ≠ '\\' → IsGuarded mark rest →
      IsGuarded mark (c :: rest)
  | escaped {c : Char} {rest : List Char} : IsGuarded mark rest →
      IsGuarded mark ('\\' :: c :: rest)

theorem IsGuarded.append {mark : Char} {left right : List Char}
    (first : IsGuarded mark left) (second : IsGuarded mark right) :
    IsGuarded mark (left ++ right) := by
  induction first with
  | nil => exact second
  | plain notMark notEscape _ induction => exact .plain notMark notEscape induction
  | escaped _ induction => exact .escaped induction

theorem isGuarded_of_notMem {mark : Char} {text : List Char} (noMark : mark ∉ text)
    (noEscape : '\\' ∉ text) : IsGuarded mark text := by
  induction text with
  | nil => exact .nil
  | cons c text induction =>
      simp only [List.mem_cons, not_or] at noMark noEscape
      apply IsGuarded.plain
      · exact Ne.symm noMark.1
      · exact Ne.symm noEscape.1
      · exact induction noMark.2 noEscape.2

section

variable {mark : Char} (isQuote : mark = '\'' ∨ mark = '"')
include isQuote

/-! ## The bodies of literals -/

theorem SpellsHex.isGuarded {digits : List Char} {code : Nat}
    (spells : SpellsHex digits code) : IsGuarded mark digits := by
  apply isGuarded_of_notMem
  · apply notMem_of_numberBehind? spells.number
    rcases isQuote with rfl | rfl <;> decide
  · exact notMem_of_numberBehind? spells.number (by decide)

theorem IsPart.isGuarded {written : List Char} {codes : List Nat}
    (part : IsPart mark written codes) : IsGuarded mark written := by
  cases part with
  | plain notMark notEscape _ _ => exact .plain notMark notEscape .nil
  | single _ => exact .escaped .nil
  | other _ _ => exact .escaped .nil
  | null => exact .escaped .nil
  | byte _ spells => exact .escaped (spells.isGuarded isQuote)
  | unit _ spells => exact .escaped (spells.isGuarded isQuote)
  | braced _ spells =>
      have ends : IsGuarded mark ['}'] := by
        apply isGuarded_of_notMem
        · rcases isQuote with rfl | rfl <;> decide
        · decide
      apply IsGuarded.escaped
      apply IsGuarded.plain
      · rcases isQuote with rfl | rfl <;> decide
      · decide
      · exact (spells.isGuarded isQuote).append ends
  | continuation _ => exact .escaped .nil
  | twoContinuation =>
      apply IsGuarded.escaped
      apply isGuarded_of_notMem
      · rcases isQuote with rfl | rfl <;> decide
      · decide

theorem IsBody.isGuarded {body : List Char} {codes : List Nat}
    (isBody : IsBody mark body codes) : IsGuarded mark body := by
  induction isBody with
  | nil => exact .nil
  | part first _ _ induction => exact (first.isGuarded isQuote).append induction

end

/-! ## What is written for a character -/

/-- A character is written as itself, with a single character behind a
backslash, or with the digits of its number.  Dark characters are not
written as themselves. -/
inductive IsWriting (mark : Char) (isDark : Char → Bool) (c : Char) :
    List Char → Prop where
  | itself : c ≠ mark → c ≠ '\\' → isLineTerminator c = false → isDark c = false →
      IsWriting mark isDark c [c]
  | letter {letter : Char} :
      (letter, c) ∈ singleEscapes → IsWriting mark isDark c ['\\', letter]
  | byte {digits : List Char} : digits.length = 2 → SpellsHex digits c.toNat →
      IsWriting mark isDark c ('\\' :: 'x' :: digits)
  | unit {digits : List Char} : digits.length = 4 → SpellsHex digits c.toNat →
      IsWriting mark isDark c ('\\' :: 'u' :: digits)

namespace IsWriting

variable {mark c : Char} {isDark : Char → Bool} {written : List Char}

theorem isPart (writing : IsWriting mark isDark c written) :
    IsPart mark written [c.toNat] := by
  cases writing with
  | itself notMark notEscape inLine =>
      apply IsPart.plain notMark notEscape
      · rintro rfl
        contradiction
      · rintro rfl
        contradiction
  | letter known => exact .single known
  | byte width spells => exact .byte width spells
  | unit width spells => exact .unit width spells

/-- Nothing is asked of the text behind what is written for a character. -/
theorem mayPrecede (writing : IsWriting mark isDark c written) (rest : List Char) :
    MayPrecede written rest := by
  cases writing with
  | itself => simp [MayPrecede]
  | letter isLetter =>
      have known : ∀ entry ∈ singleEscapes, entry.1 ≠ '0' ∧ entry.1 ≠ '\r' := by decide
      simp [MayPrecede, known _ isLetter]
  | byte => simp [MayPrecede]
  | unit => simp [MayPrecede]

/-- All that is written for a character stays on its line and is not dark, if the
visible characters of ASCII are not. -/
theorem inLine (writing : IsWriting mark isDark c written)
    (visible : ∀ c, isDark c = true → c.toNat < 0x20 ∨ 0x7F ≤ c.toNat) :
    ∀ c ∈ written, isLineTerminator c = false ∧ isDark c = false := by
  have ascii {c : Char} (least : 0x20 ≤ c.toNat) (most : c.toNat < 0x7F) :
      isLineTerminator c = false ∧ isDark c = false := by
    constructor
    · simp only [isLineTerminator, Bool.or_eq_false_iff, beq_eq_false_iff_ne]
      refine ⟨⟨⟨?_, ?_⟩, ?_⟩, ?_⟩ <;> rintro rfl <;> contradiction
    · rw [Bool.eq_false_iff]
      intro dark
      have := visible c dark
      omega
  have digit {digits : List Char} {code : Nat} (spells : SpellsHex digits code) :
      ∀ digit ∈ digits, isLineTerminator digit = false ∧ isDark digit = false := by
    intro digit member
    obtain ⟨value, isValue⟩ := exists_digitValue? spells.number digit member
    obtain ⟨least, most⟩ := bounds_of_digitValue? (by decide) isValue
    have least : 0x30 ≤ digit.toNat := least
    have most : digit.toNat ≤ 0x66 := most
    exact ascii (by omega) (by omega)
  have backslash := @ascii '\\' (by decide) (by decide)
  cases writing with
  | itself _ _ inLine shown => simpa using ⟨inLine, shown⟩
  | letter isLetter =>
      have known : ∀ entry ∈ singleEscapes, 0x20 ≤ entry.1.toNat ∧
          entry.1.toNat < 0x7F := by
        decide
      obtain ⟨least, most⟩ := known _ isLetter
      simpa using ⟨backslash, ascii least most⟩
  | byte _ spells =>
      simp only [List.forall_mem_cons]
      exact ⟨backslash, ascii (by decide) (by decide), digit spells⟩
  | unit _ spells =>
      simp only [List.forall_mem_cons]
      exact ⟨backslash, ascii (by decide) (by decide), digit spells⟩

/-- Texts for characters, one after the other, are the body of a literal. -/
theorem isBody {write : Char → List Char}
    (writes : ∀ c, IsWriting mark isDark c (write c))
    (text : List Char) : IsBody mark (text.flatMap write) (text.map Char.toNat) := by
  induction text with
  | nil => exact .nil
  | cons c text induction =>
      exact .part (writes c).isPart ((writes c).mayPrecede _) induction

end IsWriting

/-! ## Quoted texts -/

section

variable {mark : Char} (isQuote : mark = '\'' ∨ mark = '"')
include isQuote

theorem isWriting_quotedChar (c : Char) :
    IsWriting mark isControl c (quotedChar mark c) := by
  unfold quotedChar
  split
  · exact .letter (by decide)
  · exact .letter (by decide)
  · exact .letter (by decide)
  · exact .letter (by decide)
  · exact .letter (by decide)
  · exact .letter (by decide)
  · exact .letter (by decide)
  · exact .unit rfl ⟨0, by decide⟩
  · exact .unit rfl ⟨0, by decide⟩
  · next noEscape noFeed noReturn _ _ _ _ noSeparator noParagraph =>
    split
    · next same =>
      subst same
      refine .letter ?_
      rcases isQuote with rfl | rfl <;> decide
    · next notMark =>
      split
      · next control =>
        have all : ∀ code < 0xA0, (hexDigits 2 code).length = 2 ∧
            (hexDigits 2 code).map Char.toLower =
              List.replicate (2 - (Nat.toDigits 16 code).length) '0' ++
                Nat.toDigits 16 code := by
          decide +kernel
        obtain ⟨width, spelled⟩ := all c.toNat (isControl_small control)
        exact .byte width ⟨_, spelled⟩
      · next visible =>
        have inLine : isLineTerminator c = false := by
          simp only [isLineTerminator, Bool.or_eq_false_iff, beq_eq_false_iff_ne]
          exact ⟨⟨⟨noFeed, noReturn⟩, noSeparator⟩, noParagraph⟩
        exact .itself notMark noEscape inLine (Bool.eq_false_iff.mpr visible)

theorem isBody_quoted (text : List Char) :
    IsBody mark (text.flatMap (quotedChar mark)) (text.map Char.toNat) :=
  IsWriting.isBody (isWriting_quotedChar isQuote) text

theorem quotedChar_inLine (c : Char) :
    ∀ written ∈ quotedChar mark c,
      isLineTerminator written = false ∧ isControl written = false := by
  refine (isWriting_quotedChar isQuote c).inLine fun c control => ?_
  simp only [isControl, Bool.or_eq_true, Bool.and_eq_true,
    decide_eq_true_eq] at control
  omega

/-- A quoted text is a literal that denotes the text.  It is closed by its last
character and by no quote before, it stays on one line, and it is read back. -/
theorem quoted_isLiteral (value : String) :
    ∃ body, (quote value mark).toList = mark :: (body ++ [mark]) ∧
      IsGuarded mark body ∧
      (∀ c ∈ body, isLineTerminator c = false ∧ isControl c = false) ∧
      Denotes (quote value mark) mark (value.toList.map Char.toNat) value ∧
      StringLiteral.ofSource? (quote value mark) = some ⟨value, mark⟩ := by
  have written : (quote value mark).toList =
      mark :: (value.toList.flatMap (quotedChar mark) ++ [mark]) := by
    simp [quote]
  have isBody := isBody_quoted isQuote value.toList
  refine ⟨_, written, isBody.isGuarded isQuote, ?_, ?_, ofSource?_quote isQuote value⟩
  · intro c member
    obtain ⟨source, _, isWritten⟩ := List.mem_flatMap.mp member
    exact quotedChar_inLine isQuote source c isWritten
  · exact ⟨isQuote, ⟨_, written, isBody⟩, by rw [List.flatMap_map]⟩

end

/-- A text with both quotes, a backslash, a null and a digit, and the end of a line. -/
theorem quoted_isLiteral_escapes :
    let value := "it's \"\\\x001\u2028"
    let literal := "'it\\'s \"\\\\\\x001\\u2028'"
    ('\'' = '\'' ∨ '\'' = '"') ∧ quote value '\'' = literal ∧
      ∃ body, literal.toList = '\'' :: (body ++ ['\'']) ∧
        IsGuarded '\'' body ∧
        (∀ c ∈ body, isLineTerminator c = false ∧ isControl c = false) ∧
        Denotes literal '\'' (value.toList.map Char.toNat) value ∧
        StringLiteral.ofSource? literal = some ⟨value, '\''⟩ := by
  intro value literal
  have written : quote value '\'' = literal := by decide +kernel
  have sealed := quoted_isLiteral (.inl rfl) value
  rw [written] at sealed
  exact ⟨.inl rfl, written, sealed⟩

/-! ## Literals of generated code -/

theorem isWriting_literalChar (c : Char) :
    IsWriting '"' (fun c => decide (c.toNat < 0x20)) c (literalChar c) := by
  unfold literalChar
  split
  · exact .unit rfl ⟨0, by decide⟩
  · exact .unit rfl ⟨0, by decide⟩
  · next noSeparator noParagraph =>
    unfold jsonChar
    split
    · exact .letter (by decide)
    · exact .letter (by decide)
    · exact .letter (by decide)
    · exact .letter (by decide)
    · exact .letter (by decide)
    · exact .letter (by decide)
    · exact .letter (by decide)
    · next noMark noEscape _ _ noFeed noReturn _ =>
      split
      · next small =>
        have all : ∀ code < 0x20, (hexDigits 4 code).length = 4 ∧
            (hexDigits 4 code).map Char.toLower =
              List.replicate (4 - (Nat.toDigits 16 code).length) '0' ++
                Nat.toDigits 16 code := by
          decide +kernel
        obtain ⟨width, spelled⟩ := all c.toNat small
        exact .unit width ⟨_, spelled⟩
      · next large =>
        have inLine : isLineTerminator c = false := by
          simp only [isLineTerminator, Bool.or_eq_false_iff, beq_eq_false_iff_ne]
          exact ⟨⟨⟨noFeed, noReturn⟩, noSeparator⟩, noParagraph⟩
        exact .itself noMark noEscape inLine (decide_eq_false large)

theorem literalChar_inLine (c : Char) : ∀ written ∈ literalChar c,
    isLineTerminator written = false ∧ decide (written.toNat < 0x20) = false :=
  (isWriting_literalChar c).inLine fun _ dark => .inl (of_decide_eq_true dark)

/-- The two line terminators that JSON admits, escaped; other
characters as they are. -/
def separatorEscaped (c : Char) : List Char :=
  if c = '\u2028' then "\\u2028".toList
  else if c = '\u2029' then "\\u2029".toList
  else [c]

theorem flatMap_separatorEscaped_of_inLine {text : List Char}
    (inLine : ∀ c ∈ text, isLineTerminator c = false) :
    text.flatMap separatorEscaped = text := by
  induction text with
  | nil => rfl
  | cons c text induction =>
      rw [List.forall_mem_cons] at inLine
      obtain ⟨here, later⟩ := inLine
      simp only [isLineTerminator, Bool.or_eq_false_iff, beq_eq_false_iff_ne] at here
      rw [List.flatMap_cons, induction later, separatorEscaped, if_neg here.1.2,
        if_neg here.2, List.singleton_append]

/-- Escaping the line terminators in what JSON writes for a character
changes no escape. -/
theorem flatMap_separatorEscaped_jsonChar (c : Char) :
    (jsonChar c).flatMap separatorEscaped = literalChar c := by
  by_cases separator : c = '\u2028'
  · subst separator
    rfl
  by_cases paragraph : c = '\u2029'
  · subst paragraph
    rfl
  have same : literalChar c = jsonChar c := by
    unfold literalChar
    split
    · contradiction
    · contradiction
    · rfl
  rw [same]
  refine flatMap_separatorEscaped_of_inLine fun written member => ?_
  rw [← same] at member
  exact (literalChar_inLine c written member).1

/-- A literal of generated code is what JSON writes for its text, with the line
terminators that JSON admits escaped.  It is closed by its last character and by
no quote before, no control character and no line terminator stands in it, and it
denotes its text and is read back. -/
theorem literal_isSafe (value : String) :
    (literal value).toList = (jsonQuoted value).toList.flatMap separatorEscaped ∧
      ∃ body, (literal value).toList = '"' :: (body ++ ['"']) ∧
        IsGuarded '"' body ∧
        (∀ c ∈ body, 0x20 ≤ c.toNat ∧ c ≠ '\u2028' ∧ c ≠ '\u2029') ∧
        Denotes (literal value) '"' (value.toList.map Char.toNat) value ∧
        StringLiteral.ofSource? (literal value) = some ⟨value, '"'⟩ := by
  have written :
      (literal value).toList = '"' :: (value.toList.flatMap literalChar ++ ['"']) := by
    simp [literal]
  have isBody := IsWriting.isBody isWriting_literalChar value.toList
  refine ⟨?_, _, written, isBody.isGuarded (.inr rfl), ?_, ?_, ofSource?_literal value⟩
  · have json : (jsonQuoted value).toList =
        '"' :: (value.toList.flatMap jsonChar ++ ['"']) := by
      simp [jsonQuoted]
    have mark : separatorEscaped '"' = ['"'] := rfl
    rw [written, json, List.flatMap_cons, List.flatMap_append, List.flatMap_singleton,
      mark, List.flatMap_assoc]
    simp only [flatMap_separatorEscaped_jsonChar]
    rfl
  · intro c member
    obtain ⟨source, _, isWritten⟩ := List.mem_flatMap.mp member
    obtain ⟨inLine, visible⟩ := literalChar_inLine source c isWritten
    simp only [isLineTerminator, Bool.or_eq_false_iff, beq_eq_false_iff_ne] at inLine
    exact ⟨Nat.le_of_not_lt (of_decide_eq_false visible), inLine.1.2, inLine.2⟩
  · exact ⟨.inr rfl, ⟨_, written, isBody⟩, by rw [List.flatMap_map]⟩

end VuePrecompiler.Javascript
