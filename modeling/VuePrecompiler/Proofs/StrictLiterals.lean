import Mathlib.Algebra.Group.Nat.Defs
import VuePrecompiler.Proofs.CursorMoves
import VuePrecompiler.Proofs.Numbers
import VuePrecompiler.Proofs.Quotation

/-!
# Literals of strict code

Between its quotes a literal has parts: characters for themselves, escapes of
several forms, and lines that go on.  Its value consists of code units, so that
two escapes can denote the halves of one character.  Reading joins no halves:
a literal is read as its value if and only if no escape denotes a half.
-/

namespace VuePrecompiler.Javascript

open Text

/-! ## Code units -/

/-- The code units of a code point.  From U+10000 on there are two, which are
halves of a pair. -/
def codeUnits (code : Nat) : List Nat :=
  if code < 0x10000 then [code]
  else [0xD800 + (code - 0x10000) / 0x400, 0xDC00 + (code - 0x10000) % 0x400]

/-- Half of a pair, which is no character. -/
def IsHalf (code : Nat) : Prop :=
  0xD800 ≤ code ∧ code < 0xE000

instance (code : Nat) : Decidable (IsHalf code) :=
  inferInstanceAs (Decidable (_ ∧ _))

/-- A code unit that is not the second half of a pair. -/
def isLeading (unit : Nat) : Bool :=
  unit < 0xDC00 || 0xE000 ≤ unit

/-- The code points of characters. -/
def IsScalar (code : Nat) : Prop :=
  code < 0x110000 ∧ ¬ IsHalf code

theorem isScalar_toNat (c : Char) : IsScalar c.toNat := by
  have valid : c.toNat.isValidChar := c.valid
  unfold IsScalar IsHalf
  rcases valid with small | ⟨large, bounded⟩ <;> omega

theorem exists_char_of_isScalar {code : Nat} (scalar : IsScalar code) :
    ∃ c : Char, c.toNat = code := by
  have valid : code.isValidChar := by
    unfold IsScalar IsHalf at scalar
    unfold Nat.isValidChar
    omega
  exact ⟨Char.ofNatAux code valid, rfl⟩

/-- A code point has at most one code unit that leads, and that of a
character exactly one. -/
theorem countP_codeUnits_le (code : Nat) : (codeUnits code).countP isLeading ≤ 1 := by
  unfold codeUnits
  split
  · exact List.countP_le_length
  · have second : isLeading (0xDC00 + (code - 0x10000) % 0x400) = false := by
      simp only [isLeading, Bool.or_eq_false_iff, decide_eq_false_iff_not]
      omega
    simp only [List.countP_cons, second, List.countP_nil, Bool.false_eq_true,
      ↓reduceIte]
    split <;> omega

theorem countP_codeUnits_of_isScalar {code : Nat} (scalar : IsScalar code) :
    (codeUnits code).countP isLeading = 1 := by
  obtain ⟨bounded, whole⟩ := scalar
  unfold IsHalf at whole
  unfold codeUnits
  split
  · have leads : isLeading code = true := by
      simp only [isLeading, Bool.or_eq_true, decide_eq_true_eq]
      omega
    simp [leads]
  · have first : isLeading (0xD800 + (code - 0x10000) / 0x400) = true := by
      simp only [isLeading, Bool.or_eq_true, decide_eq_true_eq]
      omega
    have second : isLeading (0xDC00 + (code - 0x10000) % 0x400) = false := by
      simp only [isLeading, Bool.or_eq_false_iff, decide_eq_false_iff_not]
      omega
    simp [first, second]

/-- The first code units of two characters differ if the characters do. -/
theorem codeUnits_inj {first second : Nat} {rest others : List Nat}
    (isFirst : IsScalar first) (isSecond : IsScalar second)
    (same : codeUnits first ++ rest = codeUnits second ++ others) :
    first = second ∧ rest = others := by
  unfold IsScalar IsHalf at isFirst isSecond
  unfold codeUnits at same
  split at same <;> split at same <;>
    simp only [List.cons_append, List.nil_append, List.cons.injEq] at same
  · exact same
  · omega
  · omega
  · exact ⟨by omega, same.2.2⟩

/-- Texts with the same code units are the same. -/
theorem eq_of_codeUnits {text other : List Char}
    (same : (text.flatMap fun c => codeUnits c.toNat) = other.flatMap fun c =>
      codeUnits c.toNat) :
    text = other := by
  have more (code : Nat) : codeUnits code ≠ [] := by
    unfold codeUnits
    split <;> simp
  induction text generalizing other with
  | nil =>
      cases other with
      | nil => rfl
      | cons first other => simp [more] at same
  | cons c text induction =>
      cases other with
      | nil => simp [more] at same
      | cons first other =>
          simp only [List.flatMap_cons] at same
          obtain ⟨sameFirst, sameRest⟩ :=
            codeUnits_inj (isScalar_toNat c) (isScalar_toNat first) same
          rw [Char.toNat_inj.mp sameFirst, induction sameRest]

/-! ## The grammar -/

/-- Digits in base sixteen, in either letter case and with any number
of leading zeros. -/
def SpellsHex (digits : List Char) (code : Nat) : Prop :=
  ∃ zeros, digits.map Char.toLower = List.replicate zeros '0' ++ Nat.toDigits 16 code

/-- The characters that are escapes with a single character behind the backslash. -/
def singleEscapes : List (Char × Char) :=
  [('\'', '\''), ('"', '"'), ('\\', '\\'), ('b', '\x08'), ('f', '\x0c'), ('n', '\n'),
    ('r', '\r'), ('t', '\t'), ('v', '\x0b')]

/-- A character that begins an escape of its own behind a backslash. -/
def IsEscapeCharacter (c : Char) : Prop :=
  c ∈ singleEscapes.map Prod.fst ∨ c.isDigit = true ∨ c = 'x' ∨ c = 'u'

/-- A part of a literal, with the code points that it denotes. -/
inductive IsPart (mark : Char) : List Char → List Nat → Prop where
  | plain {c : Char} : c ≠ mark → c ≠ '\\' → c ≠ '\n' → c ≠ '\r' →
      IsPart mark [c] [c.toNat]
  | single {letter c : Char} : (letter, c) ∈ singleEscapes →
      IsPart mark ['\\', letter] [c.toNat]
  | other {c : Char} : ¬ IsEscapeCharacter c → isLineTerminator c = false →
      IsPart mark ['\\', c] [c.toNat]
  | null : IsPart mark ['\\', '0'] [0]
  | byte {digits : List Char} {code : Nat} : digits.length = 2 →
      SpellsHex digits code →
      IsPart mark ('\\' :: 'x' :: digits) [code]
  | unit {digits : List Char} {code : Nat} : digits.length = 4 →
      SpellsHex digits code →
      IsPart mark ('\\' :: 'u' :: digits) [code]
  | braced {digits : List Char} {code : Nat} : code < 0x110000 →
      SpellsHex digits code →
      IsPart mark ('\\' :: 'u' :: '{' :: (digits ++ ['}'])) [code]
  | continuation {c : Char} : isLineTerminator c = true → IsPart mark ['\\', c] []
  | twoContinuation : IsPart mark ['\\', '\r', '\n'] []

/-- What the grammar asks of the text behind two of the parts: no digit follows a
zero, and no line feed the carriage return that ends a line. -/
def MayPrecede (part rest : List Char) : Prop :=
  (part = ['\\', '0'] → ∀ c ∈ rest.head?, c.isDigit = false) ∧
    (part = ['\\', '\r'] → rest.head? ≠ some '\n')

/-- The text between the quotes of a literal, with the code points that
its parts denote. -/
inductive IsBody (mark : Char) : List Char → List Nat → Prop where
  | nil : IsBody mark [] []
  | part {written rest : List Char} {codes later : List Nat} :
      IsPart mark written codes →
      MayPrecede written rest → IsBody mark rest later →
      IsBody mark (written ++ rest) (codes ++ later)

/-- A literal of strict code denotes a text: the code units are the same. -/
structure Denotes (literal : String) (mark : Char) (codes : List Nat)
    (value : String) : Prop where
  isQuote : mark = '\'' ∨ mark = '"'
  written : ∃ body, literal.toList = mark :: (body ++ [mark]) ∧ IsBody mark body codes
  units : codes.flatMap codeUnits = value.toList.flatMap fun c => codeUnits c.toNat

/-! ## Reading the parts -/

/-- How code points are read: characters as themselves, and halves of
pairs as longer texts. -/
inductive IsReadAs : List Nat → List Char → Prop where
  | nil : IsReadAs [] []
  | character {c : Char} {codes : List Nat} {text : List Char} : IsReadAs codes text →
      IsReadAs (c.toNat :: codes) (c :: text)
  | half {code : Nat} {read : List Char} {codes : List Nat} {text : List Char} :
      IsHalf code → 1 < read.length → IsReadAs codes text →
        IsReadAs (code :: codes) (read ++ text)

theorem IsReadAs.single (c : Char) : IsReadAs [c.toNat] [c] :=
  .character .nil

theorem IsReadAs.append {codes later : List Nat} {read text : List Char}
    (first : IsReadAs codes read) (second : IsReadAs later text) :
    IsReadAs (codes ++ later) (read ++ text) := by
  induction first with
  | nil => exact second
  | character _ induction => exact .character induction
  | half isHalf longer _ induction =>
      rw [List.append_assoc]
      exact .half isHalf longer induction

/-- Without halves, the characters that are read have the code points denoted. -/
theorem IsReadAs.map_toNat {codes : List Nat} {text : List Char}
    (read : IsReadAs codes text) (whole : ∀ code ∈ codes, ¬ IsHalf code) :
    text.map Char.toNat = codes := by
  induction read with
  | nil => rfl
  | character _ induction =>
      rw [List.map_cons, induction fun code member =>
        whole code (List.mem_cons_of_mem _ member)]
  | half isHalf => exact absurd isHalf (whole _ List.mem_cons_self)

/-- A half is read as more than one character, and nothing else is. -/
theorem IsReadAs.length_le {codes : List Nat} {text : List Char}
    (read : IsReadAs codes text) :
    codes.length + codes.countP (fun code => decide (IsHalf code)) ≤ text.length := by
  induction read with
  | nil => simp
  | @character c codes text _ induction =>
      have whole := (isScalar_toNat c).2
      simp only [List.length_cons, List.countP_cons, whole, decide_false]
      simp
      omega
  | half isHalf longer _ induction =>
      simp only [List.length_cons, List.countP_cons, isHalf, decide_true,
        List.length_append]
      simp
      omega

theorem SpellsHex.number {digits : List Char} {code : Nat}
    (spells : SpellsHex digits code) : numberBehind? 16 0 digits = some code := by
  obtain ⟨zeros, same⟩ := spells
  rw [← numberBehind?_map_toLower, same, numberBehind?_zeros (by decide)]
  exact numberBehind?_toDigits (by decide) (by decide) code

theorem SpellsHex.ne_nil {digits : List Char} {code : Nat}
    (spells : SpellsHex digits code) : digits ≠ [] := by
  rintro rfl
  obtain ⟨zeros, same⟩ := spells
  exact Nat.toDigits_ne_nil (List.append_eq_nil_iff.mp same.symm).2

/-- Digits are read as the character that they denote, and those of a half
stay what they are. -/
theorem SpellsHex.isReadAs {digits : List Char} {code : Nat}
    (spells : SpellsHex digits code) (bounded : code < 0x110000) (letter : Char) :
    IsReadAs [code] (ofHexEscape letter digits) := by
  have word : word32? 16 digits = some code :=
    word32?_of_numberBehind? (by decide) spells.number spells.ne_nil (by omega)
  by_cases isHalf : IsHalf code
  · have invalid : ¬ code.isValidChar := by
      unfold IsHalf at isHalf
      unfold Nat.isValidChar
      omega
    have kept : ofHexEscape letter digits = letter :: digits := by
      simp [ofHexEscape, word, charOfCode?, invalid]
    rw [kept, ← List.append_nil (letter :: digits)]
    apply IsReadAs.half isHalf _ .nil
    simpa using List.length_pos_iff.mpr spells.ne_nil
  · obtain ⟨c, rfl⟩ := exists_char_of_isScalar ⟨bounded, isHalf⟩
    have decoded : ofHexEscape letter digits = [c] := by
      simp [ofHexEscape, word, charOfCode?_toNat]
    rw [decoded]
    exact .single c

theorem SpellsHex.lt_of_length {digits : List Char} {code count : Nat}
    (spells : SpellsHex digits code) (positive : 0 < count)
    (width : digits.length = count) : code < 16 ^ count := by
  obtain ⟨zeros, same⟩ := spells
  have length := congrArg List.length same
  simp only [List.length_map, List.length_append, List.length_replicate] at length
  apply (Nat.length_toDigits_le_iff (by decide) positive).mp
  omega

theorem unescape_other {c : Char} {rest : List Char}
    (other : c ≠ 'x' ∧ c ≠ 'u' ∧ c ≠ '0') (ends : c = '\r' → rest.head? ≠ some '\n') :
    unescape ('\\' :: c :: rest) =
      if isLineTerminator c then unescape rest else (singleEscape? c).getD c ::
        unescape rest := by
  obtain ⟨notX, notU, notZero⟩ := other
  apply unescape.eq_8 c rest notX
  · intro _ isU
    exact absurd isU notU
  · exact notU
  · rintro more isReturn rfl
    exact ends isReturn rfl
  · exact notZero

theorem unescape_braced {digits : List Char} (noBrace : '}' ∉ digits)
    (rest : List Char) :
    unescape ('\\' :: 'u' :: '{' :: (digits ++ '}' :: rest)) =
      ofHexEscape 'u' digits ++ unescape rest := by
  have all : ∀ c ∈ digits, (c != '}') = true := by
    intro c member
    simpa using ne_of_mem_of_not_mem member noBrace
  have stops : ∀ c ∈ ('}' :: rest).head?, (c != '}') = false := by simp
  rw [unescape, takeWhile_append_of_stop all stops, dropWhile_append_of_stop all stops]
  rfl

theorem mem_singleEscapes {letter c : Char} (known : singleEscape? letter = some c) :
    (letter, c) ∈ singleEscapes := by
  unfold singleEscape? at known
  split at known <;> cases known <;> decide

/-- The text of a part is read as the code points that the part denotes, and
the rest follows. -/
theorem IsPart.read {mark : Char} {written rest : List Char} {codes : List Nat}
    (part : IsPart mark written codes) (follows : MayPrecede written rest) :
    ∃ read, IsReadAs codes read ∧
      unescape (written ++ rest) = read ++ unescape rest := by
  cases part with
  | @plain c _ notEscape _ _ =>
      exact ⟨[c], .single c, unescapes_self notEscape rest⟩
  | @single letter c known =>
      refine ⟨[c], .single c, ?_⟩
      have letters : letter = c ∧ (c = '\\' ∨ c = '\'' ∨
          c = '"') ∨ (letter, c) ∈ [('n', '\n'),
          ('r', '\r'), ('t', '\t'), ('b', '\x08'), ('f', '\x0c'), ('v', '\x0b')] := by
        simp only [singleEscapes, List.mem_cons, Prod.mk.injEq,
          List.not_mem_nil] at known ⊢
        grind
      rcases letters with ⟨rfl, itself⟩ | letter
      · exact unescapes_backslash itself rest
      · exact unescapes_letter letter rest
  | @other c notEscape inLine =>
      refine ⟨[c], .single c, ?_⟩
      simp only [IsEscapeCharacter, not_or] at notEscape
      obtain ⟨notSingle, notDigit, notX, notU⟩ := notEscape
      have notZero : c ≠ '0' := by
        rintro rfl
        exact notDigit rfl
      have notReturn : c ≠ '\r' := by
        rintro rfl
        contradiction
      have itself : singleEscape? c = none := by
        rw [Option.eq_none_iff_forall_ne_some]
        intro meant known
        exact notSingle (List.mem_map_of_mem (mem_singleEscapes known))
      exact (unescape_other ⟨notX, notU, notZero⟩ fun isReturn =>
        absurd isReturn notReturn).trans
          (by simp [inLine, itself])
  | null =>
      refine ⟨['\x00'], .character (c := '\x00') .nil, ?_⟩
      have noDigit : rest.head?.any Char.isDigit = false := by
        rw [Option.any_eq_false]
        simpa using follows.1 rfl
      simp [unescape, noDigit]
  | @byte digits code width spells =>
      have bounded := spells.lt_of_length (by decide) width
      exact ⟨_, spells.isReadAs (by omega) 'x', unescape_byte width rest⟩
  | @unit digits code width spells =>
      have bounded := spells.lt_of_length (by decide) width
      have noBrace : '{' ∉ digits := notMem_of_numberBehind? spells.number (by decide)
      refine ⟨_, spells.isReadAs (by omega) 'u', unescape_unit width ?_ rest⟩
      exact fun begins => noBrace (List.mem_of_mem_head? begins)
  | @braced digits code bounded spells =>
      have noBrace : '}' ∉ digits := notMem_of_numberBehind? spells.number (by decide)
      refine ⟨_, spells.isReadAs bounded 'u', ?_⟩
      simpa using unescape_braced noBrace rest
  | @continuation c ends =>
      refine ⟨[], .nil, ?_⟩
      have other : c ≠ 'x' ∧ c ≠ 'u' ∧ c ≠ '0' := by
        refine ⟨?_, ?_, ?_⟩ <;> rintro rfl <;> contradiction
      refine (unescape_other other ?_).trans (by simp [ends])
      rintro rfl
      exact follows.2 rfl
  | twoContinuation => exact ⟨[], .nil, by simp [unescape]⟩

theorem IsBody.read {mark : Char} {body : List Char} {codes : List Nat}
    (isBody : IsBody mark body codes) : IsReadAs codes (unescape body) := by
  induction isBody with
  | nil => simpa [unescape] using IsReadAs.nil
  | part first follows _ induction =>
      obtain ⟨read, isRead, unescaped⟩ := first.read follows
      rw [unescaped]
      exact isRead.append induction

/-! ## Reading literals -/

section

variable {literal value : String} {mark : Char} {codes : List Nat}

/-- The value has as many characters as there are code units that lead. -/
theorem Denotes.length_le (denotes : Denotes literal mark codes value) :
    value.toList.length ≤ codes.length := by
  have leads (text : List Char) :
      (text.flatMap fun c => codeUnits c.toNat).countP isLeading = text.length := by
    induction text with
    | nil => rfl
    | cons c text induction =>
        simp [induction, countP_codeUnits_of_isScalar (isScalar_toNat c), Nat.add_comm]
  have most (codes : List Nat) : (codes.flatMap codeUnits).countP isLeading ≤
      codes.length := by
    induction codes with
    | nil => simp
    | cons code codes induction =>
        have first := countP_codeUnits_le code
        simp only [List.flatMap_cons, List.countP_append, List.length_cons]
        omega
  rw [← leads, ← denotes.units]
  exact most codes

theorem ofSource?_of_body {body : List Char} (isQuote : mark = '\'' ∨ mark = '"')
    (written : literal.toList = mark :: (body ++ [mark])) :
    StringLiteral.ofSource? literal = some ⟨String.ofList (unescape body), mark⟩ := by
  simp [StringLiteral.ofSource?, written, isQuote]

/-- A literal is read with its quote, and as the text that it denotes if and only
if no escape denotes a half. -/
theorem ofSource?_denotes (denotes : Denotes literal mark codes value) :
    ∃ read, StringLiteral.ofSource? literal = some ⟨read, mark⟩ ∧
      (read = value ↔ ∀ code ∈ codes, ¬ IsHalf code) := by
  obtain ⟨body, written, isBody⟩ := denotes.written
  have read := isBody.read
  refine ⟨_, ofSource?_of_body denotes.isQuote written, ?_⟩
  constructor
  · rintro rfl
    have longer := read.length_le
    have shorter := denotes.length_le
    rw [String.toList_ofList] at shorter
    have none : codes.countP (fun code => decide (IsHalf code)) = 0 := by omega
    simpa using none
  · intro whole
    have units := denotes.units
    rw [← read.map_toNat whole, List.flatMap_map] at units
    rw [eq_of_codeUnits units, String.ofList_toList]

end

/-- A zero in front of a line that goes on with a digit, and a character
with two code units. -/
theorem continued_literal :
    let literal := "'\\0\\\r\n1\\u{01F600}'"
    let value := "\x001😀"
    let codes := [0, 0x31, 0x1F600]
    Denotes literal '\'' codes value ∧
      ∃ read, StringLiteral.ofSource? literal = some ⟨read, '\''⟩ ∧
        (read = value ↔ ∀ code ∈ codes, ¬ IsHalf code) := by
  intro literal value codes
  have largest : IsPart '\'' "\\u{01F600}".toList [0x1F600] :=
    @IsPart.braced '\'' "01F600".toList 0x1F600 (by decide) ⟨1, by decide⟩
  have digit : IsPart '\'' ['1'] [0x31] :=
    @IsPart.plain '\'' '1' (by decide) (by decide) (by decide) (by decide)
  have denotes : Denotes literal '\'' codes value := by
    refine ⟨.inl rfl, ⟨_, ?_, .part .null ?_ (.part .twoContinuation ?_ (.part digit ?_
      (.part largest ?_ .nil)))⟩, by decide⟩
    · decide
    all_goals simp [MayPrecede]
  exact ⟨denotes, ofSource?_denotes denotes⟩

/-- Two escapes that denote the halves of one character are not read
as that character. -/
theorem escaped_pair :
    let literal := "'\\ud83d\\ude00'"
    Denotes literal '\'' [0xD83D, 0xDE00] "😀" ∧
      StringLiteral.ofSource? literal = some ⟨"ud83dude00", '\''⟩ ∧
      "ud83dude00" ≠ "😀" := by
  intro literal
  have first : IsPart '\'' "\\ud83d".toList [0xD83D] :=
    @IsPart.unit '\'' "d83d".toList 0xD83D rfl ⟨0, by decide⟩
  have second : IsPart '\'' "\\ude00".toList [0xDE00] :=
    @IsPart.unit '\'' "de00".toList 0xDE00 rfl ⟨0, by decide⟩
  refine ⟨⟨.inl rfl, ⟨_, ?_, .part first ?_ (.part second ?_ .nil)⟩, by decide⟩,
    ?_, by decide⟩
  · decide
  · simp [MayPrecede]
  · simp [MayPrecede]
  · decide +kernel

end VuePrecompiler.Javascript
