import VuePrecompiler.Javascript.StringLiteral
import VuePrecompiler.Proofs.CursorMoves

/-!
# Balanced code

A scan of a text passes string and template literals, with a backslash in
them that takes the next character, and matches the brackets outside of them.
A text is balanced if the scan closes everything that it opens and meets no
backslash outside of a literal.  What brackets are open around a text does not
matter to its scan, so balanced texts can be put together anywhere in code.
-/

namespace VuePrecompiler.Javascript

open Text

inductive Quote where
  | single
  | double
  | back
deriving DecidableEq, Repr

def Quote.char : Quote → Char
  | .single => '\''
  | .double => '"'
  | .back => '\x60'

inductive Bracket where
  | round
  | square
  | curly
deriving DecidableEq, Repr

def Bracket.opener : Bracket → Char
  | .round => '('
  | .square => '['
  | .curly => '{'

def Bracket.closer : Bracket → Char
  | .round => ')'
  | .square => ']'
  | .curly => '}'

/-- What a character is to a scan. -/
inductive CharRole where
  | plain
  | backslash
  | quote (mark : Quote)
  | opening (bracket : Bracket)
  | closing (bracket : Bracket)
deriving DecidableEq, Repr

def charRole (c : Char) : CharRole :=
  match c with
  | '\\' => .backslash
  | '\'' => .quote .single
  | '"' => .quote .double
  | '\x60' => .quote .back
  | '(' => .opening .round
  | '[' => .opening .square
  | '{' => .opening .curly
  | ')' => .closing .round
  | ']' => .closing .square
  | '}' => .closing .curly
  | _ => .plain

/-- In code, in a literal, or behind a backslash in a literal. -/
inductive ScanMode where
  | code
  | literal (mark : Quote)
  | escaped (mark : Quote)
deriving DecidableEq, Repr

/-- The brackets that are open, the innermost first, and the mode. -/
structure ScanState where
  brackets : List Bracket
  mode : ScanMode
deriving DecidableEq, Repr

namespace ScanState

/-- In code, with nothing open. -/
def outside : ScanState := ⟨[], .code⟩

def close? (brackets : List Bracket) (bracket : Bracket) : Option ScanState :=
  match brackets with
  | innermost :: outer => if bracket = innermost then some ⟨outer, .code⟩ else none
  | [] => none

/-- Scan one character. -/
def step? (state : ScanState) (c : Char) : Option ScanState :=
  match state.mode with
  | .code =>
    match charRole c with
    | .plain => some state
    | .backslash => none
    | .quote mark => some ⟨state.brackets, .literal mark⟩
    | .opening bracket => some ⟨bracket :: state.brackets, .code⟩
    | .closing bracket => close? state.brackets bracket
  | .literal mark =>
    match charRole c with
    | .backslash => some ⟨state.brackets, .escaped mark⟩
    | .quote other => some (if other = mark then ⟨state.brackets, .code⟩ else state)
    | _ => some state
  | .escaped mark => some ⟨state.brackets, .literal mark⟩

/-- A state with further brackets open around it. -/
def inside (state : ScanState) (outer : List Bracket) : ScanState :=
  ⟨state.brackets ++ outer, state.mode⟩

end ScanState

/-- Scan a text, as far as it can be. -/
def scan? (state : ScanState) : List Char → Option ScanState
  | [] => some state
  | c :: rest =>
    match state.step? c with
    | some next => scan? next rest
    | none => none

/-- A scan of a text leads from one state to another. -/
def Leads (before : ScanState) (text : String) (after : ScanState) : Prop :=
  scan? before text.toList = some after

instance (before : ScanState) (text : String) (after : ScanState) :
    Decidable (Leads before text after) :=
  inferInstanceAs (Decidable (_ = _))

/-- Everything that a text opens is closed in it, and no backslash stands
outside of literals. -/
def IsBalanced (text : String) : Prop :=
  Leads .outside text .outside

instance (text : String) : Decidable (IsBalanced text) :=
  inferInstanceAs (Decidable (Leads _ _ _))

def isQuotable (c : Char) : Bool :=
  match charRole c with
  | .backslash => false
  | .quote _ => false
  | _ => true

/-- A text can stand in any literal, as it is. -/
def IsQuotable (text : String) : Prop :=
  ∀ c ∈ text.toList, isQuotable c = true

/-! ## Scans -/

theorem scan?_cons {state next : ScanState} {c : Char}
    (step : state.step? c = some next)
    (rest : List Char) : scan? state (c :: rest) = scan? next rest := by
  rw [scan?, step]

theorem scan?_append (state : ScanState) (left right : List Char) :
    scan? state (left ++ right) = (scan? state left).bind (scan? · right) := by
  induction left generalizing state with
  | nil => rfl
  | cons c left induction =>
      rw [List.cons_append, scan?, scan?]
      cases state.step? c with
      | none => rfl
      | some next => exact induction next

theorem ScanState.step?_inside {state next : ScanState} {c : Char}
    (outer : List Bracket) (step : state.step? c = some next) :
    (state.inside outer).step? c = some (next.inside outer) := by
  rcases state with ⟨brackets, mode⟩
  cases mode with
  | escaped mark =>
      cases step
      rfl
  | literal mark =>
      simp only [step?] at step
      simp only [inside, step?]
      split at step
      · cases step
        rfl
      · cases step
        split <;> rfl
      · cases step
        rfl
  | code =>
      simp only [step?] at step
      simp only [inside, step?]
      split at step
      · cases step
        rfl
      · contradiction
      · cases step
        rfl
      · cases step
        rfl
      · next bracket role =>
        cases brackets with
        | nil => contradiction
        | cons innermost rest =>
            rw [close?] at step
            split at step
            · next same =>
              cases step
              rw [List.cons_append, close?, if_pos same]
            · contradiction

/-- Further brackets around a text do not matter to its scan. -/
theorem scan?_inside {state after : ScanState} {text : List Char}
    (outer : List Bracket) (scanned : scan? state text = some after) :
    scan? (state.inside outer) text = some (after.inside outer) := by
  induction text generalizing state with
  | nil =>
      cases scanned
      rfl
  | cons c rest induction =>
      rw [scan?] at scanned
      split at scanned
      · next next step =>
        rw [scan?_cons (ScanState.step?_inside outer step)]
        exact induction scanned
      · contradiction

/-- A text of characters that each leave a state as it is leaves it as it is. -/
theorem scan?_self {state : ScanState} {text : List Char}
    (stays : ∀ c ∈ text, state.step? c = some state) :
    scan? state text = some state := by
  induction text with
  | nil => rfl
  | cons c rest induction =>
      rw [scan?_cons (stays c List.mem_cons_self)]
      exact induction fun other later => stays other (List.mem_cons_of_mem _ later)

/-! ## Characters -/

/-- The characters that are not plain. -/
def specialChars : List Char :=
  ['\\', '\'', '"', '\x60', '(', '[', '{', ')', ']', '}']

theorem charRole_eq_plain {c : Char} (other : c ∉ specialChars) :
    charRole c = .plain := by
  unfold charRole
  split
  all_goals first
    | rfl
    | exact absurd (by decide) other

/-- A test that no special character passes leaves plain characters only. -/
theorem charRole_of_test {test : Char → Bool} {c : Char} (passes : test c = true)
    (excludes : specialChars.all (!test ·) = true) : charRole c = .plain := by
  refine charRole_eq_plain fun special => ?_
  have excluded := List.all_eq_true.mp excludes c special
  rw [passes] at excluded
  contradiction

/-- The character of a role; a plain one can be any other. -/
def CharRole.char? : CharRole → Option Char
  | .plain => none
  | .backslash => some '\\'
  | .quote mark => some mark.char
  | .opening bracket => some bracket.opener
  | .closing bracket => some bracket.closer

theorem eq_of_charRole {c own : Char} {role : CharRole} (is : charRole c = role)
    (isOwn : role.char? = some own) : c = own := by
  subst is
  unfold charRole at isOwn
  split at isOwn
  all_goals first
    | exact Option.some.inj isOwn
    | contradiction

theorem isQuotable_of_plain {c : Char} (plain : charRole c = .plain) :
    isQuotable c = true := by
  rw [isQuotable, plain]

/-- A test that no quote and no backslash passes leaves quotable characters only. -/
theorem isQuotable_of_test {test : Char → Bool} {c : Char} (passes : test c = true)
    (excludes : ['\\', '\'', '"', '\x60'].all (!test ·) = true) :
    isQuotable c = true := by
  have excluded {special : Char} (member : special ∈ ['\\', '\'', '"', '\x60']) :
      c ≠ special := by
    rintro rfl
    have fails := List.all_eq_true.mp excludes c member
    rw [passes] at fails
    contradiction
  unfold isQuotable
  split
  · next role => exact absurd (eq_of_charRole role rfl) (excluded (by decide))
  · next mark role =>
    refine absurd (eq_of_charRole role rfl) (excluded ?_)
    cases mark <;> decide
  · rfl

theorem ScanState.step?_plain {c : Char} (plain : charRole c = .plain)
    (brackets : List Bracket) :
    step? ⟨brackets, .code⟩ c = some ⟨brackets, .code⟩ := by
  simp only [step?, plain]

/-- All characters but a backslash and the quote of a literal can stand in it. -/
theorem ScanState.step?_literal {c : Char} {mark : Quote}
    (noBackslash : charRole c ≠ .backslash)
    (inner : charRole c ≠ .quote mark) (brackets : List Bracket) :
    step? ⟨brackets, .literal mark⟩ c = some ⟨brackets, .literal mark⟩ := by
  simp only [step?]
  split
  · next role => exact absurd role noBackslash
  · next other role =>
    have different : other ≠ mark := by
      rintro rfl
      exact inner role
    rw [if_neg different]
  · rfl

theorem ScanState.step?_quotable {c : Char} (quotable : isQuotable c = true)
    (brackets : List Bracket) (mark : Quote) :
    step? ⟨brackets, .literal mark⟩ c = some ⟨brackets, .literal mark⟩ := by
  refine step?_literal ?_ ?_ brackets
  · intro role
    rw [isQuotable, role] at quotable
    contradiction
  · intro role
    rw [isQuotable, role] at quotable
    contradiction

theorem IsQuotable.fixed {chars : List Char} (quotable : chars.all isQuotable = true) :
    IsQuotable (String.ofList chars) := by
  rw [IsQuotable, String.toList_ofList]
  exact List.all_eq_true.mp quotable

theorem IsQuotable.append {left right : String} (front : IsQuotable left)
    (behind : IsQuotable right) : IsQuotable (left ++ right) := by
  rw [IsQuotable, String.toList_append]
  exact List.forall_mem_append.mpr ⟨front, behind⟩

theorem IsQuotable.ite {condition : Prop} [Decidable condition] {left right : String}
    (first : IsQuotable left) (second : IsQuotable right) :
    IsQuotable (if condition then left else right) := by
  split
  · exact first
  · exact second

/-! ## Texts put together -/

namespace Leads

variable {before middle after : ScanState} {brackets : List Bracket} {mark : Quote}
variable {text rest : String}

theorem append (front : Leads before text middle) (behind : Leads middle rest after) :
    Leads before (text ++ rest) after := by
  rw [Leads, String.toList_append, scan?_append, front]
  exact behind

/-- A fixed text is scanned by evaluation. -/
theorem fixed {chars : List Char} (scanned : scan? before chars = some after) :
    Leads before (String.ofList chars) after := by
  rw [Leads, String.toList_ofList, scanned]

theorem fixed_append {chars : List Char} (scanned : scan? before chars = some middle)
    (behind : Leads middle rest after) :
    Leads before (String.ofList chars ++ rest) after :=
  (fixed scanned).append behind

theorem balanced (balanced : IsBalanced text) :
    Leads ⟨brackets, .code⟩ text ⟨brackets, .code⟩ :=
  scan?_inside brackets balanced

theorem balanced_append (balanced : IsBalanced text)
    (behind : Leads ⟨brackets, .code⟩ rest after) :
    Leads ⟨brackets, .code⟩ (text ++ rest) after :=
  (Leads.balanced balanced).append behind

theorem quotable_append (quotable : IsQuotable text)
    (behind : Leads ⟨brackets, .literal mark⟩ rest after) :
    Leads ⟨brackets, .literal mark⟩ (text ++ rest) after :=
  append (scan?_self fun c member => ScanState.step?_quotable (quotable c member) _ _)
    behind

end Leads

namespace IsBalanced

variable {text left right : String}

theorem empty : IsBalanced "" :=
  .fixed rfl

theorem append (front : IsBalanced left) (behind : IsBalanced right) :
    IsBalanced (left ++ right) :=
  Leads.append front behind

theorem ite {condition : Prop} [Decidable condition] (first : IsBalanced left)
    (second : IsBalanced right) : IsBalanced (if condition then left else right) := by
  split
  · exact first
  · exact second

theorem intercalate {separator : String} {parts : List String}
    (between : IsBalanced separator) (each : ∀ part ∈ parts, IsBalanced part) :
    IsBalanced (separator.intercalate parts) := by
  induction parts with
  | nil => exact empty
  | cons part rest induction =>
      have first := each part List.mem_cons_self
      have others :=
        induction fun other later => each other (List.mem_cons_of_mem _ later)
      cases rest with
      | nil => rwa [String.intercalate_singleton]
      | cons next rest =>
          rw [String.intercalate_cons_cons]
          exact (first.append between).append others

theorem join {parts : List String} (each : ∀ part ∈ parts, IsBalanced part) :
    IsBalanced (String.join parts) := by
  induction parts with
  | nil => exact empty
  | cons part rest induction =>
      rw [String.join_cons]
      exact (each part List.mem_cons_self).append
        (induction fun other later => each other (List.mem_cons_of_mem _ later))

theorem plain (each : ∀ c ∈ text.toList, charRole c = .plain) : IsBalanced text :=
  scan?_self fun c member => ScanState.step?_plain (each c member) []

theorem number (value : Nat) : IsBalanced (toString value) := by
  refine plain fun c member => ?_
  rw [Nat.toString_eq_ofList_toDigits, String.toList_ofList] at member
  have digit := Nat.isDigit_of_mem_toDigits (by decide) (by decide) member
  exact charRole_of_test digit (by decide)

end IsBalanced

/-! ## Literals -/

theorem scan?_jsonChar (brackets : List Bracket) (c : Char) :
    scan? ⟨brackets, .literal .double⟩ (jsonChar c) =
      some ⟨brackets, .literal .double⟩ := by
  unfold jsonChar
  split
  · rfl
  · rfl
  · rfl
  · rfl
  · rfl
  · rfl
  · rfl
  · next noQuote noBackslash _ _ _ _ _ =>
    split
    · next control =>
      have digits : ∀ code < 0x20, (hexDigits 4 code).all isQuotable = true := by
        decide +kernel
      rw [@scan?_cons _ ⟨brackets, .escaped .double⟩ _ rfl,
        @scan?_cons _ ⟨brackets, .literal .double⟩ _ rfl]
      exact scan?_self fun digit member =>
        ScanState.step?_quotable (List.all_eq_true.mp (digits c.toNat control) digit
          member) brackets .double
    · refine scan?_self fun other member => ?_
      rw [List.mem_singleton.mp member]
      exact ScanState.step?_literal (fun role => noBackslash (eq_of_charRole role rfl))
        (fun role => noQuote (eq_of_charRole role rfl)) brackets

theorem scan?_literalChar (brackets : List Bracket) (c : Char) :
    scan? ⟨brackets, .literal .double⟩ (literalChar c) =
      some ⟨brackets, .literal .double⟩ := by
  unfold literalChar
  split
  · exact Leads.fixed rfl
  · exact Leads.fixed rfl
  · exact scan?_jsonChar brackets c

/-- A literal is balanced, whatever its value. -/
theorem IsBalanced.literal (value : String) : IsBalanced (literal value) := by
  have body (chars : List Char) :
      scan? ⟨[], .literal .double⟩ (chars.flatMap literalChar) =
        some ⟨[], .literal .double⟩ := by
    induction chars with
    | nil => rfl
    | cons c chars induction =>
        rw [List.flatMap_cons, scan?_append, scan?_literalChar]
        exact induction
  rw [IsBalanced, Leads, Javascript.literal, String.toList_ofList, List.cons_append,
    @scan?_cons _ ⟨[], .literal .double⟩ _ rfl, scan?_append, body]
  rfl

/-! ## Blanks -/

theorem charRole_of_isBlank {c : Char} (blank : isBlank c = true) :
    charRole c = .plain :=
  charRole_of_test blank (by decide)

theorem scan?_blanks (brackets : List Bracket) {blanks : List Char}
    (blank : ∀ c ∈ blanks, isBlank c = true) :
    scan? ⟨brackets, .code⟩ blanks = some ⟨brackets, .code⟩ :=
  scan?_self fun c member =>
    ScanState.step?_plain (charRole_of_isBlank (blank c member)) brackets

theorem scan?_blanks_literal (brackets : List Bracket) (mark : Quote)
    {blanks : List Char} (blank : ∀ c ∈ blanks, isBlank c = true) :
    scan? ⟨brackets, .literal mark⟩ blanks = some ⟨brackets, .literal mark⟩ :=
  scan?_self fun c member => ScanState.step?_quotable
    (isQuotable_of_plain (charRole_of_isBlank (blank c member))) brackets mark

/-- Blanks lead into code from code only. -/
theorem eq_of_scan?_blanks {before : ScanState} {brackets : List Bracket}
    {blanks : List Char} (blank : ∀ c ∈ blanks, isBlank c = true)
    (scanned : scan? before blanks = some ⟨brackets, .code⟩) :
    before = ⟨brackets, .code⟩ := by
  rcases before with ⟨opened, mode⟩
  cases mode with
  | code =>
      rw [scan?_blanks opened blank] at scanned
      exact Option.some.inj scanned
  | literal mark =>
      rw [scan?_blanks_literal opened mark blank] at scanned
      cases scanned
  | escaped mark =>
      cases blanks with
      | nil => cases scanned
      | cons c rest =>
          -- Behind the escaped character the literal is still open.
          have later := scan?_blanks_literal opened mark
            fun other member => blank other (List.mem_cons_of_mem c member)
          rw [@scan?_cons _ ⟨opened, .literal mark⟩ _ rfl, later] at scanned
          cases scanned

/-- Code without the blanks around it is balanced as before. -/
theorem IsBalanced.trimmed {text : String} (balanced : IsBalanced text) :
    IsBalanced (trimmed text) := by
  obtain ⟨before, after, parts, blankBefore, blankAfter⟩ := exists_trim text.toList
  rw [IsBalanced, Leads, parts, scan?_append, scan?_append] at balanced
  rw [ScanState.outside, scan?_blanks [] blankBefore, Option.bind_some] at balanced
  obtain ⟨middle, scanned, ending⟩ := Option.bind_eq_some_iff.mp balanced
  have same := eq_of_scan?_blanks blankAfter ending
  rw [IsBalanced, Leads, Text.trimmed, String.toList_ofList]
  exact scanned.trans (congrArg some same)

end VuePrecompiler.Javascript
