import VuePrecompiler.Command.Report
import VuePrecompiler.Proofs.Numbers
import VuePrecompiler.Proofs.Segments
import VuePrecompiler.Proofs.Separators

/-!
# Lines for machines

A report for machines has colons between the six fields of a diagnostic.  A
backslash marks the colons of the message, but not those of the file.  So a line
always determines its fields, and they are found by cutting it at the colons
without a mark exactly if the file does not disturb the cuts.
-/

namespace VuePrecompiler.Command

open Build Text

/-! ## Reading a line -/

/-- What a line for machines says about a diagnostic. -/
structure MachineFields where
  file : String
  line : Nat
  column : Nat
  severity : Severity
  reason : Reason
  message : String
deriving DecidableEq, Repr

/-- The pieces of a text between the colons without a backslash in front, given
the character before the text.  A piece begins as a text behind a colon does. -/
def piecesBehind (previous : Char) : List Char → List (List Char)
  | [] => [[]]
  | c :: rest =>
    if c = ':' ∧ previous ≠ '\\' then [] :: piecesBehind c rest
    else (piecesBehind c rest).modifyHead (c :: ·)

/-- Undo the marks of colons. -/
def unmarked : List Char → List Char
  | [] => []
  | '\\' :: ':' :: rest => ':' :: unmarked rest
  | c :: rest => c :: unmarked rest

def severityOfText? (text : List Char) : Option Severity :=
  [Severity.error, .warning].find? fun severity => severity.text.toList == text

def reasonOfText? (text : List Char) : Option Reason :=
  [Reason.parseFailure, .unsupportedShape, .unsupportedPipeline, .compileFailure].find?
    fun reason => reason.text.toList == text

namespace MachineFields

def ofDiagnostic (diagnostic : Diagnostic) (source : Option String) :
    MachineFields where
  file := diagnostic.file.text
  line := (place diagnostic source).1
  column := (place diagnostic source).2
  severity := diagnostic.severity
  reason := diagnostic.reason
  message := diagnostic.message

/-- The fields that six pieces say. -/
def ofPieces? : List (List Char) → Option MachineFields
  | [file, line, column, severity, reason, message] => do
    let line ← number? 10 line
    let column ← number? 10 column
    let severity ← severityOfText? severity
    let reason ← reasonOfText? reason
    return ⟨String.ofList file, line, column, severity, reason, String.ofList message⟩
  | _ => none

/-- Read a line: cut it at the colons without a mark, and undo the marks. -/
def ofLine? (line : List Char) : Option MachineFields :=
  ofPieces? ((piecesBehind ':' line).map unmarked)

end MachineFields

/-- Lines as they are printed, each with its end. -/
def printedLines (lines : List String) : List Char :=
  lines.flatMap fun line => line.toList ++ ['\n']

/-- Read what was printed, line by line. -/
def readLines (output : List Char) : List (Option MachineFields) :=
  (splitOnChar '\n' output).dropLast.map MachineFields.ofLine?

/-! ## Cutting at colons -/

section

variable {previous : Char} {text left right : List Char}

theorem piecesBehind_ne_nil (previous : Char) (text : List Char) :
    piecesBehind previous text ≠ [] := by
  induction text generalizing previous with
  | nil => exact List.cons_ne_nil _ _
  | cons c rest induction =>
      rw [piecesBehind]
      split
      · exact List.cons_ne_nil _ _
      · obtain ⟨first, later, pieces⟩ := List.exists_cons_of_ne_nil (induction c)
        rw [pieces, List.modifyHead_cons]
        exact List.cons_ne_nil _ _

theorem piecesBehind_colon (unmarked : previous ≠ '\\') (rest : List Char) :
    piecesBehind previous (':' :: rest) = [] :: piecesBehind ':' rest := by
  rw [piecesBehind, if_pos ⟨rfl, unmarked⟩]

theorem piecesBehind_cons_of_ne {c : Char} (other : c ≠ ':') (rest : List Char) :
    piecesBehind previous (c :: rest) = (piecesBehind c rest).modifyHead (c :: ·) := by
  rw [piecesBehind, if_neg fun separates => other separates.1]

theorem piecesBehind_of_notMem (plain : ':' ∉ text) :
    piecesBehind previous text = [text] := by
  induction text generalizing previous with
  | nil => rfl
  | cons c rest induction =>
      rw [List.mem_cons, not_or] at plain
      rw [piecesBehind_cons_of_ne (Ne.symm plain.1), induction plain.2,
        List.modifyHead_cons]

/-- A colon without a mark parts the pieces on its sides. -/
theorem piecesBehind_append (unmarked : (previous :: left).getLast? ≠ some '\\') :
    piecesBehind previous (left ++ ':' :: right) =
      piecesBehind previous left ++ piecesBehind ':' right := by
  induction left generalizing previous with
  | nil =>
      exact piecesBehind_colon (fun same => unmarked (congrArg some same)) right
  | cons c left induction =>
      rw [List.getLast?_cons_cons] at unmarked
      rw [List.cons_append, piecesBehind, piecesBehind, induction unmarked]
      split
      · rw [List.cons_append]
      · obtain ⟨first, later, pieces⟩ :=
          List.exists_cons_of_ne_nil (piecesBehind_ne_nil c left)
        rw [pieces, List.cons_append, List.modifyHead_cons, List.modifyHead_cons,
          List.cons_append]

/-- A colon with a mark stays within the first piece. -/
theorem piecesBehind_append_of_marked (plain : ':' ∉ left)
    (marked : (previous :: left).getLast? = some '\\') :
    piecesBehind previous (left ++ ':' :: right) =
      (piecesBehind ':' right).modifyHead (left ++ ':' :: ·) := by
  induction left generalizing previous with
  | nil =>
      have same : previous = '\\' := Option.some.inj marked
      rw [List.nil_append, piecesBehind, if_neg fun separates => separates.2 same]
      rfl
  | cons c left induction =>
      rw [List.mem_cons, not_or] at plain
      rw [List.getLast?_cons_cons] at marked
      rw [List.cons_append, piecesBehind_cons_of_ne (Ne.symm plain.1),
        induction plain.2 marked, List.modifyHead_modifyHead]
      rfl

/-- A field that is cut out as it is. -/
structure IsWhole (text : List Char) : Prop where
  noColon : ':' ∉ text
  /-- The colon behind the field is not marked. -/
  noMark : text.getLast? ≠ some '\\'

theorem IsWhole.of_all (plain : text.all (fun c => c != ':' && c != '\\') = true) :
    IsWhole text := by
  simp only [List.all_eq_true, Bool.and_eq_true, bne_iff_ne] at plain
  exact ⟨fun member => (plain _ member).1 rfl,
    fun last => (plain _ (List.mem_of_getLast? last)).2 rfl⟩

theorem IsWhole.piecesBehind_append (whole : IsWhole text) (rest : List Char) :
    piecesBehind ':' (text ++ ':' :: rest) = text :: piecesBehind ':' rest := by
  have unmarked : (':' :: text).getLast? ≠ some '\\' := by
    cases text with
    | nil => decide
    | cons c text =>
        rw [List.getLast?_cons_cons]
        exact whole.noMark
  rw [Command.piecesBehind_append unmarked, piecesBehind_of_notMem whole.noColon]
  rfl

end

/-! ## Marks -/

/-- A text with a backslash in front of each colon. -/
def marked (text : List Char) : List Char :=
  text.flatMap fun c => if c == ':' then ['\\', ':'] else [c]

theorem marked_cons_colon (text : List Char) :
    marked (':' :: text) = '\\' :: ':' :: marked text :=
  rfl

theorem marked_cons_of_ne {c : Char} (other : c ≠ ':') (text : List Char) :
    marked (c :: text) = c :: marked text := by
  rw [marked, List.flatMap_cons, if_neg (by simpa using other)]
  rfl

theorem head?_marked (text : List Char) : (marked text).head? ≠ some ':' := by
  cases text with
  | nil => nofun
  | cons c text =>
      by_cases colon : c = ':'
      · subst colon
        rw [marked_cons_colon, List.head?_cons]
        decide
      · rw [marked_cons_of_ne colon, List.head?_cons]
        exact fun same => colon (Option.some.inj same)

/-- All colons of a marked text belong to its only piece. -/
theorem piecesBehind_marked (previous : Char) (text : List Char) :
    piecesBehind previous (marked text) = [marked text] := by
  induction text generalizing previous with
  | nil => rfl
  | cons c text induction =>
      by_cases colon : c = ':'
      · subst colon
        rw [marked_cons_colon, piecesBehind_cons_of_ne (by decide), piecesBehind,
          if_neg fun separates => separates.2 rfl, induction]
        rfl
      · rw [marked_cons_of_ne colon, piecesBehind_cons_of_ne colon, induction]
        rfl

theorem unmarked_cons {c : Char} {rest : List Char} (other : rest.head? ≠ some ':') :
    unmarked (c :: rest) = c :: unmarked rest := by
  cases rest with
  | nil => simp [unmarked]
  | cons next rest =>
      have notColon : next ≠ ':' := fun same => other (congrArg some same)
      rw [unmarked]
      rintro rest rfl same
      exact notColon (List.cons.inj same).1

theorem unmarked_marked (text : List Char) : unmarked (marked text) = text := by
  induction text with
  | nil => rfl
  | cons c text induction =>
      by_cases colon : c = ':'
      · subst colon
        rw [marked_cons_colon, unmarked, induction]
      · rw [marked_cons_of_ne colon, unmarked_cons (head?_marked text), induction]

theorem marked_injective : Function.Injective marked :=
  Function.LeftInverse.injective unmarked_marked

/-- In front of a colon that is marked, a text without colons stays as it is. -/
theorem unmarked_append {left : List Char} (plain : ':' ∉ left) (right : List Char) :
    unmarked (left ++ '\\' :: ':' :: right) = left ++ ':' :: unmarked right := by
  induction left with
  | nil => rw [List.nil_append, unmarked, List.nil_append]
  | cons c left induction =>
      rw [List.mem_cons, not_or] at plain
      have next : (left ++ '\\' :: ':' :: right).head? ≠ some ':' := by
        cases left with
        | nil =>
            rw [List.nil_append, List.head?_cons]
            decide
        | cons d left =>
            intro same
            exact plain.2 (Option.some.inj same ▸ List.mem_cons_self)
      rw [List.cons_append, unmarked_cons next, induction plain.2, List.cons_append]

theorem unmarked_of_notMem {text : List Char} (plain : ':' ∉ text) :
    unmarked text = text := by
  induction text with
  | nil => rfl
  | cons c text induction =>
      rw [List.mem_cons, not_or] at plain
      have next : text.head? ≠ some ':' :=
        fun first => plain.2 (List.mem_of_head? first)
      rw [unmarked_cons next, induction plain.2]

/-! ## The line of a diagnostic -/

/-- What can be read back from a text determines it. -/
theorem injective_of_read {α : Type} {text : α → List Char}
    {read? : List Char → Option α} (reads : ∀ value, read? (text value) = some value) :
    Function.Injective text := by
  intro left right same
  have read := congrArg read? same
  rw [reads, reads] at read
  exact Option.some.inj read

theorem severityOfText?_text (severity : Severity) :
    severityOfText? severity.text.toList = some severity := by
  cases severity <;> decide

theorem reasonOfText?_text (reason : Reason) :
    reasonOfText? reason.text.toList = some reason := by
  cases reason <;> decide

theorem isWhole_severity (severity : Severity) : IsWhole severity.text.toList := by
  cases severity <;> exact .of_all (by decide)

theorem isWhole_reason (reason : Reason) : IsWhole reason.text.toList := by
  cases reason <;> exact .of_all (by decide)

theorem isDigit_of_mem {n : Nat} {c : Char} (member : c ∈ Nat.toDigits 10 n) :
    c.isDigit = true :=
  Nat.isDigit_of_mem_toDigits (by decide) (by decide) member

theorem isWhole_toDigits (n : Nat) : IsWhole (Nat.toDigits 10 n) where
  noColon := fun member => absurd (isDigit_of_mem member) (by decide)
  noMark := fun last => absurd (isDigit_of_mem (List.mem_of_getLast? last)) (by decide)

theorem number?_toDigits (n : Nat) : number? 10 (Nat.toDigits 10 n) = some n := by
  have number : numberBehind? 10 0 (Nat.toDigits 10 n) = some n :=
    numberBehind?_toDigits (by decide) (by decide) n
  have nonempty : Nat.toDigits 10 n ≠ [] := Nat.toDigits_ne_nil
  obtain ⟨first, later, digits⟩ := List.exists_cons_of_ne_nil nonempty
  rw [digits] at number ⊢
  exact number

namespace MachineFields

variable (fields : MachineFields)

/-- The line that says the fields. -/
def text : String :=
  String.intercalate ":"
    [fields.file, toString fields.line, toString fields.column, fields.severity.text,
      fields.reason.text, withMarkedColons fields.message]

/-- The fields behind the line and the column. -/
def tail : List Char :=
  Nat.toDigits 10 fields.column ++ ':' :: (fields.severity.text.toList
    ++ ':' :: (fields.reason.text.toList ++ ':' :: marked fields.message.toList))

theorem diagnosticText_machine (diagnostic : Diagnostic) (source : Option String) :
    diagnosticText .machine diagnostic source =
      (ofDiagnostic diagnostic source).text := rfl

theorem toList_text : fields.text.toList =
    fields.file.toList ++ ':' ::
      (Nat.toDigits 10 fields.line ++ ':' :: fields.tail) := by
  simp [text, tail, withMarkedColons, marked, Nat.toList_repr]

theorem piecesBehind_tail : piecesBehind ':' fields.tail =
    [Nat.toDigits 10 fields.column, fields.severity.text.toList,
      fields.reason.text.toList, marked fields.message.toList] := by
  rw [tail, (isWhole_toDigits _).piecesBehind_append,
    (isWhole_severity _).piecesBehind_append,
    (isWhole_reason _).piecesBehind_append, piecesBehind_marked]

/-! ### A line determines its fields -/

/-- The file and the line, with the colon between them. -/
def front : List Char :=
  fields.file.toList ++ ':' :: Nat.toDigits 10 fields.line

theorem toList_text_eq_front :
    fields.text.toList = fields.front ++ ':' :: fields.tail := by
  rw [toList_text, front, List.append_assoc, List.cons_append]

/-- The colon behind the line is not marked, whatever the file is. -/
theorem getLast?_front : (':' :: fields.front).getLast? ≠ some '\\' := by
  have nonempty : Nat.toDigits 10 fields.line ≠ [] := Nat.toDigits_ne_nil
  have last :
      (':' :: fields.front).getLast? = (Nat.toDigits 10 fields.line).getLast? := by
    rw [front, ← List.cons_append, List.getLast?_append_cons,
      List.getLast?_cons_of_ne_nil nonempty]
  rw [last]
  exact (isWhole_toDigits _).noMark

theorem piecesBehind_text :
    piecesBehind ':' fields.text.toList =
      piecesBehind ':' fields.front ++ piecesBehind ':' fields.tail := by
  rw [toList_text_eq_front, piecesBehind_append fields.getLast?_front]

variable {fields}
variable {other : MachineFields}

/-- No digit is a colon, so the last colon is the one in front of the line. -/
theorem of_front_eq (same : fields.front = other.front) :
    fields.file = other.file ∧ fields.line = other.line := by
  have noColon (n : Nat) : ':' ∉ (Nat.toDigits 10 n).reverse := fun member =>
    (isWhole_toDigits n).noColon (List.mem_reverse.mp member)
  have turned (fields : MachineFields) : fields.front.reverse =
      (Nat.toDigits 10 fields.line).reverse ++ ':' :: fields.file.toList.reverse := by
    rw [front, List.reverse_append, List.reverse_cons, List.append_assoc,
      List.singleton_append]
  have cut := splitOnce?_char (noColon fields.line) fields.file.toList.reverse
  rw [← turned, same, turned, splitOnce?_char (noColon other.line)] at cut
  obtain ⟨line, file⟩ := Prod.mk.inj (Option.some.inj cut)
  exact ⟨String.toList_injective (List.reverse_injective file).symm,
    injective_of_read number?_toDigits (List.reverse_injective line).symm⟩

/-- The last four pieces are fields even if the file disturbs the ones in front. -/
theorem text_inj : fields.text = other.text ↔ fields = other := by
  refine ⟨fun same => ?_, congrArg text⟩
  have pieces := congrArg (fun line => piecesBehind ':' line.toList) same
  rw [piecesBehind_text, piecesBehind_text] at pieces
  have tails :=
    List.append_inj_right' pieces (by rw [piecesBehind_tail, piecesBehind_tail]; rfl)
  rw [piecesBehind_tail, piecesBehind_tail] at tails
  injection tails with column later
  injection later with severity later
  injection later with reason later
  injection later with message
  have column := injective_of_read number?_toDigits column
  have severity := injective_of_read severityOfText?_text severity
  have reason := injective_of_read reasonOfText?_text reason
  have message := String.toList_injective (marked_injective message)
  have sameTail : fields.tail = other.tail := by
    rw [tail, tail, column, severity, reason, message]
  have whole := congrArg String.toList same
  rw [toList_text_eq_front, toList_text_eq_front, sameTail] at whole
  obtain ⟨file, line⟩ := of_front_eq (List.append_cancel_right whole)
  cases fields
  cases other
  simp_all only

/-! ### Reading the fields back -/

theorem file_of_ofPieces? {pieces : List (List Char)}
    (read : ofPieces? pieces = some fields) :
    pieces.head? = some fields.file.toList := by
  unfold ofPieces? at read
  split at read
  · simp only [Option.bind_eq_bind, Option.bind_eq_some_iff] at read
    obtain ⟨line, _, column, _, severity, _, reason, _, same⟩ := read
    cases same
    rw [List.head?_cons, String.toList_ofList]
  · contradiction

theorem ofLine?_text_of_isWhole (whole : IsWhole fields.file.toList) :
    ofLine? fields.text.toList = some fields := by
  have plain {field : List Char} (whole : IsWhole field) : unmarked field = field :=
    unmarked_of_notMem whole.noColon
  have pieces : (piecesBehind ':' fields.text.toList).map unmarked =
      [fields.file.toList, Nat.toDigits 10 fields.line, Nat.toDigits 10 fields.column,
        fields.severity.text.toList, fields.reason.text.toList,
        fields.message.toList] := by
    rw [toList_text, whole.piecesBehind_append,
      (isWhole_toDigits _).piecesBehind_append, piecesBehind_tail]
    simp only [List.map_cons, List.map_nil, unmarked_marked, plain whole,
      plain (isWhole_toDigits _), plain (isWhole_severity _), plain (isWhole_reason _)]
  rw [ofLine?, pieces, ofPieces?]
  simp [number?_toDigits, severityOfText?_text, reasonOfText?_text]

/-- A backslash in front of the first colon is lost. -/
theorem head?_pieces_ne {left : List Char} (plain : ':' ∉ left)
    (marked : left.getLast? = some '\\') (rest right : List Char) :
    ((piecesBehind ':' (left ++ ':' :: right)).map unmarked).head? ≠
      some (left ++ rest) := by
  obtain ⟨before, rfl⟩ := List.getLast?_eq_some_iff.mp marked
  have behindColon : (':' :: (before ++ ['\\'])).getLast? = some '\\' := by
    rw [← List.cons_append, List.getLast?_concat]
  obtain ⟨first, later, pieces⟩ :=
    List.exists_cons_of_ne_nil (piecesBehind_ne_nil ':' right)
  rw [piecesBehind_append_of_marked plain behindColon, pieces, List.modifyHead_cons,
    List.map_cons, List.head?_cons, List.append_assoc, List.append_assoc,
    List.singleton_append, List.singleton_append, unmarked_append fun member =>
      plain (List.mem_append_left _ member)]
  intro same
  have unequal := List.append_cancel_left (Option.some.inj same)
  injection unequal with colon
  exact absurd colon (by decide)

/-- The first piece of a line is not its file if the file disturbs the cuts. -/
theorem isWhole_of_ofLine? (read : ofLine? fields.text.toList = some fields) :
    IsWhole fields.file.toList := by
  have first := file_of_ofPieces? read
  rw [toList_text] at first
  generalize fields.file.toList = file at first ⊢
  have noColon : ':' ∉ file := by
    intro member
    obtain ⟨left, right, rfl, plain⟩ := List.eq_append_cons_of_mem member
    rw [List.append_assoc, List.cons_append] at first
    by_cases marked : left.getLast? = some '\\'
    · exact head?_pieces_ne plain marked _ _ first
    · rw [IsWhole.piecesBehind_append ⟨plain, marked⟩, List.map_cons, List.head?_cons,
        unmarked_of_notMem plain] at first
      exact absurd (Option.some.inj first) (by simp)
  refine ⟨noColon, fun marked => ?_⟩
  have lost := head?_pieces_ne noColon marked []
  rw [List.append_nil] at lost
  exact lost _ first

theorem ofLine?_text_iff :
    ofLine? fields.text.toList = some fields ↔ IsWhole fields.file.toList :=
  ⟨isWhole_of_ofLine?, ofLine?_text_of_isWhole⟩

theorem feed_mem_text_iff :
    '\n' ∈ fields.text.toList ↔
      '\n' ∈ fields.file.toList ∨ '\n' ∈ fields.message.toList := by
  have noFeed (n : Nat) : '\n' ∉ Nat.toDigits 10 n := fun member =>
    absurd (isDigit_of_mem member) (by decide)
  have noneInSeverity : '\n' ∉ fields.severity.text.toList := by
    cases fields.severity <;> decide
  have noneInReason : '\n' ∉ fields.reason.text.toList := by
    cases fields.reason <;> decide
  have inMarked (text : List Char) : '\n' ∈ marked text ↔ '\n' ∈ text := by
    constructor
    · intro member
      obtain ⟨c, inText, member⟩ := List.mem_flatMap.mp member
      split at member
      · simp at member
      · rwa [List.mem_singleton.mp member]
    · exact fun member => List.mem_flatMap.mpr ⟨'\n', member,
        List.mem_singleton_self _⟩
  simp [toList_text, tail, noFeed, noneInSeverity, noneInReason, inMarked]

end MachineFields

/-! ## The lines of a report -/

theorem count_printedLines (lines : List String) :
    (printedLines lines).count '\n' =
      (lines.flatMap String.toList).count '\n' + lines.length := by
  induction lines with
  | nil => rfl
  | cons line lines induction =>
      rw [printedLines, List.flatMap_cons, ← printedLines, List.count_append,
        List.count_append,
        induction, List.count_singleton_self, List.flatMap_cons, List.count_append,
        List.length_cons]
      omega

theorem count_printedLines_iff (lines : List String) :
    (printedLines lines).count '\n' = lines.length ↔
      ∀ line ∈ lines, '\n' ∉ line.toList := by
  rw [count_printedLines, Nat.add_eq_right, List.count_eq_zero, List.mem_flatMap]
  simp only [not_exists, not_and]

theorem splitOnChar_printedLines {lines : List String}
    (whole : ∀ line ∈ lines, '\n' ∉ line.toList) :
    splitOnChar '\n' (printedLines lines) = lines.map String.toList ++ [[]] := by
  induction lines with
  | nil => rfl
  | cons line lines induction =>
      obtain ⟨here, later⟩ := List.forall_mem_cons.mp whole
      rw [printedLines, List.flatMap_cons, ← printedLines, List.append_assoc,
        List.singleton_append, splitOnChar_append, splitOnChar_of_notMem here,
        induction later]
      rfl

theorem readLines_printedLines {lines : List String}
    (whole : ∀ line ∈ lines, '\n' ∉ line.toList) :
    readLines (printedLines lines) = lines.map fun line =>
      MachineFields.ofLine? line.toList := by
  rw [readLines, splitOnChar_printedLines whole, List.dropLast_concat, List.map_map]
  rfl

theorem length_readLines (output : List Char) :
    (readLines output).length = output.count '\n' := by
  rw [readLines, List.length_map, List.length_dropLast, length_splitOnChar,
    Nat.add_sub_cancel]

/-- A diagnostic whose line for machines is one line that the cuts read back. -/
structure IsReadable (diagnostic : Diagnostic) : Prop where
  whole : IsWhole diagnostic.file.text.toList
  fileOnOneLine : '\n' ∉ diagnostic.file.text.toList
  messageOnOneLine : '\n' ∉ diagnostic.message.toList

/-- What is printed for machines about diagnostics, each with the text of its
module if that is known. -/
def machineReport (reports : List (Diagnostic × Option String)) : List Char :=
  printedLines (reports.map fun report => diagnosticText .machine report.1 report.2)

section

variable (reports : List (Diagnostic × Option String))

theorem machineReport_eq : machineReport reports =
    printedLines (reports.map fun report =>
      (MachineFields.ofDiagnostic report.1 report.2).text) := by
  simp only [machineReport, MachineFields.diagnosticText_machine]

theorem onOneLine_iff :
    (∀ line ∈ reports.map fun report =>
      (MachineFields.ofDiagnostic report.1 report.2).text,
        '\n' ∉ line.toList) ↔
      ∀ report ∈ reports,
        '\n' ∉ report.1.file.text.toList ∧ '\n' ∉ report.1.message.toList := by
  simp only [List.forall_mem_map, MachineFields.feed_mem_text_iff, not_or,
    MachineFields.ofDiagnostic]

theorem count_machineReport_iff :
    (machineReport reports).count '\n' = reports.length ↔
      ∀ report ∈ reports,
        '\n' ∉ report.1.file.text.toList ∧ '\n' ∉ report.1.message.toList := by
  rw [← onOneLine_iff, machineReport_eq, ← count_printedLines_iff, List.length_map]

theorem readLines_machineReport_iff :
    readLines (machineReport reports) =
        reports.map (fun report =>
          some (MachineFields.ofDiagnostic report.1 report.2)) ↔
      ∀ report ∈ reports, IsReadable report.1 := by
  have cuts (whole : ∀ report ∈ reports,
      '\n' ∉ report.1.file.text.toList ∧ '\n' ∉ report.1.message.toList) :
      readLines (machineReport reports) = reports.map fun report =>
        MachineFields.ofLine?
          (MachineFields.ofDiagnostic report.1 report.2).text.toList := by
    rw [machineReport_eq, readLines_printedLines ((onOneLine_iff reports).mpr whole),
      List.map_map, Function.comp_def]
  constructor
  · intro read report member
    -- As many lines as diagnostics leave no line feed inside of any line.
    have lines := congrArg List.length read
    rw [length_readLines, List.length_map, count_machineReport_iff] at lines
    rw [cuts lines, List.map_inj_left] at read
    have whole := MachineFields.ofLine?_text_iff.mp (read report member)
    exact ⟨whole, (lines report member).1, (lines report member).2⟩
  · intro readable
    rw [cuts fun report member =>
      ⟨(readable report member).fileOnOneLine,
        (readable report member).messageOnOneLine⟩]
    exact List.map_congr_left fun report member =>
      MachineFields.ofLine?_text_iff.mpr (readable report member).whole

end

/-- A line for machines determines its six fields.  A report has one line for
each diagnostic exactly if no file and no message holds a line feed, and it is
read back by its lines and unmarked colons exactly if moreover no file holds a
colon or ends in a backslash. -/
theorem machineReport_exact (left right : Diagnostic × Option String)
    (reports : List (Diagnostic × Option String)) :
    (diagnosticText .machine left.1 left.2 = diagnosticText .machine right.1 right.2 ↔
      MachineFields.ofDiagnostic left.1 left.2 =
        MachineFields.ofDiagnostic right.1 right.2) ∧
    ((machineReport reports).count '\n' = reports.length ↔ ∀ report ∈ reports,
      '\n' ∉ report.1.file.text.toList ∧ '\n' ∉ report.1.message.toList) ∧
    (readLines (machineReport reports) =
        reports.map (fun report =>
          some (MachineFields.ofDiagnostic report.1 report.2)) ↔
      ∀ report ∈ reports, IsReadable report.1) := by
  refine ⟨?_, count_machineReport_iff reports, readLines_machineReport_iff reports⟩
  rw [MachineFields.diagnosticText_machine, MachineFields.diagnosticText_machine]
  exact MachineFields.text_inj

/-- A file with a colon is cut in two, and a message on two lines is printed on two. -/
theorem machineReport_unreadable :
    let colon :
        Diagnostic := ⟨.warning, .unsupportedPipeline, ⟨"/app/a:b.js"⟩, "m", none⟩
    let feed : Diagnostic := ⟨.error, .compileFailure, ⟨"/app/a.js"⟩, "a\nb", none⟩
    MachineFields.ofLine? (diagnosticText .machine colon none).toList ≠
        some (MachineFields.ofDiagnostic colon none) ∧
      readLines (machineReport [(colon, none)]) ≠
        [some (MachineFields.ofDiagnostic colon none)] ∧
      (machineReport [(feed, none)]).count '\n' = 2 := by
  decide

end VuePrecompiler.Command
