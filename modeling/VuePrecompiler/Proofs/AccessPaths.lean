import VuePrecompiler.Proofs.Balance
import VuePrecompiler.Render.Assignment

/-!
# Assignments to paths

An assignment is made from the back: the key of the last access is found by a
scan from the end of the path.  A text that is balanced from front to back is
passed by that scan as a whole, because the grammar of balanced texts can be
read from both ends.  So a path in code is cut between its accesses, and an
assignment to it is balanced.
-/

namespace VuePrecompiler.Javascript

/-- What stands between the quotes of a literal. -/
inductive LiteralBody (mark : Quote) : List Char → Prop where
  | nil : LiteralBody mark []
  | char {c : Char} {rest : List Char} : charRole c ≠ .backslash →
      charRole c ≠ .quote mark →
      LiteralBody mark rest → LiteralBody mark (c :: rest)
  | escape {c : Char} {rest : List Char} :
      LiteralBody mark rest → LiteralBody mark ('\\' :: c :: rest)

/-- Balanced texts, by their parts. -/
inductive CodeText : List Char → Prop where
  | nil : CodeText []
  | char {c : Char} {rest : List Char} : charRole c = .plain → CodeText rest →
      CodeText (c :: rest)
  | literal (mark : Quote) {body rest : List Char} : LiteralBody mark body →
      CodeText rest →
      CodeText (mark.char :: (body ++ mark.char :: rest))
  | bracketed (bracket : Bracket) {inner rest : List Char} : CodeText inner →
      CodeText rest →
      CodeText (bracket.opener :: (inner ++ bracket.closer :: rest))

/-- A text that closes the brackets that are open, with balanced texts
between the closers. -/
inductive Closes : List Bracket → List Char → Prop where
  | done {text : List Char} : CodeText text → Closes [] text
  | close {bracket : Bracket} {outer : List Bracket} {inner rest : List Char} :
      CodeText inner →
      Closes outer rest → Closes (bracket :: outer) (inner ++ bracket.closer :: rest)

namespace Closes

variable {brackets : List Bracket} {rest : List Char}

/-- What can stand in front of a balanced text can stand in front of the first one. -/
theorem extend {front : List Char}
    (extends_code : ∀ text, CodeText text → CodeText (front ++ text))
    (closes : Closes brackets rest) : Closes brackets (front ++ rest) := by
  cases closes with
  | done code => exact .done (extends_code _ code)
  | close inner outer =>
      rw [← List.append_assoc]
      exact .close (extends_code _ inner) outer

theorem char {c : Char} (plain : charRole c = .plain) (closes : Closes brackets rest) :
    Closes brackets (c :: rest) :=
  @extend _ _ [c] (fun _ => .char plain) closes

theorem literal (mark : Quote) {body : List Char} (inLiteral : LiteralBody mark body)
    (closes : Closes brackets rest) :
    Closes brackets (mark.char :: (body ++ mark.char :: rest)) := by
  have in_front (text : List Char) (code : CodeText text) :
      CodeText (mark.char :: (body ++ [mark.char]) ++ text) := by
    rw [List.cons_append, List.append_assoc]
    exact .literal mark inLiteral code
  have extended := closes.extend in_front
  rwa [List.cons_append, List.append_assoc] at extended

theorem bracketed {bracket : Bracket} (closes : Closes (bracket :: brackets) rest) :
    Closes brackets (bracket.opener :: rest) := by
  cases closes with
  | @close _ _ inner behind code outer =>
      have in_front (text : List Char) (other : CodeText text) :
          CodeText (bracket.opener :: (inner ++ [bracket.closer]) ++ text) := by
        rw [List.cons_append, List.append_assoc]
        exact .bracketed bracket code other
      have extended := outer.extend in_front
      rwa [List.cons_append, List.append_assoc] at extended

end Closes

/-- What a text must be, for a scan of it from a state to end outside of everything. -/
def ScanState.Finishes (state : ScanState) (text : List Char) : Prop :=
  match state.mode with
  | .code => Closes state.brackets text
  | .literal mark => ∃ body rest, text = body ++ mark.char :: rest ∧
      LiteralBody mark body ∧
      Closes state.brackets rest
  | .escaped mark => ∃ c body rest, text = c :: (body ++ mark.char :: rest) ∧
      LiteralBody mark body ∧ Closes state.brackets rest

/-- A character leads from what a text must be behind it to what it must be with it. -/
theorem ScanState.Finishes.cons {state next : ScanState} {c : Char} {rest : List Char}
    (step : state.step? c = some next) (finishes : next.Finishes rest) :
    state.Finishes (c :: rest) := by
  rcases state with ⟨brackets, mode⟩
  cases mode with
  | escaped mark =>
      cases step
      obtain ⟨body, behind, rfl, inLiteral, closes⟩ := finishes
      exact ⟨c, body, behind, rfl, inLiteral, closes⟩
  | literal mark =>
      simp only [step?] at step
      split at step
      · next role =>
        cases step
        obtain rfl := eq_of_charRole role rfl
        obtain ⟨escaped, body, behind, rfl, inLiteral, closes⟩ := finishes
        exact ⟨'\\' :: escaped :: body, behind, rfl, .escape inLiteral, closes⟩
      · next other role =>
        split at step
        · next same =>
          cases step
          obtain rfl := same
          exact ⟨[], rest, congrArg (· :: rest) (eq_of_charRole role rfl), .nil, finishes⟩
        · next different =>
          cases step
          obtain ⟨body, behind, rfl, inLiteral, closes⟩ := finishes
          refine ⟨c :: body, behind, rfl, .char ?_ ?_ inLiteral, closes⟩
          · rw [role]
            exact CharRole.noConfusion
          · rw [role]
            exact fun same => different (CharRole.quote.inj same)
      · next noBackslash noQuote =>
        cases step
        obtain ⟨body, behind, rfl, inLiteral, closes⟩ := finishes
        exact ⟨c :: body, behind, rfl, .char noBackslash (noQuote mark) inLiteral,
          closes⟩
  | code =>
      simp only [step?] at step
      split at step
      · next plain =>
        cases step
        exact Closes.char plain finishes
      · contradiction
      · next mark role =>
        cases step
        obtain ⟨body, behind, rfl, inLiteral, closes⟩ := finishes
        rw [eq_of_charRole role rfl]
        exact Closes.literal mark inLiteral closes
      · next bracket role =>
        cases step
        rw [eq_of_charRole role rfl]
        exact Closes.bracketed finishes
      · next bracket role =>
        cases brackets with
        | nil => contradiction
        | cons innermost outer =>
            rw [close?] at step
            split at step
            · next same =>
              cases step
              rw [eq_of_charRole role rfl, same]
              exact Closes.close .nil finishes
            · contradiction

theorem ScanState.finishes_of_scan? {state : ScanState} {text : List Char}
    (scanned : scan? state text = some .outside) : state.Finishes text := by
  induction text generalizing state with
  | nil =>
      cases scanned
      exact Closes.done .nil
  | cons c rest induction =>
      rw [scan?] at scanned
      split at scanned
      · next next step => exact .cons step (induction scanned)
      · contradiction

theorem IsBalanced.codeText {text : String} (balanced : IsBalanced text) :
    CodeText text.toList := by
  have finishes : Closes [] text.toList := ScanState.finishes_of_scan? balanced
  cases finishes with
  | done code => exact code

/-- Texts in which square brackets match outside of string and template literals.
Other brackets need not match, and no backslash stands outside of a literal. -/
inductive SquareText : List Char → Prop where
  | nil : SquareText []
  | char {c : Char} {rest : List Char} : c ∉ ['[', ']', '\'', '"', '\x60', '\\'] →
      SquareText rest → SquareText (c :: rest)
  | literal (mark : Quote) {body rest : List Char} : LiteralBody mark body →
      SquareText rest →
      SquareText (mark.char :: (body ++ mark.char :: rest))
  | bracketed {inner rest : List Char} : SquareText inner → SquareText rest →
      SquareText ('[' :: (inner ++ ']' :: rest))

theorem SquareText.append {left right : List Char} (first : SquareText left)
    (second : SquareText right) : SquareText (left ++ right) := by
  induction first with
  | nil => exact second
  | char loose _ induction => exact .char loose induction
  | literal mark inLiteral _ induction =>
      rw [List.cons_append, List.append_assoc, List.cons_append]
      exact .literal mark inLiteral induction
  | bracketed inner _ _ induction =>
      rw [List.cons_append, List.append_assoc, List.cons_append]
      exact .bracketed inner induction

theorem CodeText.squareText {text : List Char} (code : CodeText text) :
    SquareText text := by
  induction code with
  | nil => exact .nil
  | @char c rest plain _ induction =>
      refine .char ?_ induction
      intro special
      simp only [List.mem_cons, List.not_mem_nil, or_false] at special
      rcases special with rfl | rfl | rfl | rfl | rfl | rfl
      all_goals exact absurd plain (by decide)
  | literal mark inLiteral _ induction => exact .literal mark inLiteral induction
  | @bracketed bracket inner rest _ _ innerInduction induction =>
      -- Round and curly brackets are characters like others here.
      cases bracket with
      | square => exact .bracketed innerInduction induction
      | round =>
          exact .char (by decide) (innerInduction.append (.char (by decide) induction))
      | curly =>
          exact .char (by decide) (innerInduction.append (.char (by decide) induction))

end VuePrecompiler.Javascript

namespace VuePrecompiler.Render

open Text Javascript

/-! ## Scans from the back -/

theorem charRole_char (mark : Quote) : charRole mark.char = .quote mark := by
  cases mark <;> rfl

/-- The scan passes a character of a literal that does not end it. -/
theorem openingBracket?_inside {mark c : Char} (stays : c ≠ mark) (depth : Int)
    (inside before : List Char) :
    openingBracket? (some mark) depth inside (c :: before) =
      openingBracket? (some mark) depth (c :: inside) before := by
  rw [openingBracket?, if_neg (by simp [stays])]

theorem openingBracket?_escaped (mark c : Char) (depth : Int)
    (inside before : List Char) :
    openingBracket? (some mark) depth inside (c :: '\\' :: before) =
      openingBracket? (some mark) depth (c :: inside) ('\\' :: before) := by
  rw [openingBracket?, if_neg (by simp)]

theorem openingBracket?_quote (mark : Quote) (depth : Int) (inside : List Char)
    {before : List Char} (unescaped : before.head? ≠ some '\\') :
    openingBracket? (some mark.char) depth inside (mark.char :: before) =
      openingBracket? none depth (mark.char :: inside) before := by
  rw [openingBracket?, if_pos (by simp [unescaped])]

/-- The scan passes what stands between the quotes of a literal. -/
theorem openingBracket?_literalBody {mark : Quote} {body : List Char}
    (inLiteral : LiteralBody mark body) (depth : Int) (inside before : List Char) :
    openingBracket? (some mark.char) depth inside (body.reverse ++ before) =
      openingBracket? (some mark.char) depth (body ++ inside) before := by
  have noQuote {c : Char} (noMark : charRole c ≠ .quote mark) : c ≠ mark.char := by
    rintro rfl
    exact noMark (charRole_char mark)
  induction inLiteral generalizing before with
  | nil => rfl
  | char noBackslash noMark _ induction =>
      rw [List.reverse_cons, List.append_assoc, induction, List.singleton_append,
        openingBracket?_inside (noQuote noMark)]
      rfl
  | escape _ induction =>
      have backslash : '\\' ≠ mark.char := noQuote (by simp [charRole])
      rw [List.reverse_cons, List.reverse_cons, List.append_assoc, List.append_assoc,
        induction, List.singleton_append, List.singleton_append,
        openingBracket?_escaped, openingBracket?_inside backslash]
      rfl

theorem openingBracket?_loose {c : Char}
    (loose : c ∉ ['[', ']', '\'', '"', '\x60', '\\'])
    (depth : Int) (inside before : List Char) :
    openingBracket? none depth inside (c :: before) =
      openingBracket? none depth (c :: inside) before := by
  simp only [List.mem_cons, List.not_mem_nil, or_false, not_or] at loose
  obtain ⟨noOpener, noCloser, noSingle, noDouble, noBack, _⟩ := loose
  rw [openingBracket?, if_neg (by simp [noSingle, noDouble, noBack]), if_neg noCloser,
    if_neg noOpener]

/-- Inside of brackets, the scan passes text in which square brackets match. -/
theorem openingBracket?_squareText {text : List Char} (square : SquareText text)
    {depth : Int} (deep : 1 ≤ depth) (inside : List Char) {before : List Char}
    (unescaped : before.head? ≠ some '\\') :
    openingBracket? none depth inside (text.reverse ++ before) =
      openingBracket? none depth (text ++ inside) before := by
  -- The scan meets the parts from the last to the first, so each part must be
  -- behind a character that does not escape the quote it may start with.
  induction square generalizing depth inside before with
  | nil => rfl
  | @char c rest loose _ induction =>
      have here : (c :: before).head? ≠ some '\\' := by
        rintro same
        cases same
        contradiction
      rw [List.reverse_cons, List.append_assoc, List.singleton_append,
        induction deep inside here, openingBracket?_loose loose]
      rfl
  | @literal mark body rest inLiteral _ induction =>
      have parts : (mark.char :: (body ++ mark.char :: rest)).reverse ++ before =
          rest.reverse ++ (mark.char :: (body.reverse ++ (mark.char :: before))) := by
        simp
      have here : (mark.char :: (body.reverse ++ (mark.char :: before))).head? ≠
          some '\\' := by
        cases mark <;> simp [Quote.char]
      have opens : openingBracket? none depth (rest ++ inside)
          (mark.char :: (body.reverse ++ (mark.char :: before))) =
            openingBracket? (some mark.char) depth (mark.char :: (rest ++ inside))
              (body.reverse ++ (mark.char :: before)) := by
        cases mark <;> rfl
      rw [parts, induction deep inside here, opens,
        openingBracket?_literalBody inLiteral,
        openingBracket?_quote mark _ _ unescaped, List.cons_append, List.append_assoc,
        List.cons_append]
  | @bracketed inner rest _ _ innerInduction induction =>
      have parts : ('[' :: (inner ++ ']' :: rest)).reverse ++ before =
          rest.reverse ++ (']' :: (inner.reverse ++ ('[' :: before))) := by
        simp
      have closes : openingBracket? none depth (rest ++ inside)
          (']' :: (inner.reverse ++ ('[' :: before))) =
            openingBracket? none (depth + 1) (']' :: (rest ++ inside))
              (inner.reverse ++ ('[' :: before)) := rfl
      have deeper : depth + 1 ≠ 1 := by omega
      have back : depth + 1 - 1 = depth := by omega
      rw [parts, induction deep inside (by simp), closes,
        innerInduction (by omega) _ (by simp),
        openingBracket?, if_neg (by decide), if_neg (by decide), if_pos rfl,
        if_neg deeper, back, List.cons_append, List.append_assoc, List.cons_append]

/-! ## Paths -/

/-- The characters of an identifier in a path. -/
def isIdentifierChar (c : Char) : Bool :=
  charRole c == .plain && c != '.'

/-- Paths: an identifier, or an access of a path by an identifier or
by balanced code. -/
inductive IsAccessPath : List Char → Prop where
  | identifier {name : List Char} : (∀ c ∈ name, isIdentifierChar c = true) →
      IsAccessPath name
  | member {object key : List Char} : IsAccessPath object →
      (∀ c ∈ key, isIdentifierChar c = true) → IsAccessPath (object ++ '.' :: key)
  | index {object key : List Char} :
      IsAccessPath object → IsBalanced (String.ofList key) →
      IsAccessPath (object ++ '[' :: (key ++ [']']))

theorem charRole_of_isIdentifierChar {c : Char}
    (identifier : isIdentifierChar c = true) : charRole c = .plain := by
  rw [isIdentifierChar, Bool.and_eq_true] at identifier
  exact eq_of_beq identifier.1

theorem isBalanced_identifier {name : List Char}
    (each : ∀ c ∈ name, isIdentifierChar c = true) :
    IsBalanced (String.ofList name) := by
  refine IsBalanced.plain fun c member => ?_
  rw [String.toList_ofList] at member
  exact charRole_of_isIdentifierChar (each c member)

theorem notMem_identifier {name : List Char}
    (each : ∀ c ∈ name, isIdentifierChar c = true)
    {special : Char} (excluded : isIdentifierChar special = false) :
    special ∉ name := by
  intro member
  rw [each special member] at excluded
  contradiction

theorem IsAccessPath.isBalanced {path : List Char} (isPath : IsAccessPath path) :
    IsBalanced (String.ofList path) := by
  induction isPath with
  | identifier each => exact isBalanced_identifier each
  | @member object key _ each induction =>
      have parts : String.ofList (object ++ '.' :: key) =
          String.ofList object ++ (String.ofList ['.'] ++ String.ofList key) := by
        rw [← String.ofList_append, ← String.ofList_append]
        rfl
      rw [parts]
      exact induction.append (.fixed_append rfl (isBalanced_identifier each))
  | @index object key _ balanced induction =>
      have parts : String.ofList (object ++ '[' :: (key ++ [']'])) =
          String.ofList object ++
            (String.ofList ['['] ++ (String.ofList key ++ String.ofList [']'])) := by
        rw [← String.ofList_append, ← String.ofList_append, ← String.ofList_append]
        rfl
      rw [parts]
      exact induction.append (.fixed_append rfl
        (.balanced_append balanced (.fixed rfl)))

theorem IsAccessPath.trimmed {path : String}
    (isPath : IsAccessPath (trim path.toList)) :
    IsAccessPath (trim (trimmed path).toList) := by
  rwa [Text.trimmed, String.toList_ofList, trim_trim]

theorem splitLast?_of_notMem {separator : Char} {text : List Char}
    (absent : separator ∉ text) : splitLast? separator text = none := by
  have all : ∀ c ∈ text.reverse, (c != separator) = true := by
    intro c member
    refine bne_iff_ne.mpr ?_
    rintro rfl
    exact absent (List.mem_reverse.mp member)
  rw [splitLast?, List.dropWhile_eq_nil_iff.mpr all]

theorem splitLast?_append {separator : Char} (before : List Char) {after : List Char}
    (absent : separator ∉ after) :
    splitLast? separator (before ++ separator :: after) = some (before, after) := by
  have all : ∀ c ∈ after.reverse, (c != separator) = true := by
    intro c member
    refine bne_iff_ne.mpr ?_
    rintro rfl
    exact absent (List.mem_reverse.mp member)
  have stops :
      ∀ c ∈ (separator :: before.reverse).head?, (c != separator) = false := by
    intro c same
    cases same
    exact bne_self_eq_false' separator
  have parts : (before ++ separator :: after).reverse =
      after.reverse ++ (separator :: before.reverse) := by
    simp
  rw [splitLast?, parts, takeWhile_append_of_stop all stops,
    dropWhile_append_of_stop all stops]
  simp

/-! ## The last access -/

theorem splitAccess_identifier {path : String} (noDot : '.' ∉ trim path.toList)
    (noBracket : ']' ∉ trim path.toList) :
    splitAccess path = (String.ofList (trim path.toList), none) := by
  have last : (trim path.toList).getLast? ≠ some ']' :=
    fun last => noBracket (List.mem_of_getLast? last)
  simp only [splitAccess, last, decide_false, Bool.and_false, Bool.false_eq_true,
    ↓reduceIte, splitLast?_of_notMem noDot]

theorem splitAccess_member {path : String} {object key : List Char}
    (shape : trim path.toList = object ++ '.' :: key) (noDot : '.' ∉ key)
    (noBracket : ']' ∉ key) :
    splitAccess path = (String.ofList object,
      some ("\"" ++ String.ofList key ++ "\"")) := by
  have last : (object ++ '.' :: key).getLast? ≠ some ']' := by
    intro last
    rw [List.getLast?_append_of_ne_nil _ (List.cons_ne_nil _ _)] at last
    rcases List.mem_cons.mp (List.mem_of_getLast? last) with dot | inKey
    · contradiction
    · exact noBracket inKey
  simp only [splitAccess, shape, last, decide_false, Bool.and_false,
    Bool.false_eq_true, ↓reduceIte, splitLast?_append object noDot]

theorem splitAccess_index {path : String} {object key : List Char}
    (shape : trim path.toList = object ++ '[' :: (key ++ [']']))
    (square : SquareText key) :
    splitAccess path = (String.ofList object, some (String.ofList key)) := by
  have opens : (object ++ '[' :: (key ++ [']'])).contains '[' = true := by
    simp
  have last : (object ++ '[' :: (key ++ [']'])).getLast? = some ']' := by
    rw [← List.cons_append, ← List.append_assoc, List.getLast?_concat]
  have backwards : (object ++ '[' :: (key ++ [']'])).reverse =
      ']' :: (key.reverse ++ ('[' :: object.reverse)) := by
    simp
  have found :
      openingBracket? none 0 [] (']' :: (key.reverse ++ ('[' :: object.reverse))) =
        some (key, object) := by
    calc
      _ = openingBracket? none 1 [']'] (key.reverse ++ ('[' :: object.reverse)) := rfl
      _ = openingBracket? none 1 (key ++ [']']) ('[' :: object.reverse) :=
        openingBracket?_squareText square (by decide) [']'] (by simp)
      _ = some ((key ++ [']']).dropLast, object.reverse.reverse) := rfl
      _ = some (key, object) := by rw [List.dropLast_concat, List.reverse_reverse]
  simp only [splitAccess, shape, opens, last, decide_true, Bool.and_true, ↓reduceIte,
    backwards, found]

theorem isQuotable_identifier {name : List Char}
    (each : ∀ c ∈ name, isIdentifierChar c = true) :
    IsQuotable (String.ofList name) := by
  intro c member
  rw [String.toList_ofList] at member
  exact isQuotable_of_plain (charRole_of_isIdentifierChar (each c member))

/-- The object of a path and the key of its last access are balanced. -/
theorem isBalanced_splitAccess {path : String}
    (isPath : IsAccessPath (trim path.toList)) :
    IsBalanced (splitAccess path).1 ∧ ∀ key, (splitAccess path).2 = some key →
      IsBalanced key := by
  generalize shape : trim path.toList = text at isPath
  cases isPath with
  | identifier each =>
      have plain {special : Char} : isIdentifierChar special = false →
          special ∉ trim path.toList :=
        shape ▸ notMem_identifier each
      rw [splitAccess_identifier (plain (by decide)) (plain (by decide)), shape]
      exact ⟨isBalanced_identifier each, fun _ none => nomatch none⟩
  | @member object key isPath each =>
      rw [splitAccess_member shape (notMem_identifier each (by decide))
        (notMem_identifier each (by decide))]
      refine ⟨isPath.isBalanced, fun quoted given => ?_⟩
      cases given
      rw [String.append_assoc]
      exact .fixed_append rfl (.quotable_append
        (isQuotable_identifier each) (.fixed rfl))
  | @index object key isPath balanced =>
      have code : CodeText key := by
        have whole := balanced.codeText
        rwa [String.toList_ofList] at whole
      rw [splitAccess_index shape code.squareText]
      refine ⟨isPath.isBalanced, fun code given => ?_⟩
      cases given
      exact balanced

/-- An assignment to a path is balanced. -/
theorem isBalanced_assignment {path value : String}
    (isPath : IsAccessPath (trim path.toList))
    (stored : IsBalanced value) : IsBalanced (assignment path value) := by
  obtain ⟨object, key⟩ := isBalanced_splitAccess isPath
  unfold assignment
  split
  · next objectCode split =>
    rw [split] at object
    exact (object.append (.fixed rfl)).append stored
  · next objectCode keyCode split =>
    rw [split] at object key
    simp only [String.append_assoc]
    exact .fixed_append rfl <| .balanced_append object <| .fixed_append rfl <|
      .balanced_append (key keyCode rfl) <| .fixed_append rfl <|
      .balanced_append stored <| .fixed rfl

end VuePrecompiler.Render
