import Mathlib.Data.List.Infix
import VuePrecompiler.Proofs.MarkupTokens
import VuePrecompiler.Proofs.ReadingSteps

/-!
# Written markup is read back

Reading the text of some markup gives nodes that show this markup, at any
depth and with elements of one name inside of each other.
-/

namespace VuePrecompiler.Template

open Source Text Markup

/-! ## Lexemes -/

theorem lexemes_of_nil {cursor : Cursor} (ended : cursor.rest = []) :
    lexemes cursor = [] := by
  rw [lexemes, dif_pos ended]

theorem lexemes_of_sees {cursor : Cursor} {token : Token} {tail : List Char}
    (sees : Token.Sees cursor token tail) (more : cursor.rest ≠ []) :
    ∃ span after, lexemes cursor = ⟨token, span⟩ :: lexemes after ∧
      after.rest = tail := by
  obtain ⟨isToken, behind⟩ := sees
  refine ⟨⟨cursor.offset, (Token.next cursor).2.offset⟩, (Token.next cursor).2,
    ?_, behind⟩
  rw [lexemes, dif_neg more, ← isToken]

/-! ## Reading -/

/-- Some lexemes are read as nodes that show some markup, up to a rest. -/
def ReadsAs (opened : List String) (position : Nat) (given : List Lexeme)
    (forest : List Markup) (rest : List Lexeme) : Prop :=
  ∃ reading, readNodes opened position given = .ok reading ∧
    ShowsEach forest reading.nodes ∧ reading.rest = rest

theorem sameTag_self (name : String) : sameTag name name = true := by
  rw [sameTag, beq_self_eq_true]

theorem readsAs_nil (opened : List String) (position : Nat) :
    ReadsAs opened position [] [] [] := by
  exact ⟨_, readNodes_nil opened position, .nil, rfl⟩

/-- The end tag of an open element ends what is read in it. -/
theorem readsAs_endTag {opened : List String} {name : String} (isOpen : name ∈ opened)
    (position : Nat) (span : Span) (rest : List Lexeme) :
    ReadsAs opened position (⟨.endTag name, span⟩ :: rest) []
      (⟨.endTag name, span⟩ :: rest) := by
  have closes : opened.any (sameTag name) = true :=
    List.any_eq_true.mpr ⟨name, isOpen, sameTag_self name⟩
  exact ⟨_, readNodes_of_closes opened position rest closes, .nil, rfl⟩

/-- A leaf is read in front of what is read behind it. -/
theorem readsAs_leaf {opened : List String} {token : Token} {span : Span}
    {given rest : List Lexeme} {forest : List Markup} {markup : Markup} {node : Node}
    (isLeaf : Lexeme.leaf? ⟨token, span⟩ = some node) (shows : Shows markup node)
    (later : ReadsAs opened span.stop given forest rest) (position : Nat) :
    ReadsAs opened position (⟨token, span⟩ :: given) (markup :: forest) rest := by
  obtain ⟨reading, read, showsRest, left⟩ := later
  refine ⟨reading.behind [node] (Nat.le_add_right _ 1), ?_, .cons shows showsRest, left⟩
  rw [readNodes_leaf opened position given isLeaf, read]
  rfl

/-- A tag without directives, and with another name than `slot`, gives an element. -/
theorem ofTag_plain {name : String} {attributes : List MarkupAttribute}
    {tag : StartTag} (shows : TagShows name attributes tag) (notSlot : name ≠ "slot")
    (children : List Node) (span : Span) :
    Node.ofTag tag children span = .ok (.element tag children [] span) := by
  have untaken : ∀ directive, tag.takeDirective? directive = (none, tag) := by
    intro directive
    rcases tag with ⟨_, _, _, directives, _, _⟩
    obtain rfl : directives = [] := shows.directives
    rfl
  have noSlot : (tag.name == "slot") = false := by
    rw [shows.sameName, beq_eq_false_iff_ne]
    exact notSlot
  have noContent : tag.hasDirective "slot" = false := by
    rw [StartTag.hasDirective, shows.directives]
    rfl
  simp only [Node.ofTag, untaken, noSlot, noContent, Bool.and_false,
    Bool.false_eq_true, ↓reduceIte]

/-- The end tag of an element is read with it. -/
theorem Reading.close_of_endTag {given after : List Lexeme} {name : String}
    {span : Span} {content : Reading given}
    (left : content.rest = ⟨.endTag name, span⟩ :: after) :
    (content.close name).nodes = content.nodes ∧ (content.close name).rest = after ∧
      (content.close name).position = span.stop := by
  unfold Reading.close
  split
  · next closing closeSpan behind same =>
    obtain ⟨first, rfl⟩ := List.cons.inj (left.symm.trans same)
    obtain ⟨tag, rfl⟩ := Lexeme.mk.inj first
    obtain rfl := Token.endTag.inj tag
    rw [sameTag_self, if_pos rfl]
    exact ⟨rfl, rfl, rfl⟩
  · next other => exact absurd left (other _ _ _)

/-- An element is read with its content, whatever is read around it. -/
theorem readsAs_element {name : String} {attributes : List MarkupAttribute}
    {items : List SourceAttribute} {opened : List String} {span close : Span}
    {inner between rest : List Lexeme} {children forest : List Markup}
    (isName : IsElementName name)
    (shows : TagShows name attributes (StartTag.ofSource name items))
    (content : ReadsAs (name :: opened) span.stop inner children
      (⟨.endTag name, close⟩ :: between))
    (later : ReadsAs opened close.stop between forest rest) (position : Nat) :
    ReadsAs opened position (⟨.startTag name items false, span⟩ :: inner)
      (.element name attributes children :: forest) rest := by
  obtain ⟨reading, read, showsChildren, left⟩ := content
  obtain ⟨others, readOthers, showsOthers, ended⟩ := later
  obtain ⟨sameNodes, sameRest, samePosition⟩ := Reading.close_of_endTag left
  have hasContent : (false || isVoidTag name) = false := isName.notVoid
  have reads := readNodes_withContent opened position items span inner hasContent
  simp only [read, bind, Except.bind] at reads
  generalize reading.close name = content at reads sameNodes sameRest samePosition
  rcases content with ⟨nodes, behind, stop, behind_le⟩
  obtain rfl : nodes = reading.nodes := sameNodes
  obtain rfl : behind = between := sameRest
  obtain rfl : stop = close.stop := samePosition
  simp only [ofTag_plain shows isName.notSlot, readOthers, Except.map] at reads
  exact ⟨_, reads, .cons (.element ⟨span.start, close.stop⟩ shows showsChildren)
    showsOthers, ended⟩

/-! ## Whole texts -/

theorem trimmed_spaced {text : String} (isTrimmed : trimmed text = text) :
    trimmed (" " ++ text ++ " ") = text := by
  have letters : trim text.toList = text.toList := by
    rw [← String.toList_inj, trimmed, String.toList_ofList] at isTrimmed
    exact isTrimmed
  have spaced : (" " ++ text ++ " ").toList = [' '] ++ text.toList ++ [' '] := by
    simp
  have blank : ∀ c ∈ [' '], isBlank c = true :=
    List.forall_mem_singleton.mpr (by decide)
  rw [trimmed, spaced, trim_surrounded letters blank blank, String.ofList_toList]

/-- What ends a list of nodes: the end of the text, or the end tag
of an open element. -/
def EndsNodes (opened : List String) (tail : List Char) : Prop :=
  tail = [] ∨ ∃ name ∈ opened, IsElementName name ∧ ∃ rest, tail = endTag name ++ rest

theorem readsAs_end {opened : List String} {cursor : Cursor}
    (ends : EndsNodes opened cursor.rest) (position : Nat) :
    ReadsAs opened position (lexemes cursor) [] (lexemes cursor) := by
  rcases ends with ended | ⟨name, isOpen, isName, rest, shape⟩
  · rw [lexemes_of_nil ended]
    exact readsAs_nil opened position
  · have more : cursor.rest ≠ [] := by
      rw [shape]
      exact List.cons_ne_nil _ _
    obtain ⟨span, after, lexemes, _⟩ :=
      lexemes_of_sees (Token.next_endTag isName shape) more
    rw [lexemes]
    exact readsAs_endTag isOpen position span _

/-- Where nodes end, or a start tag or a comment begins, a text stops. -/
theorem stopsText_rest {content : String} {rest : List Markup} {opened : List String}
    {tail : List Char} (fits : CanPrecede (.text content) rest.head?)
    (printable : PrintableEach rest) (ends : EndsNodes opened tail) :
    Token.StopsText content.toList (writtenEach rest ++ tail) := by
  cases printable with
  | nil =>
      rcases ends with rfl | ⟨name, _, _, rest, rfl⟩
      · exact Or.inl rfl
      · exact Or.inr (Or.inl ⟨_, rfl⟩)
  | @cons first rest firstPrintable _ _ =>
      cases first with
      | element => exact Or.inr (Or.inl ⟨_, rfl⟩)
      | comment => exact Or.inr (Or.inl ⟨_, rfl⟩)
      | text => exact fits.elim
      | interpolation => exact Or.inr (Or.inr ⟨⟨_, rfl⟩, fits⟩)

theorem written_ne_nil {markup : Markup} (printable : Printable markup) :
    markup.written ≠ [] := by
  cases printable with
  | element => exact List.cons_ne_nil _ _
  | text more => exact more
  | comment => exact List.append_ne_nil_of_left_ne_nil (by decide) _
  | interpolation => exact List.cons_ne_nil _ _

/-- In front of the text of some markup and a tail, exactly the markup is read. -/
def ReadUpTo (opened : List String) (tail : List Char) (forest : List Markup) : Prop :=
  ∀ cursor : Cursor, cursor.rest = writtenEach forest ++ tail → ∀ position,
    ∃ after : Cursor, after.rest = tail ∧
      ReadsAs opened position (lexemes cursor) forest (lexemes after)

theorem readUpTo_nil {opened : List String} {tail : List Char}
    (ends : EndsNodes opened tail) : ReadUpTo opened tail [] := by
  intro cursor shape position
  have atTail : cursor.rest = tail := shape
  refine ⟨cursor, atTail, readsAs_end ?_ position⟩
  rw [atTail]
  exact ends

theorem rest_first {first : Markup} {rest : List Markup} {tail : List Char}
    {cursor : Cursor} (shape : cursor.rest = writtenEach (first :: rest) ++ tail) :
    cursor.rest = first.written ++ (writtenEach rest ++ tail) := by
  rw [shape, writtenEach, List.append_assoc]

theorem rest_ne_nil {first : Markup} {rest : List Markup} {tail : List Char}
    {cursor : Cursor} (printable : Printable first)
    (shape : cursor.rest = writtenEach (first :: rest) ++ tail) :
    cursor.rest ≠ [] := by
  rw [rest_first shape]
  exact List.append_ne_nil_of_left_ne_nil (written_ne_nil printable) _

section

variable {opened : List String} {tail : List Char} {rest : List Markup}
  (later : ReadUpTo opened tail rest)
include later

theorem readUpTo_text {content : String} (printable : Printable (.text content))
    (stops : Token.StopsText content.toList (writtenEach rest ++ tail)) :
    ReadUpTo opened tail (.text content :: rest) := by
  intro cursor shape position
  have first := rest_first shape
  have more := rest_ne_nil printable shape
  cases printable with
  | text nonempty noTag noBraces =>
      obtain ⟨span, between, lexemes, behind⟩ :=
        lexemes_of_sees (Token.next_text nonempty noTag noBraces stops first) more
      obtain ⟨after, atTail, reads⟩ := later between behind span.stop
      rw [lexemes]
      exact ⟨after, atTail, readsAs_leaf rfl (.text content span) reads position⟩

theorem readUpTo_comment {content : String}
    (closed : ¬ "-->".toList <:+: content.toList) :
    ReadUpTo opened tail (.comment content :: rest) := by
  intro cursor shape position
  have first := rest_first shape
  have more := rest_ne_nil (.comment closed) shape
  obtain ⟨span, between, lexemes, behind⟩ :=
    lexemes_of_sees (Token.next_comment closed first) more
  obtain ⟨after, atTail, reads⟩ := later between behind span.stop
  rw [lexemes]
  exact ⟨after, atTail, readsAs_leaf rfl (.comment content span) reads position⟩

theorem readUpTo_interpolation {expression : String}
    (isTrimmed : trimmed expression = expression)
    (closed : ¬ ['}', '}'] <:+: expression.toList) :
    ReadUpTo opened tail (.interpolation expression :: rest) := by
  intro cursor shape position
  have first := rest_first shape
  have more := rest_ne_nil (.interpolation isTrimmed closed) shape
  obtain ⟨inner, sees⟩ := Token.next_interpolation closed first
  obtain ⟨span, between, lexemes, behind⟩ := lexemes_of_sees sees more
  obtain ⟨after, atTail, reads⟩ := later between behind span.stop
  rw [lexemes]
  have isLeaf : Lexeme.leaf? ⟨.interpolation (" " ++ expression ++ " ") inner, span⟩ =
      some (.interpolation ⟨expression, inner⟩ span) :=
    congrArg (fun content => some (Node.interpolation ⟨content, inner⟩ span))
      (trimmed_spaced isTrimmed)
  exact ⟨after, atTail,
    readsAs_leaf isLeaf (.interpolation expression inner span) reads position⟩

theorem readUpTo_element {name : String} {attributes : List MarkupAttribute}
    {children : List Markup} (isName : IsElementName name)
    (static : ∀ item ∈ attributes, IsStatic item)
    (content :
      ReadUpTo (name :: opened) (endTag name ++ (writtenEach rest ++ tail)) children) :
    ReadUpTo opened tail (.element name attributes children :: rest) := by
  intro cursor shape position
  have tag : cursor.rest = startTag name attributes ++
      (writtenEach children ++ (endTag name ++ (writtenEach rest ++ tail))) := by
    rw [rest_first shape, written]
    simp only [List.append_assoc]
  have more : cursor.rest ≠ [] := by
    rw [tag]
    exact List.cons_ne_nil _ _
  obtain ⟨items, sees, shows⟩ := Token.next_startTag isName static tag
  obtain ⟨span, inside, opening, behindTag⟩ := lexemes_of_sees sees more
  obtain ⟨atClose, closeShape, inner⟩ := content inside behindTag span.stop
  have closeMore : atClose.rest ≠ [] := by
    rw [closeShape]
    exact List.cons_ne_nil _ _
  obtain ⟨close, between, closing, behindClose⟩ :=
    lexemes_of_sees (Token.next_endTag isName closeShape) closeMore
  obtain ⟨after, atTail, others⟩ := later between behindClose close.stop
  rw [closing] at inner
  rw [opening]
  exact ⟨after, atTail, readsAs_element isName shows inner others position⟩

end

/-- The text of some markup is read as this markup, up to what ends it. -/
theorem readUpTo_of_printable (forest : List Markup) (printable : PrintableEach forest)
    {opened : List String} {tail : List Char} (ends : EndsNodes opened tail) :
    ReadUpTo opened tail forest := by
  cases printable with
  | nil => exact readUpTo_nil ends
  | @cons first rest firstPrintable fits restPrintable =>
      have later := readUpTo_of_printable rest restPrintable ends
      cases firstPrintable with
      | text nonempty noTag noBraces =>
          exact readUpTo_text later (.text nonempty noTag noBraces)
            (stopsText_rest fits restPrintable ends)
      | comment closed => exact readUpTo_comment later closed
      | interpolation isTrimmed closed =>
          exact readUpTo_interpolation later isTrimmed closed
      | @element name attributes children isName static childrenPrintable =>
          have closes :
              EndsNodes (name :: opened) (endTag name ++ (writtenEach rest ++ tail)) :=
            Or.inr ⟨name, List.mem_cons_self, isName, _, rfl⟩
          exact readUpTo_element later isName static
            (readUpTo_of_printable children childrenPrintable closes)

/-- Markup that is written out and read again comes back as it was, up to spans. -/
theorem ofText_written {forest : List Markup} (printable : PrintableEach forest) :
    ∃ tree, Tree.ofText (String.ofList (writtenEach forest)) = .ok tree ∧
      ShowsEach forest tree.children := by
  have shape : (Cursor.start (String.ofList (writtenEach forest))).rest =
      writtenEach forest ++ [] := by
    rw [Cursor.start, String.toList_ofList, List.append_nil]
  have reads : ReadUpTo [] [] forest :=
    readUpTo_of_printable forest printable (Or.inl rfl)
  obtain ⟨_, _, reading, read, shows, _⟩ := reads _ shape 0
  refine ⟨⟨reading.nodes, ⟨0, (String.ofList (writtenEach forest)).utf8ByteSize⟩⟩,
    ?_, shows⟩
  rw [Tree.ofText, read]
  rfl

/-- Elements of one name inside of each other, and marks where they mean nothing. -/
def nestedMarkup : List Markup :=
  [.element "my-el" [("class", some "a \x7b\x7b > b"), ("hidden", none)]
    [.text "\x7d\x7d \x7b",
     .element "my-el" [] [.comment " </my-el> -"],
     .interpolation "a < b\x7d"]]

theorem ofText_written_nested :
    PrintableEach nestedMarkup ∧
      ∃ tree, Tree.ofText (String.ofList (writtenEach nestedMarkup)) = .ok tree ∧
        ShowsEach nestedMarkup tree.children := by
  have named : IsElementName "my-el" :=
    ⟨⟨'m', "y-el".toList, by decide, by decide⟩,
      List.all_eq_true.mp (by decide), by decide, by decide⟩
  have static :
      ∀ item ∈ [("class", some "a \x7b\x7b > b"), ("hidden", (none : Option String))],
        IsStatic item := by
    intro item member
    simp only [List.mem_cons, List.not_mem_nil, or_false] at member
    rcases member with rfl | rfl
    · exact ⟨by decide, List.all_eq_true.mp (by decide), by decide, by simp, by decide⟩
    · exact ⟨by decide, List.all_eq_true.mp (by decide), by decide, by simp, by decide⟩
  have printable : PrintableEach nestedMarkup := by
    refine .cons (.element named static ?_) trivial .nil
    refine .cons (.text (by decide) (by decide) (by decide)) trivial ?_
    refine .cons (.element named (by simp) ?_) trivial ?_
    · exact .cons (.comment (by decide)) trivial .nil
    · exact .cons (.interpolation (by decide) (by decide)) trivial .nil
  exact ⟨printable, ofText_written printable⟩

end VuePrecompiler.Template
