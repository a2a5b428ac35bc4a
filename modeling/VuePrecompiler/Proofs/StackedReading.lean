import VuePrecompiler.Proofs.OpenElements

/-!
# Reading with a stack, round by round

A reader that works at a cursor, without lexemes in between.  It keeps the
names of the open elements on a stack of its own: a name is pushed in front
of the content of an element and popped behind it.  Every round of its loop
passes some text, the stack comes back as it was, and what is read is what
reading lexemes gives.
-/

namespace VuePrecompiler.Template

open Source Text

/-- The outcome of a reader, and the stack it leaves, whether it failed or not. -/
structure Outcome (Result : Type) where
  result : Except CompileError Result
  opened : List String

namespace Outcome

def map {First Second : Type} (f : First → Second) (outcome : Outcome First) :
    Outcome Second :=
  ⟨outcome.result.map f, outcome.opened⟩

end Outcome

/-- Nodes that one round reads at a cursor.  A round passes some text. -/
structure Round (cursor : Cursor) where
  nodes : List Node
  after : Cursor
  reaches : cursor.Reaches after
  advances : cursor.offset < after.offset

/-- Nodes that are read from a cursor on. -/
structure Stretch (cursor : Cursor) where
  nodes : List Node
  after : Cursor
  reaches : cursor.Reaches after

namespace Stretch

def empty (cursor : Cursor) : Stretch cursor :=
  ⟨[], cursor, .refl cursor⟩

def behind {cursor : Cursor} (round : Round cursor) (more : Stretch round.after) :
    Stretch cursor :=
  ⟨round.nodes ++ more.nodes, more.after, round.reaches.trans more.reaches⟩

end Stretch

theorem Token.next_advances {cursor : Cursor} (more : cursor.rest ≠ []) :
    cursor.offset < (next cursor).2.offset :=
  (reaches_next cursor).offset_lt (length_next more)

/-- The cursor behind the end tag of an element, if it stands in front of one. -/
def passEndTag (name : String) (cursor : Cursor) : Cursor :=
  match (Token.next cursor).1 with
  | .endTag closing => if sameTag closing name then (Token.next cursor).2 else cursor
  | _ => cursor

theorem reaches_passEndTag (name : String) (cursor : Cursor) :
    cursor.Reaches (passEndTag name cursor) := by
  unfold passEndTag
  split
  · split
    · exact Token.reaches_next cursor
    · exact .refl cursor
  · exact .refl cursor

/-- The round that reads one lexeme which is no start tag. -/
def Round.single (cursor : Cursor) (more : cursor.rest ≠ []) : Round cursor :=
  ⟨(Lexeme.at cursor).leaf?.toList, (Token.next cursor).2, Token.reaches_next cursor,
    Token.next_advances more⟩

/-- The round that reads an element, given where it ends. -/
def Round.element (cursor : Cursor) (tag : StartTag) (children : List Node)
    (after : Cursor) (more : cursor.rest ≠ [])
    (inside : (Token.next cursor).2.Reaches after) :
    Except CompileError (Round cursor) :=
  (Node.ofTag tag children ⟨cursor.offset, after.offset⟩).map fun node =>
    ⟨[node], after, (Token.reaches_next cursor).trans inside,
      Nat.lt_of_lt_of_le (Token.next_advances more) inside.le⟩

theorem Round.shorter {cursor : Cursor} (round : Round cursor) :
    round.after.rest.length < cursor.rest.length :=
  round.reaches.length_lt round.advances

mutual

/-- Read nodes until a round stops. -/
def readChildren (opened : List String) (cursor : Cursor) : Outcome (Stretch cursor) :=
  match readRound opened cursor with
  | ⟨.error fault, left⟩ => ⟨.error fault, left⟩
  | ⟨.ok none, left⟩ => ⟨.ok (.empty cursor), left⟩
  | ⟨.ok (some round), left⟩ => (readChildren left round.after).map (.behind round)
termination_by (cursor.rest.length, 2)
decreasing_by
  · exact Prod.Lex.right _ (by decide)
  · exact Prod.Lex.left _ _ round.shorter

/-- One round: it stops at the end and at the end tag of an open element. -/
def readRound (opened : List String) (cursor : Cursor) :
    Outcome (Option (Round cursor)) :=
  if more : cursor.rest = [] then ⟨.ok none, opened⟩
  else if (Lexeme.at cursor).closes opened then ⟨.ok none, opened⟩
  else
    match (Token.next cursor).1 with
    | .startTag name attributes selfClosing =>
      (readElement opened cursor more name attributes selfClosing).map some
    | .nameless found =>
      ⟨.error (.unexpectedToken "tag name" found (Lexeme.at cursor).span), opened⟩
    | _ => ⟨.ok (some (.single cursor more)), opened⟩
termination_by (cursor.rest.length, 1)
decreasing_by exact Prod.Lex.right _ (by decide)

/-- Read the element of a start tag.  The name is popped before a
failure is passed on. -/
def readElement (opened : List String) (cursor : Cursor) (more : cursor.rest ≠ [])
    (name : String) (attributes : List SourceAttribute) (selfClosing : Bool) :
    Outcome (Round cursor) :=
  let tag := StartTag.ofSource name attributes
  if selfClosing || isVoidTag name then
    ⟨Round.element cursor tag [] (Token.next cursor).2 more (.refl _), opened⟩
  else
    match readChildren (name :: opened) (Token.next cursor).2 with
    | ⟨.error fault, left⟩ => ⟨.error fault, left.tail⟩
    | ⟨.ok content, left⟩ =>
      ⟨Round.element cursor tag content.nodes (passEndTag name content.after) more
        (content.reaches.trans (reaches_passEndTag name content.after)), left.tail⟩
termination_by (cursor.rest.length, 0)
decreasing_by exact Prod.Lex.left _ _ (Token.length_next more)

end

/-! ## The reader and its rounds -/

section

variable {opened left : List String} {cursor : Cursor}

theorem readChildren_of_fault {fault : CompileError}
    (round : readRound opened cursor = ⟨.error fault, left⟩) :
    readChildren opened cursor = ⟨.error fault, left⟩ := by
  rw [readChildren, round]

theorem readChildren_of_stop (round : readRound opened cursor = ⟨.ok none, left⟩) :
    readChildren opened cursor = ⟨.ok (.empty cursor), left⟩ := by
  rw [readChildren, round]

theorem readChildren_of_round {next : Round cursor}
    (round : readRound opened cursor = ⟨.ok (some next), left⟩) :
    readChildren opened cursor =
      (readChildren left next.after).map (.behind next) := by
  rw [readChildren, round]

theorem readRound_of_end (ended : cursor.rest = []) :
    readRound opened cursor = ⟨.ok none, opened⟩ := by
  rw [readRound, dif_pos ended]

theorem readRound_of_closes (more : cursor.rest ≠ [])
    (closes : (Lexeme.at cursor).closes opened = true) :
    readRound opened cursor = ⟨.ok none, opened⟩ := by
  rw [readRound, dif_neg more, if_pos closes]

theorem readRound_of_single (more : cursor.rest ≠ [])
    (stays : (Lexeme.at cursor).closes opened = false)
    (single : (Lexeme.at cursor).opened? = none) :
    readRound opened cursor = ⟨.ok (some (.single cursor more)), opened⟩ := by
  rw [readRound, dif_neg more, if_neg (Bool.eq_false_iff.mp stays)]
  split
  · next isTag =>
    rw [Lexeme.opened?, Lexeme.at, isTag] at single
    contradiction
  · next isNameless => exact absurd isNameless (Token.next_ne_nameless cursor _)
  · rfl

theorem readRound_of_startTag (more : cursor.rest ≠ []) {name : String}
    {attributes : List SourceAttribute} {selfClosing : Bool}
    (isTag : (Token.next cursor).1 = .startTag name attributes selfClosing) :
    readRound opened cursor =
      (readElement opened cursor more name attributes selfClosing).map some := by
  have stays : ¬ (Lexeme.at cursor).closes opened = true := by
    rw [Lexeme.closes, Lexeme.at, isTag]
    exact Bool.false_ne_true
  rw [readRound, dif_neg more, if_neg stays, isTag]

end

/-- A reader gives what reading gives, and leaves the stack it was given. -/
inductive Agrees (opened : List String) {cursor : Cursor} {given : List Lexeme} :
    Outcome (Stretch cursor) → Except CompileError (Reading given) → Prop where
  | failed (fault : CompileError) : Agrees opened ⟨.error fault, opened⟩ (.error fault)
  | read {stretch : Stretch cursor} {reading : Reading given} :
      stretch.nodes = reading.nodes →
      AtCursor reading.rest reading.position stretch.after →
        Agrees opened ⟨.ok stretch, opened⟩ (.ok reading)

theorem Agrees.behind {opened : List String} {cursor : Cursor} {round : Round cursor}
    {given rest : List Lexeme} {outcome : Outcome (Stretch round.after)}
    {reading : Except CompileError (Reading rest)}
    (agrees : Agrees opened outcome reading) (shorter : rest.length ≤ given.length) :
    Agrees opened (outcome.map (.behind round))
      (reading.map (@Reading.behind given rest round.nodes shorter)) := by
  cases agrees with
  | failed fault => exact .failed fault
  | read sameNodes there =>
      refine .read ?_ there
      simp only [Stretch.behind, Reading.behind, sameNodes]

/-- Passing an end tag at a cursor is closing an element. -/
theorem passEndTag_agrees {given : List Lexeme} {content : Reading given}
    {closing : Cursor} (name : String)
    (here : AtCursor content.rest content.position closing) :
    AtCursor (content.close name).rest (content.close name).position
      (passEndTag name closing) := by
  rcases content with ⟨nodes, rest, position, shorter⟩
  cases rest with
  | nil =>
      have ended := here.rest_eq_nil
      have isText : (Token.next closing).1 = (Token.textAt closing).1 := by
        rw [Token.next, ended]
      unfold passEndTag
      rw [isText]
      exact here
  | cons lexeme after =>
      obtain ⟨_, same, later⟩ := here.next
      rcases lexeme with ⟨token, span⟩
      have isToken : token = (Token.next closing).1 := congrArg Lexeme.token same
      unfold passEndTag
      rw [← isToken]
      cases token with
      | endTag ending =>
          cases matching : sameTag ending name with
          | true =>
              simp only [Reading.close, matching, ↓reduceIte]
              exact later
          | false =>
              simp only [Reading.close, matching, Bool.false_eq_true, ↓reduceIte]
              exact here
      | _ => exact here

theorem readElement_of_childless {opened : List String} {cursor : Cursor}
    (more : cursor.rest ≠ []) {name : String} (attributes : List SourceAttribute)
    {selfClosing : Bool} (childless : (selfClosing || isVoidTag name) = true) :
    readElement opened cursor more name attributes selfClosing =
      ⟨Round.element cursor (StartTag.ofSource name attributes) []
        (Token.next cursor).2 more (.refl _), opened⟩ := by
  rw [readElement]
  exact if_pos childless

section

variable {opened : List String} {cursor : Cursor} (more : cursor.rest ≠ [])
  {name : String} (attributes : List SourceAttribute) {selfClosing : Bool}
  (hasContent : (selfClosing || isVoidTag name) = false)
include hasContent

theorem readElement_of_fault {fault : CompileError}
    (content : readChildren (name :: opened) (Token.next cursor).2 =
      ⟨.error fault, name :: opened⟩) :
    readElement opened cursor more name attributes selfClosing =
      ⟨.error fault, opened⟩ := by
  rw [readElement, if_neg (Bool.eq_false_iff.mp hasContent), content]
  rfl

theorem readElement_of_content {stretch : Stretch (Token.next cursor).2}
    (content : readChildren (name :: opened) (Token.next cursor).2 =
      ⟨.ok stretch, name :: opened⟩) :
    readElement opened cursor more name attributes selfClosing =
      ⟨Round.element cursor (StartTag.ofSource name attributes) stretch.nodes
        (passEndTag name stretch.after) more
        (stretch.reaches.trans (reaches_passEndTag name stretch.after)), opened⟩ := by
  rw [readElement, if_neg (Bool.eq_false_iff.mp hasContent), content]
  rfl

end

/-- A reader that works at a cursor gives what reading lexemes gives, and its
stack comes back as it was. -/
theorem readChildren_agrees (opened : List String) (position : Nat)
    (given : List Lexeme) {cursor : Cursor} (here : AtCursor given position cursor) :
    Agrees opened (readChildren opened cursor) (readNodes opened position given) := by
  induction opened, position, given using readNodes_induct generalizing cursor with
  | ended opened position =>
      rw [readNodes_nil, readChildren_of_stop (readRound_of_end here.rest_eq_nil)]
      exact .read rfl here
  | closes opened position lexeme rest isClosing =>
      obtain ⟨more, rfl, _⟩ := here.next
      rw [readNodes_of_closes opened position rest isClosing,
        readChildren_of_stop (readRound_of_closes more isClosing)]
      exact .read rfl here
  | fault opened position lexeme rest fault isFault =>
      rw [here.readable] at isFault
      contradiction
  | single opened position lexeme rest stays readable single induction =>
      obtain ⟨more, rfl, later⟩ := here.next
      rw [readNodes_single opened position rest stays readable single,
        readChildren_of_round (readRound_of_single more stays single)]
      exact (induction later).behind _
  | childless opened position name attributes selfClosing span rest
      childless induction =>
      obtain ⟨more, same, later⟩ := here.next
      obtain ⟨isTag, rfl⟩ := Lexeme.mk.inj same
      have round :=
        @readRound_of_startTag opened cursor more name attributes
          selfClosing isTag.symm
      rw [readElement_of_childless more attributes childless,
        Outcome.map, Round.element] at round
      rw [readNodes_childless opened position attributes _ rest childless]
      cases made : Node.ofTag (StartTag.ofSource name attributes) []
          ⟨cursor.offset, (Token.next cursor).2.offset⟩ with
      | error fault =>
          rw [made] at round
          rw [readChildren_of_fault round]
          exact .failed fault
      | ok node =>
          rw [made] at round
          rw [readChildren_of_round round]
          exact (induction later).behind _
  | element opened position name attributes selfClosing span rest hasContent
      inner outer =>
      obtain ⟨more, same, later⟩ := here.next
      obtain ⟨isTag, rfl⟩ := Lexeme.mk.inj same
      have round :=
        @readRound_of_startTag opened cursor more name attributes
          selfClosing isTag.symm
      have content := inner later
      rw [readNodes_withContent opened position attributes _ rest hasContent]
      generalize inContent : readChildren (name :: opened) (Token.next cursor).2 =
        outcome at content
      cases readContent :
          readNodes (name :: opened) (Token.next cursor).2.offset rest with
      | error fault =>
          rw [readContent] at content
          cases content with
          | failed fault =>
              rw [readElement_of_fault more attributes hasContent inContent] at round
              rw [readChildren_of_fault round]
              exact .failed fault
      | ok reading =>
          rw [readContent] at content
          cases content with
          | @read stretch _ sameNodes there =>
              have behind := passEndTag_agrees name there
              rw [readElement_of_content more attributes hasContent inContent,
                Outcome.map, Round.element, sameNodes, ← behind.2,
                ← (reading.close_nested name).1] at round
              have isOk :
                  Except.ok reading = (pure reading : Except CompileError _) := rfl
              rw [isOk, pure_bind]
              cases made :
                Node.ofTag (StartTag.ofSource name attributes)
                  (reading.close name).nodes ⟨cursor.offset,
                    (reading.close name).position⟩ with
              | error fault =>
                  rw [made] at round
                  rw [readChildren_of_fault round]
                  exact .failed fault
              | ok node =>
                  rw [made] at round
                  rw [readChildren_of_round round]
                  exact (outer reading readContent behind).behind _

theorem Agrees.opened_eq {opened : List String} {cursor : Cursor} {given : List Lexeme}
    {outcome : Outcome (Stretch cursor)}
    {reading : Except CompileError (Reading given)}
    (agrees : Agrees opened outcome reading) : outcome.opened = opened := by
  cases agrees with
  | failed fault => rfl
  | read _ _ => rfl

/-- The stack comes back as it was from all three readers, whether they fail or not. -/
theorem readChildren_opened (opened : List String) (cursor : Cursor) :
    (readChildren opened cursor).opened = opened :=
  (@readChildren_agrees opened cursor.offset (lexemes cursor)
    cursor ⟨rfl, rfl⟩).opened_eq

theorem readElement_opened (opened : List String) (cursor : Cursor)
    (more : cursor.rest ≠ []) (name : String) (attributes : List SourceAttribute)
    (selfClosing : Bool) :
    (readElement opened cursor more name attributes selfClosing).opened = opened := by
  have pushed := readChildren_opened (name :: opened) (Token.next cursor).2
  rw [readElement]
  split
  · rfl
  · rcases content : readChildren (name :: opened) (Token.next cursor).2 with
      ⟨result, left⟩
    rw [content] at pushed
    obtain rfl : left = name :: opened := pushed
    cases result with
    | error fault => rfl
    | ok stretch => rfl

theorem readRound_opened (opened : List String) (cursor : Cursor) :
    (readRound opened cursor).opened = opened := by
  rw [readRound]
  split
  · rfl
  · split
    · rfl
    · split
      · exact readElement_opened opened cursor _ _ _ _
      · rfl
      · rfl

/-- A round stops only at the end and at the end tag of an open element. -/
theorem readRound_stops {opened : List String} {cursor : Cursor}
    (stops : (readRound opened cursor).result = .ok none) :
    cursor.rest = [] ∨ (Lexeme.at cursor).closes opened = true := by
  rw [readRound] at stops
  split at stops
  · next ended => exact .inl ended
  · split at stops
    · next closes => exact .inr closes
    · split at stops
      · obtain ⟨_, _, same⟩ := of_map_eq_ok stops
        contradiction
      · contradiction
      · cases stops

/-- Templates are read with a stack that is empty at first, up to their end. -/
theorem ofText_eq_stacked (source : String) :
    Tree.ofText source =
      (readChildren [] (Cursor.start source)).result.map fun stretch =>
        ⟨stretch.nodes, ⟨0, source.utf8ByteSize⟩⟩ := by
  have agrees :=
    @readChildren_agrees [] 0 (lexemes (Cursor.start source)) (Cursor.start source)
      ⟨rfl, rfl⟩
  rw [Tree.ofText]
  generalize readChildren [] (Cursor.start source) = outcome at agrees
  generalize readNodes [] 0 (lexemes (Cursor.start source)) = result at agrees
  cases agrees with
  | failed fault => rfl
  | @read stretch reading sameNodes there =>
      have tree : Except.ok (⟨stretch.nodes, ⟨0, source.utf8ByteSize⟩⟩ : Tree) =
          (.ok ⟨reading.nodes, ⟨0, source.utf8ByteSize⟩⟩ :
            Except CompileError Tree) := by
        rw [sameNodes]
      exact tree.symm

theorem stretch_ends {cursor : Cursor} {stretch : Stretch cursor}
    (read : (readChildren [] cursor).result = .ok stretch) :
    stretch.after.rest = [] := by
  have agrees :=
    @readChildren_agrees [] cursor.offset (lexemes cursor) cursor ⟨rfl, rfl⟩
  generalize readChildren [] cursor = outcome at agrees read
  cases readAll : readNodes [] cursor.offset (lexemes cursor) with
  | error fault =>
      rw [readAll] at agrees
      cases agrees
      contradiction
  | ok reading =>
      rw [readAll] at agrees
      cases agrees with
      | read _ there =>
          cases read
          rw [rest_of_readNodes readAll] at there
          exact there.rest_eq_nil

end VuePrecompiler.Template
