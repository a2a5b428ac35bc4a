import VuePrecompiler.Proofs.LexemeSlices
import VuePrecompiler.Proofs.ReadingSteps
import VuePrecompiler.Proofs.StackedReading

/-!
# Reading ends at the end

However malformed a text is, reading it ends: every round of its two loops,
over nodes and over attributes, passes some text.  What is taken on the way
falls between characters, the stack of open elements comes back, all of the
text is read, and only a loop expression can be at fault.
-/

namespace VuePrecompiler.Template

open Source Text

namespace Token

/-! ## The attributes of a start tag -/

/-- One round of reading attributes: nothing where they end, else an attribute or
a passed character, and the cursor behind it. -/
def attributeRound? (cursor : Cursor) : Option (Option SourceAttribute × Cursor) :=
  let here := cursor.skipBlanks
  if endsAttributes here then none
  else
    let name := here.takeWhile isAttributeChar
    if name.1 = [] then some (none, here.bump)
    else
      let value := valueAfterName name.2
      some (some ⟨name.1, value.1, ⟨here.offset, value.2.offset⟩⟩, value.2)

theorem attributes_eq_rounds (cursor : Cursor) :
    attributes cursor =
      match attributeRound? cursor with
      | none => ([], cursor.skipBlanks)
      | some (item, after) =>
          (item.toList ++ (attributes after).1, (attributes after).2) := by
  rw [attributes, attributeRound?]
  dsimp only
  split
  · rfl
  · split
    · rfl
    · rfl

theorem attributeRound?_advances {cursor after : Cursor}
    {item : Option SourceAttribute}
    (round : attributeRound? cursor = some (item, after)) :
    cursor.Reaches after ∧ cursor.offset < after.offset := by
  have blanks := cursor.reaches_skipBlanks
  unfold attributeRound? at round
  dsimp only at round
  split at round
  · contradiction
  · next goesOn =>
    split at round
    · cases round
      have step := Cursor.reaches_bump cursor.skipBlanks
      have more : cursor.skipBlanks.rest ≠ [] := by
        intro ended
        apply goesOn
        rw [endsAttributes, ended]
        rfl
      have advances := step.offset_lt (Cursor.length_bump_lt more)
      exact ⟨blanks.trans step, Nat.lt_of_le_of_lt blanks.le advances⟩
    · next named =>
      cases round
      have name := Cursor.reaches_takeWhile isAttributeChar cursor.skipBlanks
      have value :=
        reaches_valueAfterName (cursor.skipBlanks.takeWhile isAttributeChar).2
      have advances := name.offset_lt (Cursor.length_takeWhile_lt named)
      exact ⟨blanks.trans (name.trans value),
        Nat.lt_of_le_of_lt blanks.le (Nat.lt_of_lt_of_le advances value.le)⟩

/-- A start tag has a name. -/
theorem name_of_startTag {cursor : Cursor} {name : String}
    {attributes : List SourceAttribute}
    {selfClosing : Bool}
    (isTag : (next cursor).1 = .startTag name attributes selfClosing) : name ≠ "" := by
  unfold next at isTag
  split at isTag
  case h_4 c tail _ _ _ shape =>
    split at isTag
    · next letter =>
      rw [tagAt_of_letter shape letter, startTagAt_fst,
        name_of_letter shape letter] at isTag
      cases isTag
      intro empty
      have none : (c :: tail.takeWhile isTagChar) = [] :=
        String.ofList_eq_empty_iff.mp empty
      contradiction
    · contradiction
  all_goals contradiction

/-- No slice of a text is cut out at a position that it does not have. -/
theorem lexemes_taken {source : String} {cursor : Cursor}
    (stands : cursor.StandsIn source) : ∀ lexeme ∈ lexemes cursor,
      lexeme.span.LiesIn source ∧ lexeme.token.IsTaken source lexeme.span := by
  intro lexeme member
  obtain ⟨here, reaches, rfl⟩ := exists_cursor_of_mem_lexemes member
  have standsHere := stands.next reaches
  exact ⟨standsHere.liesIn (reaches_next here), next_taken standsHere⟩

end Token

/-- What reading a source comes to, be it well-formed or not. -/
structure ReadsToEnd (source : String) : Prop where
  /-- Templates are read in rounds, with an empty stack of open elements at first. -/
  inRounds : Tree.ofText source =
    (readChildren [] (Cursor.start source)).result.map fun stretch =>
      ⟨stretch.nodes, ⟨0, source.utf8ByteSize⟩⟩
  roundStops : ∀ opened cursor, (readRound opened cursor).result = .ok none →
    cursor.rest = [] ∨ (Lexeme.at cursor).closes opened = true
  roundAdvances : ∀ opened cursor round, (readRound opened cursor).result =
    .ok (some round) →
    cursor.Reaches round.after ∧ cursor.offset < round.after.offset
  attributesInRounds : ∀ cursor, Token.attributes cursor =
    match Token.attributeRound? cursor with
    | none => ([], cursor.skipBlanks)
    | some (item, after) =>
      (item.toList ++ (Token.attributes after).1, (Token.attributes after).2)
  attributeAdvances :
    ∀ cursor item after, Token.attributeRound? cursor = some (item, after) →
    cursor.Reaches after ∧ cursor.offset < after.offset
  /-- Wherever a cursor gets to, it stands between characters. -/
  between : ∀ cursor, (Cursor.start source).Reaches cursor →
    cursor.offset ≤ source.utf8ByteSize ∧ IsCut source.toList cursor.offset
  slices : ∀ lexeme ∈ lexemes (Cursor.start source),
    lexeme.span.LiesIn source ∧ lexeme.token.IsTaken source lexeme.span
  /-- All three readers leave the stack as it was, also when they fail. -/
  stackKept : ∀ opened cursor,
    (readChildren opened cursor).opened = opened ∧
    (readRound opened cursor).opened = opened ∧
    ∀ more name attributes selfClosing,
      (readElement opened cursor more name attributes selfClosing).opened = opened
  toTheEnd : ∀ stretch, (readChildren [] (Cursor.start source)).result = .ok stretch →
    stretch.after.rest = [] ∧ stretch.after.offset = source.utf8ByteSize
  named : ∀ cursor name attributes selfClosing,
    (Token.next cursor).1 = .startTag name attributes selfClosing → name ≠ ""
  /-- No round comes to the error of a tag without a name. -/
  notNameless : ∀ cursor found, (Token.next cursor).1 ≠ .nameless found
  onlyFault : ∀ fault, Tree.ofText source = .error fault →
    ∃ expression span, fault = .invalidLoop expression span

theorem ofText_readsToEnd (source : String) : ReadsToEnd source where
  inRounds := ofText_eq_stacked source
  roundStops _ _ := readRound_stops
  roundAdvances _ _ round _ := ⟨round.reaches, round.advances⟩
  attributesInRounds := Token.attributes_eq_rounds
  attributeAdvances _ _ _ := Token.attributeRound?_advances
  between cursor reaches := by
    have stands : cursor.StandsIn source := reaches
    exact ⟨stands.size ▸ Nat.le_add_right _ _, stands.isCut⟩
  slices := Token.lexemes_taken (Cursor.StandsIn.start source)
  stackKept opened cursor :=
    ⟨readChildren_opened opened cursor, readRound_opened opened cursor,
      readElement_opened opened cursor⟩
  toTheEnd stretch read := by
    have ended := stretch_ends read
    have stands : stretch.after.StandsIn source := stretch.reaches
    refine ⟨ended, ?_⟩
    rw [← stands.size, ended, byteLength_nil, Nat.add_zero]
  named _ _ _ _ := Token.name_of_startTag
  notNameless := Token.next_ne_nameless
  onlyFault fault failed := by
    obtain ⟨_, _, _, _, _, _, unread⟩ := ofText_fault failed
    obtain ⟨directive, _, isFault⟩ := StartTag.of_loop?_eq_error unread
    rcases isFault with ⟨_, same⟩ | ⟨code, _, _, same⟩
    · exact ⟨"", directive.span, same⟩
    · exact ⟨code.content, code.span, same⟩

end VuePrecompiler.Template
