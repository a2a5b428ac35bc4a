import VuePrecompiler.Proofs.Nesting
import VuePrecompiler.Proofs.NodesInside

/-!
# Reading step by step

Reading goes through the lexemes of a template in steps: it stops at the end
or at the end tag of an open element, it fails at a lexeme that cannot be read,
it takes a lexeme that is no start tag, or it takes an element with its
content.  There is one equation for each kind
of step, and one induction over all of them.  `Reads` says what is read from
one cursor of a text to another.
-/

namespace VuePrecompiler.Template

open Source Text

/-- Whether a lexeme is the end tag of an open element. -/
def Lexeme.closes (opened : List String) (lexeme : Lexeme) : Bool :=
  match lexeme.token with
  | .endTag name => opened.any (sameTag name)
  | _ => false

/-- Nodes in front of what is read later. -/
def Reading.behind {given rest : List Lexeme} (nodes : List Node)
    (shorter : rest.length ≤ given.length) (more : Reading rest) : Reading given :=
  ⟨nodes ++ more.nodes, more.rest, more.position, Nat.le_trans more.rest_le shorter⟩

/-! ## The steps -/

section

variable (opened : List String) (position : Nat)

theorem readNodes_nil :
    readNodes opened position [] = .ok ⟨[], [], position, Nat.le_refl _⟩ := by
  rw [readNodes]

theorem readNodes_of_closes {lexeme : Lexeme} (rest : List Lexeme)
    (closes : lexeme.closes opened = true) :
    readNodes opened position (lexeme :: rest) =
      .ok ⟨[], lexeme :: rest, position, Nat.le_refl _⟩ := by
  rcases lexeme with ⟨token, span⟩
  cases token with
  | endTag name =>
      have closes : opened.any (sameTag name) = true := closes
      rw [readNodes]
      dsimp only
      rw [if_pos closes]
  | _ => contradiction

theorem readNodes_of_fault {lexeme : Lexeme} (rest : List Lexeme)
    {fault : CompileError} (isFault : lexeme.fault? = some fault) :
    readNodes opened position (lexeme :: rest) = .error fault := by
  rcases lexeme with ⟨token, span⟩
  cases token with
  | nameless found =>
      cases isFault
      rw [readNodes]
  | _ => contradiction

theorem readNodes_single {lexeme : Lexeme} (rest : List Lexeme)
    (stays : lexeme.closes opened = false) (readable : lexeme.fault? = none)
    (single : lexeme.opened? = none) :
    readNodes opened position (lexeme :: rest) =
      (readNodes opened lexeme.span.stop rest).map
        (.behind lexeme.leaf?.toList (Nat.le_add_right _ 1)) := by
  rcases lexeme with ⟨token, span⟩
  cases token with
  | startTag => contradiction
  | endTag name =>
      have stays : opened.any (sameTag name) = false := stays
      rw [readNodes]
      dsimp only
      rw [if_neg (Bool.eq_false_iff.mp stays)]
      cases readNodes opened span.stop rest <;> rfl
  | nameless => contradiction
  | _ =>
      rw [readNodes]
      cases readNodes opened span.stop rest <;> rfl

theorem readNodes_leaf {lexeme : Lexeme} {node : Node} (rest : List Lexeme)
    (isLeaf : lexeme.leaf? = some node) :
    readNodes opened position (lexeme :: rest) =
      (readNodes opened lexeme.span.stop rest).map
        (.behind [node] (Nat.le_add_right _ 1)) := by
  rcases lexeme with ⟨token, span⟩
  cases token with
  | comment => cases isLeaf; exact readNodes_single opened position rest rfl rfl rfl
  | text => cases isLeaf; exact readNodes_single opened position rest rfl rfl rfl
  | interpolation =>
      cases isLeaf
      exact readNodes_single opened position rest rfl rfl rfl
  | _ => contradiction

theorem readNodes_childless {name : String} (attributes : List SourceAttribute)
    {selfClosing : Bool} (span : Span) (rest : List Lexeme)
    (childless : (selfClosing || isVoidTag name) = true) :
    readNodes opened position (⟨.startTag name attributes selfClosing, span⟩ :: rest) =
      Node.ofTag (StartTag.ofSource name attributes) [] span >>= fun node =>
        (readNodes opened span.stop rest).map
          (.behind [node] (Nat.le_add_right _ 1)) := by
  rw [readNodes]
  dsimp only
  rw [if_pos childless]
  refine bind_congr fun node => ?_
  cases readNodes opened span.stop rest <;> rfl

theorem readNodes_withContent {name : String} (attributes : List SourceAttribute)
    {selfClosing : Bool} (span : Span) (rest : List Lexeme)
    (hasContent : (selfClosing || isVoidTag name) = false) :
    readNodes opened position (⟨.startTag name attributes selfClosing, span⟩ :: rest) =
      readNodes (name :: opened) span.stop rest >>= fun content =>
        Node.ofTag (StartTag.ofSource name attributes) (content.close name).nodes
            ⟨span.start, (content.close name).position⟩ >>= fun node =>
          (readNodes opened (content.close name).position
            (content.close name).rest).map (.behind [node]
            (Nat.le_succ_of_le (content.close name).rest_le)) := by
  rw [readNodes]
  dsimp only
  rw [if_neg (Bool.eq_false_iff.mp hasContent)]
  refine bind_congr fun content => bind_congr fun node => ?_
  cases readNodes opened (content.close name).position
    (content.close name).rest <;> rfl

end

/-- Induction over reading.  Behind an element it goes on with what the content
leaves, which is not a part of the list that was given. -/
@[elab_as_elim]
theorem readNodes_induct {motive : List String → Nat → List Lexeme → Prop}
    (ended : ∀ opened position, motive opened position [])
    (closes : ∀ opened position lexeme rest, lexeme.closes opened = true →
      motive opened position (lexeme :: rest))
    (fault : ∀ opened position lexeme rest fault, lexeme.fault? = some fault →
      motive opened position (lexeme :: rest))
    (single : ∀ opened position lexeme rest, lexeme.closes opened = false →
      lexeme.fault? = none → lexeme.opened? = none →
        motive opened lexeme.span.stop rest → motive opened position (lexeme :: rest))
    (childless : ∀ opened position name attributes selfClosing span rest,
      (selfClosing || isVoidTag name) = true → motive opened span.stop rest →
        motive opened position (⟨.startTag name attributes selfClosing, span⟩ :: rest))
    (element : ∀ opened position name attributes selfClosing span rest,
      (selfClosing || isVoidTag name) = false →
      motive (name :: opened) span.stop rest →
        (∀ content, readNodes (name :: opened) span.stop rest = .ok content →
          motive opened (content.close name).position (content.close name).rest) →
        motive opened position (⟨.startTag name attributes selfClosing, span⟩ :: rest))
    (opened : List String) (position : Nat) (given : List Lexeme) :
    motive opened position given := by
  match given with
  | [] => exact ended opened position
  | lexeme :: rest =>
      have next (opened : List String) (position : Nat) (later : List Lexeme)
          (_shorter : later.length ≤ rest.length) : motive opened position later :=
        readNodes_induct ended closes fault single childless element opened
          position later
      cases isClosing : lexeme.closes opened with
      | true => exact closes opened position lexeme rest isClosing
      | false =>
          rcases lexeme with ⟨token, span⟩
          cases token with
          | startTag name attributes selfClosing =>
              cases empty : selfClosing || isVoidTag name with
              | true =>
                  exact childless _ _ _ _ _ _ _ empty (next _ _ _ (Nat.le_refl _))
              | false =>
                  refine element _ _ _ _ _ _ _ empty (next _ _ _ (Nat.le_refl _)) ?_
                  exact fun content _ => next _ _ _ (content.close name).rest_le
          | nameless found => exact fault _ _ _ _ _ rfl
          | _ => exact single _ _ _ _ isClosing rfl rfl (next _ _ _ (Nat.le_refl _))
termination_by given.length
decreasing_by exact Nat.lt_succ_of_le _shorter

/-! ## The nodes of a start tag -/

theorem Lexeme.span_of_leaf? {lexeme : Lexeme} {node : Node}
    (isLeaf : lexeme.leaf? = some node) : node.span = lexeme.span := by
  rcases lexeme with ⟨token, span⟩
  cases token with
  | startTag => contradiction
  | nameless => contradiction
  | endTag => contradiction
  | declaration => contradiction
  | _ => cases isLeaf; rfl

theorem Node.IsLeaf.inside {node : Node} (isLeaf : node.IsLeaf) :
    node.inside = [] := by
  cases isLeaf <;> rfl

section

variable {property : Node → Prop} {tag : StartTag} {children : List Node} {span : Span}

theorem StartTag.inside_core : (tag.core children span).inside = children :=
  core_cases tag children span (List.append_nil children) rfl fun _ => rfl

theorem StartTag.span_core : (tag.core children span).span = span :=
  core_cases tag children span rfl rfl fun _ => rfl

/-- The wrappers that a tag asks for, what it makes of its content, and the
content are all the nodes of a start tag. -/
theorem throughout_ofTag {node : Node} (made : Node.ofTag tag children span = .ok node)
    (core : property (tag.core children span))
    (branch : ∀ kind condition, tag.branch? = some (kind, condition) →
      property (.ofBranch kind condition (tag.core children span) span))
    (loop : ∀ head body, tag.loop? = .ok (some head) → body.span = span →
      property (.loop head [body] span))
    (held : ∀ child ∈ children, child.Throughout property) :
    node.Throughout property := by
  obtain ⟨head, asked, rfl⟩ := of_ofTag_eq_ok made
  have coreEverywhere : (tag.core children span).Throughout property :=
    .intro core (StartTag.inside_core ▸ held)
  have inBranch :
      ((tag.core children span).inBranch tag.branch? span).Throughout property := by
    cases choice : tag.branch? with
    | none => exact coreEverywhere
    | some given =>
        refine .intro (branch given.1 given.2 choice) fun child member => ?_
        obtain rfl := List.mem_singleton.mp member
        exact coreEverywhere
  cases head with
  | none => exact inBranch
  | some head =>
      refine .intro (loop head _ asked ?_) fun child member => ?_
      · cases tag.branch? with
        | none => exact StartTag.span_core
        | some given => rfl
      · obtain rfl := List.mem_singleton.mp member
        exact inBranch

end

/-! ## From cursor to cursor -/

/-- The lexeme at a cursor. -/
def Lexeme.at (cursor : Cursor) : Lexeme :=
  ⟨(Token.next cursor).1, ⟨cursor.offset, (Token.next cursor).2.offset⟩⟩

/-- Wherever a cursor stands, the lexeme there can be read. -/
theorem Lexeme.readable_at (cursor : Cursor) : (Lexeme.at cursor).fault? = none := by
  rw [Lexeme.fault?, Lexeme.at]
  split
  · next found isNameless =>
      exact absurd isNameless (Token.next_ne_nameless cursor found)
  · rfl

/-- Some lexemes are those from a cursor on, and a position is where it stands. -/
def AtCursor (given : List Lexeme) (position : Nat) (cursor : Cursor) : Prop :=
  given = lexemes cursor ∧ position = cursor.offset

theorem AtCursor.next {cursor : Cursor} {lexeme : Lexeme} {rest : List Lexeme}
    {position : Nat} (here : AtCursor (lexeme :: rest) position cursor) :
    cursor.rest ≠ [] ∧ lexeme = .at cursor ∧
      AtCursor rest lexeme.span.stop (Token.next cursor).2 := by
  have shape := here.1
  rw [lexemes] at shape
  split at shape
  · contradiction
  · next more =>
    obtain ⟨rfl, rfl⟩ := List.cons.inj shape
    exact ⟨more, rfl, rfl, rfl⟩

theorem AtCursor.readable {cursor : Cursor} {lexeme : Lexeme} {rest : List Lexeme}
    {position : Nat} (here : AtCursor (lexeme :: rest) position cursor) :
    lexeme.fault? = none := by
  obtain ⟨_, rfl, _⟩ := here.next
  exact Lexeme.readable_at cursor

theorem AtCursor.rest_eq_nil {cursor : Cursor} {position : Nat}
    (here : AtCursor [] position cursor) : cursor.rest = [] := by
  have shape := here.1
  rw [lexemes] at shape
  split at shape
  · assumption
  · contradiction

/-- Where an element ends whose content ends at a cursor: there, or
behind an end tag. -/
inductive EndsElement (closing : Cursor) : Cursor → Prop where
  | unclosed : EndsElement closing closing
  | closed {name : String} :
      closing.rest ≠ [] → (Token.next closing).1 = .endTag name →
      EndsElement closing (Token.next closing).2

/-- What is read from one cursor to another.  A tag without content is left at once. -/
inductive Reads : Cursor → List Node → Cursor → Prop where
  | stop (cursor : Cursor) : Reads cursor [] cursor
  | single {cursor after : Cursor} {nodes : List Node} :
      cursor.rest ≠ [] → (Lexeme.at cursor).opened? = none →
        Reads (Token.next cursor).2 nodes after →
          Reads cursor ((Lexeme.at cursor).leaf?.toList ++ nodes) after
  | element {cursor closing behind after : Cursor} {name : String}
      {attributes : List SourceAttribute} {selfClosing : Bool} {children : List Node}
      {node : Node} {nodes : List Node} :
      cursor.rest ≠ [] →
        (Token.next cursor).1 = .startTag name attributes selfClosing →
        ((selfClosing || isVoidTag name) = true → children = []) →
        Reads (Token.next cursor).2 children closing → EndsElement closing behind →
        Node.ofTag (StartTag.ofSource name attributes) children
          ⟨cursor.offset, behind.offset⟩ =
          .ok node →
        Reads behind nodes after → Reads cursor (node :: nodes) after

theorem Reading.close_ends {given : List Lexeme} (name : String)
    {content : Reading given} {closing : Cursor}
    (here : AtCursor content.rest content.position closing) :
    ∃ behind, EndsElement closing behind ∧
      AtCursor (content.close name).rest (content.close name).position behind := by
  unfold Reading.close
  split
  · next ending span after shape =>
    rw [shape] at here
    obtain ⟨more, same, behind⟩ := here.next
    split
    · exact ⟨_, .closed more (congrArg Lexeme.token same).symm, behind⟩
    · exact ⟨closing, .unclosed, shape ▸ here⟩
  · exact ⟨closing, .unclosed, here⟩

/-- What is read without an error leads from cursor to cursor. -/
theorem readNodes_reads (opened : List String) (position : Nat) (given : List Lexeme)
    {reading : Reading given} (read : readNodes opened position given = .ok reading)
    {cursor : Cursor} (here : AtCursor given position cursor) :
    ∃ after, Reads cursor reading.nodes after ∧
      AtCursor reading.rest reading.position after := by
  induction opened, position, given using readNodes_induct generalizing cursor with
  | ended opened position =>
      rw [readNodes_nil] at read
      cases read
      exact ⟨cursor, .stop cursor, here⟩
  | closes opened position lexeme rest isClosing =>
      rw [readNodes_of_closes opened position rest isClosing] at read
      cases read
      exact ⟨cursor, .stop cursor, here⟩
  | fault opened position lexeme rest fault isFault =>
      rw [here.readable] at isFault
      contradiction
  | single opened position lexeme rest stays readable single induction =>
      rw [readNodes_single opened position rest stays readable single] at read
      obtain ⟨more, readMore, rfl⟩ := of_map_eq_ok read
      obtain ⟨left, rfl, later⟩ := here.next
      obtain ⟨after, reads, there⟩ := induction readMore later
      exact ⟨after, .single left single reads, there⟩
  | childless opened position name attributes selfClosing span rest
      childless induction =>
      rw [readNodes_childless opened position attributes span rest childless] at read
      obtain ⟨node, made, read⟩ := of_bind_eq_ok read
      obtain ⟨more, readMore, rfl⟩ := of_map_eq_ok read
      obtain ⟨left, same, later⟩ := here.next
      obtain ⟨after, reads, there⟩ := induction readMore later
      obtain ⟨isTag, rfl⟩ := Lexeme.mk.inj same
      have empty : (selfClosing || isVoidTag name) = true → [] = ([] : List Node) :=
        fun _ => rfl
      exact ⟨after, .element left isTag.symm empty (.stop _) .unclosed made reads,
        there⟩
  | element opened position name attributes selfClosing span rest hasContent
      inner outer =>
      rw [readNodes_withContent opened position attributes span
        rest hasContent] at read
      obtain ⟨content, readContent, read⟩ := of_bind_eq_ok read
      obtain ⟨node, made, read⟩ := of_bind_eq_ok read
      obtain ⟨more, readMore, rfl⟩ := of_map_eq_ok read
      obtain ⟨left, same, later⟩ := here.next
      obtain ⟨isTag, rfl⟩ := Lexeme.mk.inj same
      obtain ⟨closing, readsContent, atClosing⟩ := inner readContent later
      obtain ⟨behind, ends, atBehind⟩ := Reading.close_ends name atClosing
      obtain ⟨after, reads, there⟩ := outer content readContent readMore atBehind
      rw [(content.close_nested name).1, atBehind.2] at made
      refine ⟨after, .element left isTag.symm ?_ readsContent ends made reads, there⟩
      intro childless
      rw [hasContent] at childless
      contradiction

theorem EndsElement.reaches {closing behind : Cursor}
    (ends : EndsElement closing behind) : closing.Reaches behind := by
  cases ends with
  | unclosed => exact .refl closing
  | closed _ _ => exact Token.reaches_next closing

theorem Reads.reaches {cursor after : Cursor} {nodes : List Node}
    (reads : Reads cursor nodes after) : cursor.Reaches after := by
  induction reads with
  | stop cursor => exact .refl cursor
  | @single cursor _ _ _ _ _ induction =>
      exact (Token.reaches_next cursor).trans induction
  | @element cursor _ _ _ _ _ _ _ _ _ _ _ _ _ ends _ _ inner outer =>
      exact (Token.reaches_next cursor).trans (inner.trans (ends.reaches.trans outer))

/-- A template is read to its end. -/
theorem rest_of_readNodes {position : Nat} {given : List Lexeme}
    {reading : Reading given} (read : readNodes [] position given = .ok reading) :
    reading.rest = [] := by
  rcases (readNodes_nested [] position given read).1 with ended | ⟨_, _, _, _, isOpen⟩
  · exact ended
  · contradiction

theorem ofText_reads {source : String} {tree : Tree}
    (read : Tree.ofText source = .ok tree) :
    ∃ after, Reads (Cursor.start source) tree.children after ∧ after.rest = [] ∧
      tree.span = ⟨0, source.utf8ByteSize⟩ := by
  obtain ⟨reading, readAll, built⟩ := of_bind_eq_ok read
  cases built
  obtain ⟨after, reads, there⟩ := readNodes_reads [] 0 _ readAll ⟨rfl, rfl⟩
  rw [rest_of_readNodes readAll] at there
  exact ⟨after, reads, there.rest_eq_nil, rfl⟩

/-! ## Faults

Reading fails only at a start tag whose loop expression cannot be read, since no
lexeme of a text is a tag without a name. -/

/-- A fault at a `v-for` directive: it has no value, or one that is
no loop expression. -/
def Directive.LoopFault (directive : Directive) (fault : CompileError) : Prop :=
  directive.value = none ∧ fault = .invalidLoop "" directive.span ∨
    ∃ code, directive.value = some code ∧ LoopHead.ofCode? code = none ∧
      fault = .invalidLoop code.content code.span

theorem StartTag.of_loop?_eq_error {tag : StartTag} {fault : CompileError}
    (failed : tag.loop? = .error fault) :
    ∃ directive, tag.directive? "for" = some directive ∧
      directive.LoopFault fault := by
  unfold StartTag.loop? at failed
  split at failed
  · next directive given =>
    have unread := of_map_eq_error failed
    refine ⟨directive, given, ?_⟩
    unfold LoopHead.ofDirective at unread
    split at unread
    · next missing =>
      cases unread
      exact .inl ⟨missing, rfl⟩
    · next code isValue =>
      split at unread
      · contradiction
      · next noHead =>
        cases unread
        exact .inr ⟨code, isValue, noHead, rfl⟩
  · contradiction

theorem of_ofTag_eq_error {tag : StartTag} {children : List Node} {span : Span}
    {fault : CompileError} (failed : Node.ofTag tag children span = .error fault) :
    tag.loop? = .error fault := by
  rw [ofTag_eq] at failed
  exact of_map_eq_error failed

/-- There is a start tag behind a cursor whose loop expression cannot be read. -/
def FaultBehind (cursor : Cursor) (fault : CompileError) : Prop :=
  ∃ here, cursor.Reaches here ∧ ∃ name attributes selfClosing,
    (Token.next here).1 = .startTag name attributes selfClosing ∧
      (StartTag.ofSource name attributes).loop? = .error fault

theorem FaultBehind.earlier {first second : Cursor} {fault : CompileError}
    (reaches : first.Reaches second) (behind : FaultBehind second fault) :
    FaultBehind first fault := by
  obtain ⟨here, later, isFault⟩ := behind
  exact ⟨here, reaches.trans later, isFault⟩

theorem readNodes_fault (opened : List String) (position : Nat) (given : List Lexeme)
    {fault : CompileError} (failed : readNodes opened position given = .error fault)
    {cursor : Cursor} (here : AtCursor given position cursor) :
    FaultBehind cursor fault := by
  induction opened, position, given using readNodes_induct generalizing cursor with
  | ended opened position =>
      rw [readNodes_nil] at failed
      contradiction
  | closes opened position lexeme rest isClosing =>
      rw [readNodes_of_closes opened position rest isClosing] at failed
      contradiction
  | fault opened position lexeme rest fault isFault =>
      rw [here.readable] at isFault
      contradiction
  | single opened position lexeme rest stays readable single induction =>
      rw [readNodes_single opened position rest stays readable single] at failed
      obtain ⟨_, rfl, later⟩ := here.next
      exact (induction (of_map_eq_error failed) later).earlier
        (Token.reaches_next cursor)
  | childless opened position name attributes selfClosing span rest
      childless induction =>
      rw [readNodes_childless opened position attributes span rest childless] at failed
      obtain ⟨_, same, later⟩ := here.next
      rcases of_bind_eq_error failed with atTag | ⟨node, _, failed⟩
      · exact ⟨cursor, .refl cursor, name, attributes, selfClosing,
          (congrArg Lexeme.token same).symm, of_ofTag_eq_error atTag⟩
      · exact (induction (of_map_eq_error failed) later).earlier
          (Token.reaches_next cursor)
  | element opened position name attributes selfClosing span rest hasContent
      inner outer =>
      rw [readNodes_withContent opened position attributes span
        rest hasContent] at failed
      obtain ⟨_, same, later⟩ := here.next
      have step := Token.reaches_next cursor
      rcases of_bind_eq_error failed with inContent | ⟨content, readContent, failed⟩
      · exact (inner inContent later).earlier step
      · rcases of_bind_eq_error failed with atTag | ⟨node, _, failed⟩
        · exact ⟨cursor, .refl cursor, name, attributes, selfClosing,
            (congrArg Lexeme.token same).symm, of_ofTag_eq_error atTag⟩
        · obtain ⟨closing, reads, atClosing⟩ := readNodes_reads _ _ _ readContent later
          obtain ⟨behind, ends, atBehind⟩ := Reading.close_ends name atClosing
          have front := step.trans (reads.reaches.trans ends.reaches)
          exact (outer content readContent
            (of_map_eq_error failed) atBehind).earlier front

theorem ofText_fault {source : String} {fault : CompileError}
    (failed : Tree.ofText source = .error fault) :
    FaultBehind (Cursor.start source) fault := by
  rcases of_bind_eq_error failed with failed | ⟨reading, _, failed⟩
  · exact readNodes_fault [] 0 _ failed ⟨rfl, rfl⟩
  · contradiction

end VuePrecompiler.Template
