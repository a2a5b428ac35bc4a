import VuePrecompiler.Proofs.NodesInside
import VuePrecompiler.Proofs.ReadingSteps
import VuePrecompiler.Proofs.Slices

/-!
# A pass with a stack of open elements

A template can be read in one pass over its lexemes that keeps the open
elements on a stack.  An end tag closes the innermost element of its name and
all elements opened after it, which end where the end tag starts; one that
matches no open element changes nothing; and the end of the template closes
all.  This pass gives the tree that reading gives, or the same error.
-/

namespace VuePrecompiler.Template

open Source Text

/-- An element whose end has not been reached. -/
structure OpenElement where
  name : String
  tag : StartTag
  start : Nat
  /-- The nodes in front of it, the latest first. -/
  before : List Node

/-- The node of an open element, given its content, the latest first. -/
def OpenElement.node (element : OpenElement) (content : List Node) (stop : Nat) :
    Except CompileError Node :=
  Node.ofTag element.tag content.reverse ⟨element.start, stop⟩

/-- What a pass has read: the open elements, the innermost first, and the content
of the innermost one so far, the latest first. -/
structure Pass where
  opened : List OpenElement
  nodes : List Node

namespace Pass

/-- Close open elements up to the innermost one of a name, which ends
behind the end tag. -/
def closeUpTo (name : String) (endTag : Span) : List OpenElement → List Node →
    Except CompileError Pass
  | [], nodes => .ok ⟨[], nodes⟩
  | element :: outer, nodes =>
    if sameTag name element.name then do
      let node ← element.node nodes endTag.stop
      return ⟨outer, node :: element.before⟩
    else do
      let node ← element.node nodes endTag.start
      closeUpTo name endTag outer (node :: element.before)

/-- Close all open elements; they end at the end of the template. -/
def closeAll (stop : Nat) :
    List OpenElement → List Node → Except CompileError (List Node)
  | [], nodes => .ok nodes.reverse
  | element :: outer, nodes => do
    let node ← element.node nodes stop
    closeAll stop outer (node :: element.before)

def add (pass : Pass) (node : Node) : Pass :=
  { pass with nodes := node :: pass.nodes }

/-- Pass one lexeme. -/
def step (pass : Pass) (lexeme : Lexeme) : Except CompileError Pass :=
  match lexeme.token with
  | .startTag name attributes selfClosing =>
    let tag := StartTag.ofSource name attributes
    if selfClosing || isVoidTag name then pass.add <$> Node.ofTag tag [] lexeme.span
    else .ok ⟨⟨name, tag, lexeme.span.start, pass.nodes⟩ :: pass.opened, []⟩
  | .nameless found => .error (.unexpectedToken "tag name" found lexeme.span)
  | .endTag name =>
    if pass.opened.any (sameTag name ·.name) then
      closeUpTo name lexeme.span pass.opened pass.nodes
    else .ok pass
  | .comment content => .ok (pass.add (.comment content lexeme.span))
  | .declaration => .ok pass
  | .interpolation content inner =>
    .ok (pass.add (.interpolation ⟨Text.trimmed content, inner⟩ lexeme.span))
  | .text content => .ok (pass.add (.text content lexeme.span))

end Pass

/-- The tree of a template, read in one pass over its lexemes. -/
def Tree.ofPass (source : String) : Except CompileError Tree := do
  let pass ← (lexemes (Cursor.start source)).foldlM Pass.step ⟨[], []⟩
  let nodes ← Pass.closeAll source.utf8ByteSize pass.opened pass.nodes
  return ⟨nodes, ⟨0, source.utf8ByteSize⟩⟩

namespace Pass

/-- Pass the remaining lexemes of a template and close what is open. -/
def finish (stop : Nat) (pass : Pass) (rest : List Lexeme) :
    Except CompileError (List Node) :=
  rest.foldlM step pass >>= fun pass => closeAll stop pass.opened pass.nodes

theorem finish_cons (stop : Nat) (pass : Pass) (lexeme : Lexeme) (rest : List Lexeme) :
    finish stop pass (lexeme :: rest) = step pass lexeme >>= (finish stop · rest) := by
  rw [finish, List.foldlM_cons, bind_assoc]
  rfl

theorem step_single {pass : Pass} {lexeme : Lexeme}
    (stays : lexeme.closes (pass.opened.map OpenElement.name) = false)
    (readable : lexeme.fault? = none) (single : lexeme.opened? = none) :
    step pass lexeme = .ok ⟨pass.opened, lexeme.leaf?.toList ++ pass.nodes⟩ := by
  rcases lexeme with ⟨token, span⟩
  cases token with
  | startTag => contradiction
  | endTag name =>
      have stays : (pass.opened.map OpenElement.name).any (sameTag name) =
          false := stays
      rw [List.any_map] at stays
      exact if_neg (Bool.eq_false_iff.mp stays)
  | nameless => contradiction
  | _ => rfl

/-- An end tag that matches an outer element closes the innermost
one where it starts. -/
theorem finish_outer (stop : Nat) {element : OpenElement} {outer : List OpenElement}
    {nodes : List Node} {name : String} {span : Span} (rest : List Lexeme)
    (other : sameTag name element.name = false)
    (isOpen : (outer.map OpenElement.name).any (sameTag name) = true) :
    finish stop ⟨element :: outer, nodes⟩ (⟨.endTag name, span⟩ :: rest) =
      element.node nodes span.start >>= fun node =>
        finish stop ⟨outer, node :: element.before⟩
          (⟨.endTag name, span⟩ :: rest) := by
  rw [List.any_map] at isOpen
  have outerOpen : outer.any (sameTag name ·.name) = true := isOpen
  have someOpen : (element :: outer).any (sameTag name ·.name) = true := by
    rw [List.any_cons, outerOpen, Bool.or_true]
  rw [finish_cons]
  simp only [finish_cons, step, someOpen, outerOpen, ↓reduceIte, closeUpTo, other,
    Bool.false_eq_true, bind_assoc]

theorem finish_matching (stop : Nat) {element : OpenElement} {outer : List OpenElement}
    {nodes : List Node} {name : String} {span : Span} (rest : List Lexeme)
    (matching : sameTag name element.name = true) :
    finish stop ⟨element :: outer, nodes⟩ (⟨.endTag name, span⟩ :: rest) =
      element.node nodes span.stop >>= fun node =>
        finish stop ⟨outer, node :: element.before⟩ rest := by
  have someOpen : (element :: outer).any (sameTag name ·.name) = true := by
    rw [List.any_cons, matching, Bool.true_or]
  rw [finish_cons]
  simp only [step, someOpen, ↓reduceIte, closeUpTo, matching, bind_assoc, pure_bind]

theorem finish_nil (stop : Nat) (element : OpenElement) (outer : List OpenElement)
    (nodes : List Node) :
    finish stop ⟨element :: outer, nodes⟩ [] =
      element.node nodes stop >>= fun node =>
        finish stop ⟨outer, node :: element.before⟩ [] := by
  simp only [finish, List.foldlM_nil, pure_bind, closeAll]

/-- The content of an element has been passed: the element is closed where
reading closes it. -/
theorem finish_content {stop : Nat} (element : OpenElement) (outer : List OpenElement)
    {given : List Lexeme} {content : Reading given} {closing : Cursor}
    (stops : StopsReading (element.name :: outer.map OpenElement.name) content.rest)
    (here : AtCursor content.rest content.position closing)
    (ending : stop = closing.offset + byteLength closing.rest) :
    finish stop ⟨element :: outer, content.nodes.reverse⟩ content.rest =
      Node.ofTag element.tag (content.close element.name).nodes
          ⟨element.start, (content.close element.name).position⟩ >>= fun node =>
        finish stop ⟨outer, node :: element.before⟩
          (content.close element.name).rest := by
  rcases content with ⟨nodes, rest, position, shorter⟩
  rcases stops with ended | ⟨name, span, after, shape, isOpen⟩
  · obtain rfl : rest = [] := ended
    have place : position = stop := by
      rw [ending, here.rest_eq_nil, byteLength_nil]
      exact here.2
    rw [finish_nil, OpenElement.node, List.reverse_reverse, ← place]
    rfl
  · obtain rfl : rest = ⟨.endTag name, span⟩ :: after := shape
    cases matching : sameTag name element.name with
    | true =>
        rw [finish_matching stop after matching, OpenElement.node,
          List.reverse_reverse]
        simp only [Reading.close, matching, ↓reduceIte]
    | false =>
        have outerOpen : (outer.map OpenElement.name).any (sameTag name) = true := by
          rw [List.any_cons, matching, Bool.false_or] at isOpen
          exact isOpen
        have place : position = span.start :=
          here.2.trans (congrArg (·.span.start) here.next.2.1).symm
        rw [finish_outer stop after matching outerOpen, OpenElement.node,
          List.reverse_reverse, ← place]
        simp only [Reading.close, matching, Bool.false_eq_true, ↓reduceIte]

theorem map_bind_eq {ε α β γ : Type} (result : Except ε α) (f : α → β)
    (next : β → Except ε γ) :
    result.map f >>= next = result >>= fun value => next (f value) := by
  cases result <;> rfl

/-- A pass adds what reading reads. -/
theorem finish_eq_read {stop : Nat} (opened : List String) (position : Nat)
    (given : List Lexeme) {pass : Pass}
    (names : pass.opened.map OpenElement.name = opened) {cursor : Cursor}
    (here : AtCursor given position cursor)
    (ending : stop = cursor.offset + byteLength cursor.rest) :
    finish stop pass given = readNodes opened position given >>= fun reading =>
      finish stop ⟨pass.opened, reading.nodes.reverse ++ pass.nodes⟩ reading.rest := by
  induction opened, position,
    given using readNodes_induct generalizing pass cursor with
  | ended opened position =>
      rw [readNodes_nil]
      rfl
  | closes opened position lexeme rest isClosing =>
      rw [readNodes_of_closes opened position rest isClosing]
      rfl
  | fault opened position lexeme rest fault isFault =>
      rw [here.readable] at isFault
      contradiction
  | single opened position lexeme rest stays readable single induction =>
      subst names
      obtain ⟨_, rfl, later⟩ := here.next
      rw [readNodes_single _ position rest stays readable single, map_bind_eq,
        finish_cons, step_single stays readable single]
      have turned : (Lexeme.at cursor).leaf?.toList.reverse =
          (Lexeme.at cursor).leaf?.toList := by
        cases (Lexeme.at cursor).leaf? <;> rfl
      refine (@induction ⟨pass.opened, (Lexeme.at cursor).leaf?.toList ++ pass.nodes⟩
        rfl _ later (ending.trans (Token.reaches_next cursor).stop_eq.symm)).trans ?_
      refine bind_congr fun more => ?_
      rw [Reading.behind, List.reverse_append, turned, List.append_assoc]
  | childless opened position name attributes selfClosing span rest
      childless induction =>
      subst names
      obtain ⟨_, same, later⟩ := here.next
      have stepped : step pass ⟨.startTag name attributes selfClosing, span⟩ =
          pass.add <$> Node.ofTag (StartTag.ofSource name attributes) [] span :=
        if_pos childless
      rw [readNodes_childless _ position attributes span rest childless, finish_cons,
        stepped, bind_assoc, bind_map_left]
      refine bind_congr fun node => ?_
      rw [map_bind_eq]
      refine (@induction (pass.add node) rfl _ later
        (ending.trans (Token.reaches_next cursor).stop_eq.symm)).trans ?_
      refine bind_congr fun more => ?_
      rw [Reading.behind, List.reverse_append, List.append_assoc]
      rfl
  | element opened position name attributes selfClosing span rest hasContent
      inner outer =>
      subst names
      obtain ⟨_, same, later⟩ := here.next
      have stepped : step pass ⟨.startTag name attributes selfClosing, span⟩ =
          .ok ⟨⟨name, StartTag.ofSource name attributes, span.start, pass.nodes⟩ ::
            pass.opened, []⟩ :=
        if_neg (Bool.eq_false_iff.mp hasContent)
      have nextEnding := ending.trans (Token.reaches_next cursor).stop_eq.symm
      rw [readNodes_withContent _ position attributes span rest hasContent,
        finish_cons, stepped]
      let element : OpenElement :=
        ⟨name, StartTag.ofSource name attributes, span.start, pass.nodes⟩
      refine (@inner ⟨element :: pass.opened, []⟩ rfl _ later nextEnding).trans ?_
      simp only [bind_assoc, map_bind_eq]
      cases readContent :
        readNodes (name :: pass.opened.map OpenElement.name) span.stop rest with
      | error fault => rfl
      | ok content =>
          obtain ⟨closing, reads, atClosing⟩ := readNodes_reads _ _ _ readContent later
          obtain ⟨stops, _⟩ := readNodes_nested _ _ _ readContent
          have closed := finish_content element pass.opened stops atClosing
            (nextEnding.trans reads.reaches.stop_eq.symm)
          obtain ⟨behind, ends, atBehind⟩ := Reading.close_ends name atClosing
          have behindEnding : stop = behind.offset + byteLength behind.rest :=
            nextEnding.trans (reads.reaches.trans ends.reaches).stop_eq.symm
          have isOk : Except.ok content = (pure content : Except CompileError _) := rfl
          rw [isOk, pure_bind, pure_bind, List.append_nil, closed]
          refine bind_congr fun node => ?_
          refine (@outer content readContent ⟨pass.opened, node :: pass.nodes⟩ rfl _
            atBehind behindEnding).trans ?_
          refine bind_congr fun more => ?_
          rw [Reading.behind, List.reverse_append, List.append_assoc]
          rfl

end Pass

theorem ofPass_eq_ofText (source : String) :
    Tree.ofPass source = Tree.ofText source := by
  have ending : source.utf8ByteSize =
      (Cursor.start source).offset + byteLength (Cursor.start source).rest :=
    (Cursor.StandsIn.start source).size.symm
  have passes : Tree.ofPass source =
      Pass.finish source.utf8ByteSize ⟨[], []⟩ (lexemes (Cursor.start source)) >>=
        fun nodes =>
          .ok ⟨nodes, ⟨0, source.utf8ByteSize⟩⟩ := by
    rw [Pass.finish, bind_assoc]
    rfl
  rw [passes, Pass.finish_eq_read [] 0 _ rfl ⟨rfl, rfl⟩ ending,
    bind_assoc, Tree.ofText]
  cases read : readNodes [] 0 (lexemes (Cursor.start source)) with
  | error fault => rfl
  | ok reading =>
      have ended := rest_of_readNodes read
      have isOk : Except.ok reading = (pure reading : Except CompileError _) := rfl
      rw [isOk, pure_bind, pure_bind, ended, Pass.finish, List.foldlM_nil, pure_bind,
        Pass.closeAll, List.append_nil, List.reverse_reverse]
      rfl

/-! ## Tags without content -/

/-- What stands between the tags of a node. -/
def Node.content : Node → List Node
  | .element _ children _ _ => children
  | .outlet _ fallback _ => fallback
  | .slotTemplate _ children _ => children
  | _ => []

/-- Whether a lexeme is a start tag of an element without content. -/
def Lexeme.isChildless (lexeme : Lexeme) : Bool :=
  match lexeme.token with
  | .startTag name _ selfClosing => selfClosing || isVoidTag name
  | _ => false

/-- A node without content, if the lexeme at its start asks for none. -/
def Node.IsEmptyAt (source : String) (node : Node) : Prop :=
  ∀ cursor, cursor.StandsIn source → cursor.offset = node.span.start →
    (Lexeme.at cursor).isChildless = true → node.content = []

theorem StartTag.content_core (tag : StartTag) (children : List Node) (span : Span) :
    (tag.core children span).content = children :=
  core_cases tag children span rfl rfl fun _ => rfl

theorem Node.IsLeaf.content {node : Node} (isLeaf : node.IsLeaf) :
    node.content = [] := by
  cases isLeaf <;> rfl

theorem Reads.isEmptyAt {source : String} {cursor after : Cursor} {nodes : List Node}
    (reads : Reads cursor nodes after) (stands : cursor.StandsIn source) :
    ∀ node ∈ nodes, node.Throughout (Node.IsEmptyAt source) := by
  induction reads with
  | stop => simp
  | @single cursor _ _ _ _ _ induction =>
      intro node member
      rcases List.mem_append.mp member with leaf | member
      · have isLeaf := Lexeme.isLeaf_of_leaf? (Option.mem_toList.mp leaf)
        refine .intro (fun _ _ _ _ => isLeaf.content) ?_
        rw [isLeaf.inside]
        simp
      · exact induction (stands.next (Token.reaches_next cursor)) node member
  | @element cursor _ behind _ _ _ _ children _ _ _ isTag empty inner ends made _
      content later =>
      have here := stands.next (Token.reaches_next cursor)
      intro node member
      rcases List.mem_cons.mp member with rfl | member
      · refine throughout_ofTag made ?_ (fun _ _ _ _ _ _ _ => rfl)
          (fun _ _ _ _ _ _ _ _ => rfl) (content here)
        intro other standsToo same childless
        rw [StartTag.span_core] at same
        obtain rfl := standsToo.eq_of_offset stands same
        rw [StartTag.content_core]
        refine empty ?_
        rw [Lexeme.isChildless, Lexeme.at, isTag] at childless
        exact childless
      · exact later (here.next (inner.reaches.trans ends.reaches)) node member

theorem exists_cursor_of_mem_lexemes {cursor : Cursor} {lexeme : Lexeme}
    (member : lexeme ∈ lexemes cursor) :
    ∃ here, cursor.Reaches here ∧ lexeme = .at here := by
  fun_induction lexemes cursor with
  | case1 cursor ended => contradiction
  | case2 cursor more next induction =>
      rcases List.mem_cons.mp member with rfl | member
      · exact ⟨cursor, .refl cursor, rfl⟩
      · obtain ⟨here, reaches, same⟩ := induction member
        exact ⟨here, (Token.reaches_next cursor).trans reaches, same⟩

/-- Reading is one pass over the lexemes with a stack of open elements; and a void or
self-closed element has no content. -/
theorem ofText_by_pass (source : String) :
    Tree.ofText source = Tree.ofPass source ∧
      ∀ tree, Tree.ofText source = .ok tree → ∀ node, tree.Contains node →
        ∀ lexeme ∈ lexemes (Cursor.start source), lexeme.isChildless = true →
          lexeme.span.start = node.span.start → node.content = [] := by
  refine ⟨(ofPass_eq_ofText source).symm, ?_⟩
  rintro tree read node ⟨top, inTree, below⟩ lexeme member childless same
  obtain ⟨after, reads, _⟩ := ofText_reads read
  obtain ⟨here, stands, rfl⟩ := exists_cursor_of_mem_lexemes member
  have throughout := reads.isEmptyAt (Cursor.StandsIn.start source) top inTree
  exact throughout.of_below below here stands same childless

/-- A start tag with nothing but its name. -/
def bareTag (name : String) : StartTag :=
  ⟨name, false, [], [], [], []⟩

/-- The outer end tag closes both elements, and the last one closes nothing. -/
def misnestedTree : Tree :=
  ⟨[.element (bareTag "p")
      [.element (bareTag "b") [.element (bareTag "br") [] [] ⟨6, 10⟩,
        .text "x" ⟨10, 11⟩] [] ⟨3, 11⟩] [] ⟨0, 15⟩],
    ⟨0, 19⟩⟩

theorem misnested_by_pass :
    Tree.ofText "<p><b><br>x</P></i>" = .ok misnestedTree ∧
      Tree.ofPass "<p><b><br>x</P></i>" = .ok misnestedTree ∧
      (Node.element (bareTag "br") [] [] ⟨6, 10⟩).content = [] := by
  have read : Tree.ofText "<p><b><br>x</P></i>" = .ok misnestedTree := by
    with_unfolding_all rfl
  have pass := ofText_by_pass "<p><b><br>x</P></i>"
  have lexeme : (⟨.startTag "br" [] false, ⟨6, 10⟩⟩ : Lexeme) ∈
      lexemes (Cursor.start "<p><b><br>x</P></i>") := by
    have third : (lexemes (Cursor.start "<p><b><br>x</P></i>"))[2]? =
        some ⟨.startTag "br" [] false, ⟨6, 10⟩⟩ := by
      with_unfolding_all rfl
    exact List.mem_of_getElem? third
  have contained : misnestedTree.Contains (.element (bareTag "br") [] [] ⟨6, 10⟩) :=
    ⟨_, .head _, .inside (.head _) (.inside (.head _) .here)⟩
  exact ⟨read, pass.1.symm.trans read,
    pass.2 _ read _ contained _ lexeme (by decide) rfl⟩

end VuePrecompiler.Template
