import VuePrecompiler.Template.StartTag
import VuePrecompiler.Template.Loop

/-!
# Reading templates

`Tree.ofText` builds the tree of a template from its tokens.  Reading is
forgiving: an end tag that closes nothing is passed over, and the end tag of
an outer element closes the elements left open inside it.  It fails at a loop
expression that cannot be read.  It would fail at a start tag without a name,
too, but what is not followed by a letter starts no tag.
-/

namespace VuePrecompiler.Template

open Source Text

/-- A conditional of one branch around a node. -/
def Node.ofBranch (kind : BranchKind) (condition : Option Code) (node : Node)
    (span : Span) : Node :=
  .conditional [.mk kind condition [node] span] span

/-- The node of a start tag with its content.  The directives that shape the
tree are taken off the tag; a loop stands outside of a condition. -/
def Node.ofTag (tag : StartTag) (children : List Node) (span : Span) :
    Except CompileError Node :=
  let (repetition, tag) := tag.takeDirective? "for"
  let (ifFirst, tag) := tag.takeDirective? "if"
  let (elseIf, tag) := tag.takeDirective? "else-if"
  let (elseLast, tag) := tag.takeDirective? "else"
  let element : Node := .element tag children [] span
  match repetition with
  | some directive => do
    let head ← LoopHead.ofDirective directive
    let body :=
      match ifFirst with
      | some condition => Node.ofBranch .first condition.value element span
      | none => element
    return .loop head [body] span
  | none =>
    match ifFirst, elseIf, elseLast with
    | some directive, _, _ => .ok (Node.ofBranch .first directive.value element span)
    | none, some directive, _ =>
      .ok (Node.ofBranch .elseIf directive.value element span)
    | none, none, some _ => .ok (Node.ofBranch .last none element span)
    | none, none, none =>
      if tag.name == "slot" then .ok (.outlet (Outlet.ofTag tag span) children span)
      else if tag.name == "template" && tag.hasDirective "slot" then
        .ok (.slotTemplate tag.directives children span)
      else .ok element

/-- What was read of a list of lexemes: nodes, the lexemes after them, and the
position reached. -/
structure Reading (given : List Lexeme) where
  nodes : List Node
  rest : List Lexeme
  position : Nat
  rest_le : rest.length ≤ given.length

/-- Read the end tag of an element whose content has been read.  An end tag of
an outer element is left, and closes this one too. -/
def Reading.close {given : List Lexeme} (name : String) (content : Reading given) :
    Reading given :=
  match _rest : content.rest with
  | ⟨.endTag closing, span⟩ :: after =>
    if sameTag closing name then
      { nodes := content.nodes
        rest := after
        position := span.stop
        rest_le := by
          have := content.rest_le
          simp only [_rest, List.length_cons] at this
          omega }
    else content
  | _ => content

/-- Read nodes until an end tag of one of the `opened` elements, or the end. -/
def readNodes (opened : List String) (position : Nat) (lexemes : List Lexeme) :
    Except CompileError (Reading lexemes) :=
  match lexemes with
  | [] => .ok ⟨[], [], position, Nat.le_refl _⟩
  | lexeme :: rest =>
    let after := lexeme.span.stop
    let leaf (node : Node) : Except CompileError (Reading (lexeme :: rest)) := do
      let more ← readNodes opened after rest
      return ⟨node :: more.nodes, more.rest, more.position,
        Nat.le_succ_of_le more.rest_le⟩
    match lexeme.token with
    | .endTag name =>
      if opened.any (sameTag name) then
        .ok ⟨[], lexeme :: rest, position, Nat.le_refl _⟩
      else do
        let more ← readNodes opened after rest
        return ⟨more.nodes, more.rest, more.position, Nat.le_succ_of_le more.rest_le⟩
    | .declaration => do
      let more ← readNodes opened after rest
      return ⟨more.nodes, more.rest, more.position, Nat.le_succ_of_le more.rest_le⟩
    | .comment content => leaf (.comment content lexeme.span)
    | .text content => leaf (.text content lexeme.span)
    | .interpolation content inner =>
      leaf (.interpolation ⟨Text.trimmed content, inner⟩ lexeme.span)
    | .nameless found => .error (.unexpectedToken "tag name" found lexeme.span)
    | .startTag name attributes selfClosing =>
      let tag := StartTag.ofSource name attributes
      if selfClosing || isVoidTag name then do
        let node ← Node.ofTag tag [] lexeme.span
        leaf node
      else do
        let content := (← readNodes (name :: opened) after rest).close name
        let node ← Node.ofTag tag content.nodes ⟨lexeme.span.start, content.position⟩
        have shorter : content.rest.length < (lexeme :: rest).length :=
          Nat.lt_succ_of_le content.rest_le
        let more ← readNodes opened content.position content.rest
        return ⟨node :: more.nodes, more.rest, more.position,
          Nat.le_trans more.rest_le (Nat.le_of_lt shorter)⟩
termination_by lexemes.length
decreasing_by
  · exact Nat.lt_add_one _
  · exact Nat.lt_add_one _
  · exact Nat.lt_add_one _
  · exact Nat.lt_add_one _
  · exact shorter

def Tree.ofText (source : String) : Except CompileError Tree := do
  let reading ← readNodes [] 0 (lexemes (Cursor.start source))
  return ⟨reading.nodes, ⟨0, source.utf8ByteSize⟩⟩

end VuePrecompiler.Template
