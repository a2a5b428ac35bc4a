import VuePrecompiler.Proofs.UnplacedCode

/-!
# What lexemes say

A lexeme says the same wherever it stands, and a start tag says what its
attributes mean and not how they are spelled.  What is read depends on what
the lexemes say alone: two templates whose lexemes say the same have the same
nodes up to their places, and so the same render code or the same error.
-/

namespace VuePrecompiler.Template

open Source Text

/-- What a token saysSame, without places and spellings. -/
inductive Saying where
  | startTag (tag : StartTag) (selfClosing : Bool)
  | nameless (found : String)
  | endTag (name : String)
  | leaf (node : Node)
  | declaration

def Token.saying : Token → Saying
  | .startTag name attributes selfClosing =>
    .startTag (StartTag.ofSource name attributes).unplaced selfClosing
  | .nameless found => .nameless found
  | .endTag name => .endTag name
  | .comment content => .leaf (.comment content nowhere)
  | .declaration => .declaration
  | .interpolation content _ =>
    .leaf (.interpolation ⟨trimmed content, nowhere⟩ nowhere)
  | .text content => .leaf (.text content nowhere)

/-- What each of a list of lexemes says. -/
def sayings (given : List Lexeme) : List Saying :=
  given.map fun lexeme => lexeme.token.saying

namespace Saying

/-- Whether the end tag of an open element is said. -/
def closes (opened : List String) : Saying → Bool
  | .endTag name => opened.any (sameTag name)
  | _ => false

def leaf? : Saying → Option Node
  | .leaf node => some node
  | _ => none

def fault? : Saying → Option CompileError
  | .nameless found => some (.unexpectedToken "tag name" found nowhere)
  | _ => none

def opens : Saying → Bool
  | .startTag _ _ => true
  | _ => false

/-- What follows the end tag of an element. -/
def behindEnd (name : String) : List Saying → List Saying
  | .endTag closing :: after =>
    if sameTag closing name then after else .endTag closing :: after
  | given => given

end Saying

namespace Lexeme

theorem closes_saying (opened : List String) (lexeme : Lexeme) :
    lexeme.token.saying.closes opened = lexeme.closes opened := by
  rcases lexeme with ⟨token, span⟩
  cases token with
  | _ => rfl

theorem leaf?_saying (lexeme : Lexeme) :
    lexeme.token.saying.leaf? = lexeme.leaf?.map Node.unplaced := by
  rcases lexeme with ⟨token, span⟩
  cases token with
  | _ => rfl

theorem fault?_saying (lexeme : Lexeme) :
    lexeme.token.saying.fault? = lexeme.fault?.map CompileError.unplaced := by
  rcases lexeme with ⟨token, span⟩
  cases token with
  | _ => rfl

theorem opens_saying (lexeme : Lexeme) :
    lexeme.token.saying.opens = lexeme.opened?.isSome := by
  rcases lexeme with ⟨token, span⟩
  cases token with
  | _ => rfl

end Lexeme

/-- A token that says the same as a start tag is one of the same name. -/
theorem Token.of_saying_startTag {token : Token} {name : String}
    {attributes : List SourceAttribute} {selfClosing : Bool}
    (same : (Token.startTag name attributes selfClosing).saying = token.saying) :
    ∃ others, token = .startTag name others selfClosing ∧
      (StartTag.ofSource name attributes).unplaced =
        (StartTag.ofSource name others).unplaced := by
  cases token with
  | startTag other others closing =>
      obtain ⟨tags, rfl⟩ := Saying.startTag.inj same
      obtain rfl : name = other := congrArg StartTag.name tags
      exact ⟨others, rfl, tags⟩
  | _ => contradiction

/-- Two readings with the same nodes up to places, or with the same fault. -/
inductive SameReading {given other : List Lexeme} :
    Except CompileError (Reading given) →
      Except CompileError (Reading other) → Prop where
  | fault {first second : CompileError} : first.unplaced = second.unplaced →
      SameReading (.error first) (.error second)
  | read {first : Reading given} {second : Reading other} :
      first.nodes.map Node.unplaced = second.nodes.map Node.unplaced →
      sayings first.rest = sayings second.rest → SameReading (.ok first) (.ok second)

namespace SameReading

/-- The same nodes may be put in front. -/
theorem behind {given other rest later : List Lexeme} {nodes others : List Node}
    {first : Except CompileError (Reading rest)}
    {second : Except CompileError (Reading later)}
    (same : SameReading first second)
    (front : nodes.map Node.unplaced = others.map Node.unplaced)
    (shorter : rest.length ≤ given.length) (shorterToo : later.length ≤ other.length) :
    SameReading (first.map (.behind nodes shorter))
      (second.map (.behind others shorterToo)) := by
  cases same with
  | fault same => exact .fault same
  | read nodesSame restSame =>
      refine .read ?_ restSame
      simp only [Reading.behind, List.map_append, front, nodesSame]

theorem bind_ofTag {given other : List Lexeme} {tag otherTag : StartTag}
    {children others : List Node} {span otherSpan : Span}
    {next : Node → Except CompileError (Reading given)}
    {later : Node → Except CompileError (Reading other)}
    (tags : tag.unplaced = otherTag.unplaced)
    (content : children.map Node.unplaced = others.map Node.unplaced)
    (same : ∀ node otherNode, node.unplaced = otherNode.unplaced →
      SameReading (next node) (later otherNode)) :
    SameReading (Node.ofTag tag children span >>= next)
      (Node.ofTag otherTag others otherSpan >>= later) := by
  have made : unplacedResult Node.unplaced (Node.ofTag tag children span) =
      unplacedResult Node.unplaced (Node.ofTag otherTag others otherSpan) := by
    rw [← Node.ofTag_unplaced, ← Node.ofTag_unplaced, tags, content]
  cases first : Node.ofTag tag children span with
  | error fault =>
      cases second : Node.ofTag otherTag others otherSpan with
      | error otherFault =>
          rw [first, second] at made
          exact .fault (Except.error.inj made)
      | ok node =>
          rw [first, second] at made
          contradiction
  | ok node =>
      cases second : Node.ofTag otherTag others otherSpan with
      | error otherFault =>
          rw [first, second] at made
          contradiction
      | ok otherNode =>
          rw [first, second] at made
          exact same node otherNode (Except.ok.inj made)

end SameReading

theorem sayings_close {given : List Lexeme} (content : Reading given) (name : String) :
    sayings (content.close name).rest =
      Saying.behindEnd name (sayings content.rest) := by
  unfold Reading.close
  split
  · next closing span after shape =>
    have said : sayings content.rest = .endTag closing :: sayings after :=
      congrArg sayings shape
    split
    · next ends => rw [said, Saying.behindEnd, if_pos ends]
    · next other => rw [said, Saying.behindEnd, if_neg other]
  · next noEnd =>
    cases shape : content.rest with
    | nil => rfl
    | cons lexeme after =>
        rcases lexeme with ⟨token, span⟩
        cases token with
        | endTag closing => exact absurd shape (noEnd closing span after)
        | _ => rfl

/-- What is read depends on what the lexemes say. -/
theorem readNodes_sayings (opened : List String) (position : Nat) (given : List Lexeme)
    {other : List Lexeme} (same : sayings given = sayings other)
    (otherPosition : Nat) :
    SameReading (readNodes opened position given)
      (readNodes opened otherPosition other) := by
  induction opened, position,
    given using readNodes_induct generalizing other otherPosition with
  | ended opened position =>
      obtain rfl := List.map_eq_nil_iff.mp same.symm
      rw [readNodes_nil, readNodes_nil]
      exact .read rfl rfl
  | closes opened position lexeme rest closes =>
      obtain ⟨otherLexeme, later, rfl, saysSame, restSame⟩ :=
        List.map_eq_cons_iff.mp same.symm
      have closesToo : otherLexeme.closes opened = true := by
        rw [← Lexeme.closes_saying, saysSame, Lexeme.closes_saying, closes]
      rw [readNodes_of_closes opened position rest closes,
        readNodes_of_closes opened otherPosition later closesToo]
      exact .read rfl same
  | fault opened position lexeme rest fault isFault =>
      obtain ⟨otherLexeme, later, rfl, saysSame, _⟩ :=
        List.map_eq_cons_iff.mp same.symm
      have faults :
          otherLexeme.fault?.map CompileError.unplaced = some fault.unplaced := by
        rw [← Lexeme.fault?_saying, saysSame, Lexeme.fault?_saying, isFault]
        rfl
      obtain ⟨otherFault, isFaultToo, sameFault⟩ := Option.map_eq_some_iff.mp faults
      rw [readNodes_of_fault opened position rest isFault,
        readNodes_of_fault opened otherPosition later isFaultToo]
      exact .fault sameFault.symm
  | single opened position lexeme rest stays readable single induction =>
      obtain ⟨otherLexeme, later, rfl, saysSame, restSame⟩ :=
        List.map_eq_cons_iff.mp same.symm
      have readableToo : otherLexeme.fault? = none := by
        rw [← Option.map_eq_none_iff, ← Lexeme.fault?_saying, saysSame,
          Lexeme.fault?_saying, readable]
        rfl
      have staysToo : otherLexeme.closes opened = false := by
        rw [← Lexeme.closes_saying, saysSame, Lexeme.closes_saying, stays]
      have singleToo : otherLexeme.opened? = none := by
        rw [← Option.isSome_eq_false_iff.trans Option.isNone_iff_eq_none,
          ← Lexeme.opens_saying, saysSame, Lexeme.opens_saying, single]
        rfl
      rw [readNodes_single opened position rest stays readable single,
        readNodes_single opened otherPosition later staysToo readableToo singleToo]
      refine (induction restSame.symm _).behind ?_ _ _
      rw [← Option.toList_map, ← Option.toList_map, ← Lexeme.leaf?_saying,
        ← Lexeme.leaf?_saying, saysSame]
  | childless opened position name attributes selfClosing span rest
      childless induction =>
      obtain ⟨⟨token, otherSpan⟩, later, rfl, saysSame, restSame⟩ :=
        List.map_eq_cons_iff.mp same.symm
      obtain ⟨others, rfl, tags⟩ := Token.of_saying_startTag saysSame.symm
      rw [readNodes_childless opened position attributes span rest childless,
        readNodes_childless opened otherPosition others otherSpan later childless]
      refine SameReading.bind_ofTag tags rfl fun node otherNode sameNode => ?_
      exact (induction restSame.symm _).behind (by simp [sameNode]) _ _
  | element opened position name attributes selfClosing span rest hasContent
      inner outer =>
      obtain ⟨⟨token, otherSpan⟩, later, rfl, saysSame, restSame⟩ :=
        List.map_eq_cons_iff.mp same.symm
      obtain ⟨others, rfl, tags⟩ := Token.of_saying_startTag saysSame.symm
      rw [readNodes_withContent opened position attributes span rest hasContent,
        readNodes_withContent opened otherPosition others otherSpan later hasContent]
      have contents := inner restSame.symm otherSpan.stop
      generalize readContent : readNodes (name :: opened) span.stop rest =
        content at contents ⊢
      generalize readNodes (name :: opened) otherSpan.stop later =
        otherContent at contents ⊢
      cases contents with
      | fault sameFault => exact .fault sameFault
      | @read content otherContent nodesSame contentRest =>
          have childrenSame : (content.close name).nodes.map Node.unplaced =
              (otherContent.close name).nodes.map Node.unplaced := by
            rw [(content.close_nested name).1, (otherContent.close_nested name).1,
              nodesSame]
          have behindSame : sayings (content.close name).rest =
              sayings (otherContent.close name).rest := by
            rw [sayings_close, sayings_close, contentRest]
          refine SameReading.bind_ofTag tags childrenSame
            fun node otherNode sameNode => ?_
          exact (outer content readContent behindSame _).behind
            (by simp [sameNode]) _ _

end VuePrecompiler.Template

namespace VuePrecompiler.Render

open Template Source Text

/-- Two templates whose lexemes say the same compile to the same render code, or
fail for the same reason. -/
theorem compile_sayings {first second : String}
    (same : sayings (lexemes (Cursor.start first)) =
      sayings (lexemes (Cursor.start second))) :
    unplacedResult id (compile first) = unplacedResult id (compile second) := by
  have reads := readNodes_sayings [] 0 (lexemes (Cursor.start first)) same 0
  rw [compile, compile, Tree.ofText, Tree.ofText]
  generalize readNodes [] 0 (lexemes (Cursor.start first)) = reading at reads ⊢
  generalize readNodes [] 0 (lexemes (Cursor.start second)) = other at reads ⊢
  cases reads with
  | fault sameFault => exact congrArg Except.error sameFault
  | @read reading other nodesSame _ =>
      have trees : (Tree.mk reading.nodes ⟨0, first.utf8ByteSize⟩).unplaced =
          (Tree.mk other.nodes ⟨0, second.utf8ByteSize⟩).unplaced :=
        congrArg (Tree.mk · nowhere) nodesSame
      calc
        unplacedResult id
            ((Tree.mk reading.nodes ⟨0, first.utf8ByteSize⟩).arrange >>= generate) =
          (Tree.mk reading.nodes ⟨0, first.utf8ByteSize⟩).unplaced.arrange >>=
            generate :=
            (compiled_unplaced _).symm
        _ = (Tree.mk other.nodes ⟨0, second.utf8ByteSize⟩).unplaced.arrange >>=
            generate := by
            rw [trees]
        _ = unplacedResult id
              ((Tree.mk other.nodes ⟨0, second.utf8ByteSize⟩).arrange >>= generate) :=
            compiled_unplaced _

end VuePrecompiler.Render
