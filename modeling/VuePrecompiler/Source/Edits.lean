import VuePrecompiler.Source.Span
import VuePrecompiler.Text.Bytes

/-!
# Edits

A list of edits is planned against one text: every span refers to the text as
it was.  Applying the list keeps the stretches between the spans and puts each
replacement in the place of its span.  Two edits that touch the same bytes, and
an edit that does not lie in the text on character boundaries, are refused.
-/

namespace VuePrecompiler.Source

open Text

/-- The bytes of `span` are to be replaced by a text. -/
structure Edit where
  span : Span
  replacement : String
deriving DecidableEq, Repr

/-- Why a list of edits cannot be applied. -/
inductive EditError where
  /-- Two edits touch the same bytes. -/
  | overlap (first second : Span)
  /-- An edit ends after the text, or cuts a character. -/
  | outOfBounds (span : Span)
deriving DecidableEq, Repr

def EditError.message : EditError → String
  | .overlap first second => s!"edits {first.text} and {second.text} overlap"
  | .outOfBounds span => s!"edit {span.text} is outside the text"

namespace Edit

/-- The order of application: by start, then by end. -/
def precedes (left right : Edit) : Bool :=
  left.span.start < right.span.start
    || (left.span.start == right.span.start && left.span.stop ≤ right.span.stop)

/-- The first two neighbours that touch the same bytes. -/
def firstOverlap? : List Edit → Option (Span × Span)
  | left :: right :: rest =>
    if left.span.overlaps right.span then some (left.span, right.span)
    else firstOverlap? (right :: rest)
  | _ => none

/-- Whether the span of an edit lies in the text on character boundaries. -/
def fits (text : List Char) (edit : Edit) : Bool :=
  (splitAtByte? edit.span.start text).isSome &&
    (splitAtByte? edit.span.stop text).isSome

/-- The text with its edits in place.  `text` is what is left of the text from
position `at` on, and the edits are in order and disjoint. -/
def splice (position : Nat) (text : List Char) : List Edit → List Char
  | [] => text
  | edit :: rest =>
    let (kept, tail) :=
      (splitAtByte? (edit.span.start - position) text).getD (text, [])
    let (_, tail) := (splitAtByte? edit.span.size tail).getD (tail, [])
    kept ++ edit.replacement.toList ++ splice edit.span.stop tail rest

/-- Apply a list of edits, given in any order.  Edits of one span stay in the
order of the list. -/
def applyAll (edits : List Edit) (text : String) : Except EditError String :=
  let sorted := edits.mergeSort precedes
  match firstOverlap? sorted with
  | some (first, second) => .error (.overlap first second)
  | none =>
    match sorted.find? (fun edit => !edit.fits text.toList) with
    | some edit => .error (.outOfBounds edit.span)
    | none => .ok (String.ofList (splice 0 text.toList sorted))

end Edit

end VuePrecompiler.Source
