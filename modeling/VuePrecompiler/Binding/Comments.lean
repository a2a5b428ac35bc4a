import VuePrecompiler.Binding.Marker
import VuePrecompiler.Javascript.Token
import VuePrecompiler.Text.Bytes

/-!
# Comments in front of a place

The comments in front of a place are those between which, and behind which up
to the place, there are blanks only.
-/

namespace VuePrecompiler.Binding

open Text Javascript

/-- Whether there are blanks only between two positions of a text. -/
def isBlankBetween (text : List Char) (start stop : Nat) : Bool :=
  (sliceBytes? start stop text).any fun gap => gap.all isBlank

/-- Comments, the nearest first, as long as blanks only lie before the position
reached; each moves the position to its own start. -/
def adjacent (text : List Char) : Nat → List Comment → List Comment
  | _, [] => []
  | position, comment :: before =>
    if isBlankBetween text comment.span.stop position then
      comment :: adjacent text comment.span.start before
    else []

/-- The comments in front of a position, in order; all comments of the text are
given in order. -/
def commentsBefore (comments : List Comment) (text : List Char) (position : Nat) :
    List Comment :=
  let passed := comments.takeWhile fun comment => comment.span.stop ≤ position
  (adjacent text position passed.reverse).reverse

/-- Whether one of some comments is the marker. -/
def isMarked (comments : List Comment) : Bool :=
  comments.any fun comment => isMarker comment.text

end VuePrecompiler.Binding
