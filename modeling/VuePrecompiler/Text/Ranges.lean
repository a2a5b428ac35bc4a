/-!
# Ranges of code points

A property of characters is given by the ranges of its code points above
ASCII, in increasing order.
-/

namespace VuePrecompiler.Text

/-- Whether a code point lies in one of the ranges of a table between two places. -/
def inRangesBetween (ranges : Array (Nat × Nat)) (code : Nat)
    (low high : Nat) : Bool :=
  if _apart : low < high then
    let middle := (low + high) / 2
    match ranges[middle]? with
    | none => false
    | some (first, last) =>
      if code < first then inRangesBetween ranges code low middle
      else if last < code then inRangesBetween ranges code (middle + 1) high
      else true
  else false
termination_by high - low

/-- Whether a code point lies in one of the ranges of an increasing table. -/
def inRanges (ranges : Array (Nat × Nat)) (code : Nat) : Bool :=
  inRangesBetween ranges code 0 ranges.size

end VuePrecompiler.Text
