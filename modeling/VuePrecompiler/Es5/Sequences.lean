import VuePrecompiler.Es5.Build

/-!
# Sequences

Of a sequence of expressions only the last one gives a value.  Sequences inside of
sequences are written out, and expressions without effects are left out.
-/

namespace VuePrecompiler.Es5

open Javascript

/-- Whether an expression has no effects: a literal or a function. -/
def isIdle (tree : Tree) : Bool :=
  match tree.kind with
  | .functionExpression _ => true
  | .arrow _ => true
  | .string _ => true
  | .number _ => true
  | .bigint _ => true
  | .regexp _ _ => true
  | .boolean _ => true
  | .null => true
  | _ => false

/-- An expression whose value nobody reads. -/
def withoutValue : Tree → Tree
  | .node (.unary "void") _ [value] => withoutValue value
  | tree => tree

/-- The expressions of a sequence, those of sequences among them written out. -/
def writtenOut (parts : List Tree) : List Tree :=
  parts.flatMap fun part =>
    match part with
    | .node .sequence _ inner => inner
    | _ => [part]

/-- The expressions before the last without idle ones behind the first idle one. -/
def withOneIdle : List Tree → List Tree
  | [] => []
  | first :: rest =>
    if isIdle first then first :: rest.filter fun found => !isIdle found
    else first :: withOneIdle rest

/-- The expressions of a sequence that matter.  An idle one stays only where it keeps
the sequence from being a single expression. -/
def effective (parts : List Tree) : List Tree :=
  let before := withOneIdle (parts.dropLast.map withoutValue)
  let last := parts.drop (parts.length - 1)
  if before.length < 2 then before ++ last
  else before.filter (fun found => !isIdle found) ++ last

mutual

def withFlatSequences : Tree → Tree
  | .node kind span children =>
    let parts := withFlatSequencesEach children
    match kind with
    | .sequence =>
      match effective (writtenOut parts) with
      | [single] => single
      | parts => .node .sequence span parts
    | _ => .node kind span parts

def withFlatSequencesEach : List Tree → List Tree
  | [] => []
  | first :: rest => withFlatSequences first :: withFlatSequencesEach rest

end

end VuePrecompiler.Es5
