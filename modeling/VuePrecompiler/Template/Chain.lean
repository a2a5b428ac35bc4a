import VuePrecompiler.Template.Syntax
import VuePrecompiler.Template.Error

/-!
# Conditional chains

After reading, every branch of a condition is a node of its own.  `joinChains`
makes one node of each run of siblings `v-if`, `v-else-if`, …, `v-else`;
comments and blank text between two branches disappear.  `chainFault?` finds
a branch that continues nothing.
-/

namespace VuePrecompiler.Template

open Source

/-- The branches of a conditional that starts no chain of its own. -/
def Node.continuation? : Node → Option (List Branch × Span)
  | .conditional branches span =>
    match branches with
    | first :: _ => if first.kind = .first then none else some (branches, span)
    | [] => none
  | _ => none

/-- Whether a node is a conditional that a further branch can join. -/
def Node.isOpenChain : Node → Bool
  | .conditional branches _ => branches.getLast?.any (·.kind ≠ .last)
  | _ => false

/-- A conditional with the branches of another one behind its own. -/
def Node.extend (chain : Node) (branches : List Branch) (span : Span) : Node :=
  match chain with
  | .conditional own ownSpan => .conditional (own ++ branches) (ownSpan.merge span)
  | other => other

/-- Join chains behind nodes that are done, the latest first.  `gap` holds the
insignificant nodes passed since then, the latest first. -/
def joinBehind (done gap : List Node) : List Node → List Node
  | [] => (gap ++ done).reverse
  | node :: rest =>
    if node.isInsignificant then joinBehind done (node :: gap) rest
    else
      match node.continuation?, done with
      | some (branches, span), chain :: before =>
        if chain.isOpenChain then
          joinBehind (chain.extend branches span :: before) [] rest
        else joinBehind (node :: (gap ++ done)) [] rest
      | _, _ => joinBehind (node :: (gap ++ done)) [] rest

/-- Join the conditional chains of a list of siblings. -/
def joinChains (siblings : List Node) : List Node :=
  joinBehind [] [] siblings

/-- The first branch that continues no chain; `previous` is the last
significant node before the list. -/
def chainFaultBehind? (previous : Option Node) : List Node → Option CompileError
  | [] => none
  | node :: rest =>
    if node.isInsignificant then chainFaultBehind? previous rest
    else if node.continuation?.isSome && !previous.any Node.isOpenChain then
      some (.unpairedElse node.span)
    else chainFaultBehind? (some node) rest

/-- The first branch among siblings that continues no chain. -/
def chainFault? (siblings : List Node) : Option CompileError :=
  chainFaultBehind? none siblings

end VuePrecompiler.Template
