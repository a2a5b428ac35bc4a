import VuePrecompiler.Es5.Occurrences

/-!
# Variables of a round

Each round of a loop has variables of its own.  `readsLater` tells whether a function
that the body makes reads one of them, so that the variable outlives its round.
-/

namespace VuePrecompiler.Es5

open Javascript

/-- Whether a kind of statement runs its parts again and again. -/
def isLoop : Kind → Bool
  | .for => true
  | .forIn => true
  | .forOf _ => true
  | .while => true
  | .doWhile => true
  | _ => false

/-- What is known of a body up to a place in it. -/
structure RoundSeen where
  /-- The bindings of the variables of a round. -/
  own : List Nat
  /-- Whether a function reads one of them. -/
  isRead : Bool

/-- Where a place stands in the body of a loop. -/
inductive RoundPlace where
  | own
  /-- In a loop inside of the body. -/
  | nestedLoop
  | function
deriving DecidableEq

/-- The place of the parts of a node. -/
def RoundPlace.inside (place : RoundPlace) (kind : Kind) : RoundPlace :=
  match place with
  | .function => .function
  | _ =>
    if isClosed kind then .function else if isLoop kind then .nestedLoop else place

mutual

/-- What is known behind a tree. -/
def RoundSeen.behind (seen : RoundSeen) (place : RoundPlace) : Tree → RoundSeen
  | .node kind _ children =>
    let seen : RoundSeen :=
      match kind with
      | .identifier _ binding =>
        if place == .function && seen.own.contains binding then
          { seen with isRead := true } else seen
      | .variables keyword =>
        if place == .own && keyword != .var then
          { seen with own := (patternVariablesEach children).map Prod.snd ++ seen.own }
        else seen
      | _ => seen
    seen.behindEach (place.inside kind) children

def RoundSeen.behindEach (seen : RoundSeen) (place : RoundPlace) :
    List Tree → RoundSeen
  | [] => seen
  | first :: rest => (seen.behind place first).behindEach place rest

end

/-- The variables that the head of a loop declares anew for each round. -/
def roundVariables : Tree → List Tree
  | .node (.variables .var) _ _ => []
  | .node (.variables _) _ declarators => declarators.flatMap fun found =>
      found.children.take 1
  | _ => []

/-- Whether a function that a body makes reads a variable of a round. -/
def readsLater (head body : Tree) : Bool :=
  let own := (patternVariablesEach (roundVariables head)).map Prod.snd
  (RoundSeen.behind ⟨own, false⟩ .own body).isRead

end VuePrecompiler.Es5
