import VuePrecompiler.Es5.Build
import VuePrecompiler.Javascript.Grammar.Target

/-!
# Trees without parentheses

The shape of a tree says what belongs together.  Parentheses matter only around
an optional chain that goes on behind them.
-/

namespace VuePrecompiler.Es5

open Javascript

/-- Whether the first part of a node of this kind is read further. -/
def continuesFirst : Kind → Bool
  | .member _ => true
  | .index _ => true
  | .call _ => true
  | .taggedTemplate => true
  | _ => false

/-- A node whose parts lose the parentheses that say nothing. -/
def withBareParts (kind : Kind) (parts : List Tree) : List Tree :=
  match parts with
  | first :: rest =>
    if continuesFirst kind then first :: rest.map bare
    else if kind == .parenthesized then parts
    else parts.map bare
  | [] => []

mutual

/-- A tree without parentheses, but those that end an optional chain. -/
def unwrapped : Tree → Tree
  | .node kind span children =>
    let parts := withBareParts kind (unwrappedEach children)
    match parts with
    | [inner] =>
      if kind == .parenthesized then
        let inner := bare inner
        if inner.isOptionalChain then .node .parenthesized span [inner] else inner
      else .node kind span parts
    | _ => .node kind span parts

def unwrappedEach : List Tree → List Tree
  | [] => []
  | first :: rest => unwrapped first :: unwrappedEach rest

end

end VuePrecompiler.Es5
