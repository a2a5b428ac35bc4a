import VuePrecompiler.Javascript.Tree

/-!
# Assignment targets

What stands before `=` or between the parentheses of an arrow function is read
as an expression first.  `Tree.asTarget?` reads such an expression as what it
turns out to be.
-/

namespace VuePrecompiler.Javascript

namespace Tree

/-- Whether an expression contains `?.` on its way from the object. -/
def isOptionalChain : Tree → Bool
  | node (.member isOptional) _ (base :: _) => isOptional || base.isOptionalChain
  | node (.index isOptional) _ (base :: _) => isOptional || base.isOptionalChain
  | node (.call isOptional) _ (base :: _) => isOptional || base.isOptionalChain
  | node .taggedTemplate _ (base :: _) => base.isOptionalChain
  | _ => false

/-- Whether an expression is a variable or a property, perhaps in parentheses. -/
def isSimpleTarget : Tree → Bool
  | node (.identifier _ _) _ _ => true
  | node .parenthesized _ [inner] => inner.isSimpleTarget
  | tree@(node (.member _) _ _) => !tree.isOptionalChain
  | tree@(node (.index _) _ _) => !tree.isOptionalChain
  | _ => false

/-- Whether a pattern stands at the end, or nothing but holes behind it. -/
def restIsLast : List Tree → Bool
  | [] => true
  | node .spread _ _ :: rest => rest.isEmpty
  | _ :: rest => restIsLast rest

mutual

/-- The pattern that an expression turns out to be.  Patterns that declare
variables consist of variables only. -/
def asTarget? (declares : Bool) : Tree → Option Tree
  | node (.array trailingComma) span items =>
    let endsWithSpread :=
      match items.getLast? with
      | some (node .spread _ _) => true
      | _ => false
    if !restIsLast items || (trailingComma && endsWithSpread) then none
    else (itemsAsTargets? declares items).map (node .arrayPattern span)
  | node .object span properties =>
    if !restIsLast properties then none
    else (propertiesAsTargets? declares properties).map (node .objectPattern span)
  | node (.assign "=") span [target, value] =>
    if declares then (asTarget? declares target).map fun target =>
      node .withDefault span [target, value]
    else some (node .withDefault span [target, value])
  | tree@(node (.identifier _ _) _ _) => some tree
  | tree@(node .arrayPattern span items) =>
    if declares then (itemsAsTargets? declares items).map (node .arrayPattern span)
    else some tree
  | tree@(node .objectPattern span properties) =>
    if declares then (propertiesAsTargets? declares properties).map
      (node .objectPattern span)
    else some tree
  | tree => if !declares && tree.isSimpleTarget then some tree else none

/-- The patterns that the items of an array turn out to be. -/
def itemsAsTargets? (declares : Bool) : List Tree → Option (List Tree)
  | [] => some []
  | item :: rest => do
    let target ← itemAsTarget? declares item
    return target :: (← itemsAsTargets? declares rest)

/-- The pattern that an item of an array turns out to be. -/
def itemAsTarget? (declares : Bool) : Tree → Option Tree
  | tree@(node .absent _ _) => some tree
  | node .spread span [inner] => (asTarget? declares inner).bind fun target =>
    match target.kind with
    | .withDefault => none
    | _ => some (node .rest span [target])
  | node .rest span [inner] => (asTarget? declares inner).map fun target =>
      node .rest span [target]
  | node .withDefault span [target, value] =>
    (asTarget? declares target).map fun target =>
      node .withDefault span [target, value]
  | node kind span children => asTarget? declares (node kind span children)

/-- The patterns that the properties of an object turn out to be. -/
def propertiesAsTargets? (declares : Bool) : List Tree → Option (List Tree)
  | [] => some []
  | property :: rest => do
    let target ← propertyAsTarget? declares property
    return target :: (← propertiesAsTargets? declares rest)

/-- The part of a pattern that a property of an object turns out to be. -/
def propertyAsTarget? (declares : Bool) : Tree → Option Tree
  | node .property span [key, value] =>
    (itemAsTarget? declares value).bind fun target =>
      match target.kind with
      | .absent => none
      | .rest => none
      | _ => some (node .patternProperty span [key, target])
  | node .patternProperty span [key, value] =>
    (itemAsTarget? declares value).map fun target =>
      node .patternProperty span [key, target]
  | node .shorthand span [name] =>
    some (node .patternShorthand span [name, absent span.stop])
  | node .shorthandWithDefault span [name, value] =>
    some (node .patternShorthand span [name, value])
  | tree@(node .patternShorthand _ _) => some tree
  | node .spread span [inner] =>
    match inner.kind with
    | .identifier _ _ => some (node .rest span [inner])
    | _ =>
      if !declares && inner.isSimpleTarget then some (node .rest span [inner])
      else none
  | tree@(node .rest _ [inner]) =>
    match inner.kind with
    | .identifier _ _ => some tree
    | _ => if declares then none else some tree
  | _ => none

end

end Tree

end VuePrecompiler.Javascript
