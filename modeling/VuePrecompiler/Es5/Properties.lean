import VuePrecompiler.Es5.Build
import VuePrecompiler.Javascript.Words

/-!
# Properties and the names of functions

Shorthands and methods become properties with values, and a function without a
name takes the name of the property or the variable that it is the value of.
-/

namespace VuePrecompiler.Es5

open Javascript Source

/-- The key `__proto__` would set the prototype and is computed therefore. -/
def plainKey (key : Tree) : Tree :=
  if key.kind == .propertyName "__proto__" then
    node .computedKey [stringNode "__proto__"]
  else if stringValue? key == some "__proto__" then node .computedKey [key]
  else key

def spelledOut : Tree → Tree
  | .node .shorthand span [variableUsed] =>
    match variableUsed.kind with
    | .identifier name _ =>
      .node .property span [plainKey (node (.propertyName name) []), variableUsed]
    | _ => .node .shorthand span [variableUsed]
  | .node (.method .method) span [key, function] =>
    .node .property span [plainKey key, function]
  | tree => tree

/-- A name for a function; words that name no variables get an underscore. -/
def functionName (name : String) : String :=
  if isReservedSomewhere name then "_" ++ name else name

def named (name : String) : Tree → Pass Tree
  | .node (.functionExpression mode) span [.node .absent _ _, parameters, body] => do
    return .node (.functionExpression mode) span
      [← newVariable (functionName name), parameters, body]
  | tree => return tree

/-- Name the function that is the value of a property or a variable. -/
def withNamedValue (kind : Kind) (span : Span) (parts : List Tree) : Pass Tree :=
  match kind, parts with
  | .property, [key, value] =>
    match key.kind with
    | .propertyName name => return .node kind span [key, ← named name value]
    | _ => return .node kind span parts
  | .declarator, [target, value] => nameBy target value
  | .assign "=", [target, value] => nameBy target value
  | _, _ => return .node kind span parts
where
  nameBy (target value : Tree) : Pass Tree :=
    match target.kind with
    | .identifier name _ => return .node kind span [target, ← named name value]
    | _ => return .node kind span parts

/-- Spell out the properties of a tree and name its functions. -/
def lowerProperties (tree : Tree) : Pass Tree :=
  Rewriting.tree ⟨fun kind span parts =>
    match kind with
    | .object => return .node kind span parts
    | _ =>
      match spelledOut (.node kind span parts) with
      | .node kind span parts => withNamedValue kind span parts⟩ tree

end VuePrecompiler.Es5
