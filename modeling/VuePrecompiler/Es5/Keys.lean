import VuePrecompiler.Es5.Hoisting

/-!
# Keys of object literals

A literal of ECMAScript 5 has distinct keys that are names or strings.  From the
first computed or repeated key on, properties are defined one by one.
-/

namespace VuePrecompiler.Es5

open Javascript

def keyText? : Tree → Option String
  | .node (.propertyName name) _ _ => some name
  | .node .computedKey _ [key] => stringValue? key
  | key => stringValue? key

/-- An expression for a key. -/
def keyNode : Tree → Tree
  | .node (.propertyName name) _ _ => stringNode name
  | .node .computedKey _ [key] => key
  | key => key

/-- A key that is computed if it is among the used ones. -/
def withFreshKey (used : List String) (key : Tree) : Tree :=
  if key.kind != .computedKey && (keyText? key).any used.contains then
    node .computedKey [keyNode key]
  else key

/-- The properties of a literal without repeated keys.  A getter and a setter
may share a key. -/
def withDistinctKeys (readable writable : List String) : List Tree → List Tree
  | [] => []
  | .node .property span [key, value] :: rest =>
    let added := (keyText? key).toList
    .node .property span [withFreshKey (readable ++ writable) key, value]
      :: withDistinctKeys (added ++ readable) (added ++ writable) rest
  | .node (.method .getter) span [key, function] :: rest =>
    .node (.method .getter) span [withFreshKey readable key, function]
      :: withDistinctKeys ((keyText? key).toList ++ readable) writable rest
  | .node (.method .setter) span [key, function] :: rest =>
    .node (.method .setter) span [withFreshKey writable key, function]
      :: withDistinctKeys readable ((keyText? key).toList ++ writable) rest
  | other :: rest => other :: withDistinctKeys readable writable rest

def hasComputedKey : Tree → Bool
  | .node .property _ (.node .computedKey _ _ :: _) => true
  | .node (.method _) _ (.node .computedKey _ _ :: _) => true
  | _ => false

def isAccessor : Tree → Bool
  | .node (.method _) _ _ => true
  | _ => false

/-- What defines one property of an object; accessors are collected in a map. -/
def definition (object accessors : Tree) : Tree → Pass (List Tree)
  | .node .property _ [key, value] => do
    return [← helperCall "define_property" [object, keyNode key, value]]
  | .node (.method kind) _ [key, function] =>
    let found := indexNode accessors (keyNode key)
    let side := if kind == .setter then "set" else "get"
    return [assignNode found (binaryNode "||" found (node .object [])),
      assignNode (memberNode found side) function]
  | _ => return []

def definitions (object accessors : Tree) : List Tree → Pass (List Tree)
  | [] => return []
  | first :: rest => do
    let first ← definition object accessors first
    return first ++ (← definitions object accessors rest)

def withoutComputedKeys (span : Source.Span) (properties : List Tree) :
    Hoisting Tree := do
  let plain : Tree := .node .object span (properties.takeWhile (!hasComputedKey ·))
  match properties.dropWhile (!hasComputedKey ·) with
  | [] => return plain
  | [.node .property _ [key, value]] =>
    helperCall "define_property" [plain, keyNode key, value]
  | rest => do
    let object ← hoistedVariable "_obj"
    let accessors ← newVariable "_mutatorMap"
    let defined ← definitions object accessors rest
    if rest.any isAccessor then
      modify (· ++ [declaratorNode accessors (node .object [])])
      let final ← helperCall "define_enumerable_properties" [object, accessors]
      return node .sequence (assignNode object plain :: defined ++ [final, object])
    else return node .sequence (assignNode object plain :: defined ++ [object])

/-- A program whose object literals have distinct keys that are not computed. -/
def lowerKeys (program : Tree) : Pass Tree :=
  HoistingRewriting.run ⟨.beforeStatement, fun kind span parts =>
    match kind with
    | .object => withoutComputedKeys span (withDistinctKeys [] [] parts)
    | _ => return .node kind span parts⟩ program

end VuePrecompiler.Es5
