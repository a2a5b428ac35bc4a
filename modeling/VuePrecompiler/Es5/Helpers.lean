import VuePrecompiler.Es5.Occurrences

/-!
# Helpers

Which other helpers a helper needs, and the declarations that load them.
-/

namespace VuePrecompiler.Es5

open Javascript

/-- The helpers in the order in which they are loaded, each with those it needs. -/
def helperTable : List (String × List String) :=
  [("array_like_to_array", []),
    ("array_with_holes", []),
    ("array_without_holes", ["array_like_to_array"]),
    ("assert_this_initialized", []),
    ("call_super", ["get_prototype_of", "is_native_reflect_construct",
      "possible_constructor_return"]),
    ("class_call_check", []),
    ("construct", ["is_native_reflect_construct", "set_prototype_of"]),
    ("create_class", []),
    ("define_enumerable_properties", []),
    ("define_property", []),
    ("get", ["super_prop_base"]),
    ("get_prototype_of", []),
    ("inherits", ["set_prototype_of"]),
    ("instanceof", []),
    ("is_native_function", []),
    ("iterable_to_array", []),
    ("iterable_to_array_limit", []),
    ("non_iterable_rest", []),
    ("non_iterable_spread", []),
    ("object_destructuring_empty", []),
    ("possible_constructor_return", ["type_of", "assert_this_initialized"]),
    ("set", ["super_prop_base", "define_property"]),
    ("set_prototype_of", []),
    ("sliced_to_array",
      ["array_with_holes", "iterable_to_array_limit", "unsupported_iterable_to_array",
        "non_iterable_rest"]),
    ("super_prop_base", ["get_prototype_of"]),
    ("tagged_template_literal", []),
    ("to_array",
      ["array_with_holes", "iterable_to_array", "unsupported_iterable_to_array",
        "non_iterable_rest"]),
    ("to_consumable_array",
      ["array_without_holes", "iterable_to_array", "unsupported_iterable_to_array",
        "non_iterable_spread"]),
    ("update", ["get", "set"]),
    ("type_of", []),
    ("unsupported_iterable_to_array", ["array_like_to_array"]),
    ("wrap_native_super",
      ["construct", "get_prototype_of", "set_prototype_of", "is_native_function"]),
    ("is_native_reflect_construct", []),
    ("ts_generator", []),
    ("ts_values", [])]

/-- The helpers that a helper needs at once. -/
def neededHelpers (name : String) : List String := (helperTable.lookup name).getD []

/-- Helpers and all that they need, in some number of steps. -/
def withNeeded : Nat → List String → List String
  | 0, names => names
  | steps + 1, names =>
    withNeeded steps (names ++ names.flatMap neededHelpers).eraseDups

def helperDeclaration (helpers : List (String × Nat)) (name : String) : Pass Tree := do
  let binding ← match helpers.lookup name with
    | some binding => pure binding
    | none => newBinding
  let path := stringNode ("@swc/helpers/_/_" ++ name)
  let load := callNode (variableNode "require" 0) [path]
  return variablesNode [declaratorNode (variableNode ("_" ++ name) binding) load]

def helperDeclarations (helpers : List (String × Nat)) : List String → Pass (List Tree)
  | [] => return []
  | first :: rest => do
    let first ← helperDeclaration helpers first
    return first :: (← helperDeclarations helpers rest)

/-- Statements that read the functions of helpers off the modules
that variables hold. -/
def withHelperFunctions (statements : List Tree) : Pass (List Tree) := do
  let helpers := (← get).helpers
  let function (name : String) (binding : Nat) :=
    memberNode (variableNode ("_" ++ name) binding) "_"
  return withReplacedEach (helpers.map fun (name, binding) =>
    (binding, function name binding)) statements

/-- The declarations that load the helpers that were asked for. -/
def loadedHelpers : Pass (List Tree) := do
  let helpers := (← get).helpers
  let names := withNeeded helperTable.length (helpers.map Prod.fst)
  helperDeclarations helpers ((helperTable.map Prod.fst).filter names.contains)

end VuePrecompiler.Es5
