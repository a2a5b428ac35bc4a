/-!
# Camel case

Names with hyphens in camel case: a hyphen disappears and the character behind
it becomes a capital, where it is an ASCII letter.
-/

namespace VuePrecompiler.Text

/-- Camel case of what follows; `raised` tells whether a hyphen came before. -/
def camelizeFrom (raised : Bool) : List Char → List Char
  | [] => []
  | c :: rest =>
    if c = '-' then camelizeFrom true rest
    else (if raised then c.toUpper else c) :: camelizeFrom false rest

def camelize (name : String) : String :=
  String.ofList (camelizeFrom false name.toList)

end VuePrecompiler.Text
