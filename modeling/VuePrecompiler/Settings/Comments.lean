/-!
# Comments in settings

A settings file is JSON with comments, from two slashes to the end of the line
or between `/*` and `*/`.  `withoutComments` deletes them, but keeps the line
feeds in them, so that lines keep their numbers.
-/

namespace VuePrecompiler.Settings

mutual

/-- The text from a place outside of strings and comments on. -/
def outside : List Char → List Char
  | [] => []
  | '"' :: rest => '"' :: inString rest
  | '/' :: '/' :: rest => inLine rest
  | '/' :: '*' :: rest => inBlock rest
  | c :: rest => c :: outside rest

/-- The text from a place in a string on. -/
def inString : List Char → List Char
  | [] => []
  | '"' :: rest => '"' :: outside rest
  | '\\' :: c :: rest => '\\' :: c :: inString rest
  | c :: rest => c :: inString rest

/-- The text from a place in a comment on that ends with the line. -/
def inLine : List Char → List Char
  | [] => []
  | '\n' :: rest => '\n' :: outside rest
  | _ :: rest => inLine rest

/-- The text from a place in a comment on that ends with `*/`. -/
def inBlock : List Char → List Char
  | [] => []
  | '*' :: '/' :: rest => outside rest
  | '\n' :: rest => '\n' :: inBlock rest
  | _ :: rest => inBlock rest

end

def withoutComments (text : String) : String := String.ofList (outside text.toList)

end VuePrecompiler.Settings
