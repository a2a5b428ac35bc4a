/-!
# Reserved words

Which words cannot be names of variables: some never, some in strict code only.
-/

namespace VuePrecompiler.Javascript

/-- The words that are never names of variables. -/
def reservedWords : List String :=
  ["break", "case", "catch", "class", "const", "continue", "debugger", "default",
    "delete", "do", "else", "enum", "export", "extends", "false", "finally", "for",
    "function", "if", "import", "in", "instanceof", "new", "null", "return", "super",
    "switch", "this", "throw", "true", "try", "typeof", "var", "void", "while", "with"]

/-- The words that are names of variables outside strict code only. -/
def strictReservedWords : List String :=
  ["implements", "interface", "let", "package", "private", "protected", "public",
    "static", "yield"]

/-- Words that older versions of the language kept for later use. -/
def legacyReservedWords : List String :=
  ["abstract", "boolean", "byte", "char", "double", "final", "float", "goto", "int",
    "long", "native", "short", "synchronized", "throws", "transient", "volatile"]

/-- Whether some code, of whatever version and mode, cannot use a word as the
name of a variable. -/
def isReservedSomewhere (word : String) : Bool :=
  reservedWords.contains word || strictReservedWords.contains word
    || legacyReservedWords.contains word ||
      ["await", "arguments", "eval"].contains word

/-- Whether a word is never the name of a variable. -/
def isReserved (word : String) : Bool := reservedWords.contains word

end VuePrecompiler.Javascript
