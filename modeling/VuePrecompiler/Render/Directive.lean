import VuePrecompiler.Template.Syntax
import VuePrecompiler.Render.Listeners
import VuePrecompiler.Javascript.StringLiteral

/-!
# Directive descriptors

The object by which a directive is handed to the runtime.
-/

namespace VuePrecompiler.Render

open Template Javascript

/-- The value of a directive, if it has code. -/
def directiveValue? (directive : Directive) : Option String :=
  (directive.value.filter fun code => !code.isBlank).map Code.trimmed

/-- The name of a directive as it is written in a template. -/
def rawName (directive : Directive) : String :=
  let argument :=
    match directive.argument with
    | some (.fixed name) => ":" ++ name
    | some (.computed code) => ":[" ++ code ++ "]"
    | none => ""
  "v-" ++ directive.name ++ argument ++
    String.join (directive.modifiers.map ("." ++ ·))

def argumentCode : Name → String
  | .fixed name => literal name
  | .computed code => Text.trimmed code

/-- The descriptor of a directive. -/
def directiveObject (directive : Directive) : String :=
  object (["name:\"" ++ directive.name ++ "\"",
    "rawName:" ++ literal (rawName directive)] ++ (match directiveValue? directive with
      | some value => ["value:(" ++ value ++ ")", "expression:" ++ literal value]
      | none => [])
    ++ (match directive.argument with
      | some argument => ["arg:" ++ argumentCode argument]
      | none => [])
    ++ (if directive.modifiers.isEmpty then []
      else ["modifiers:" ++ object (directive.modifiers.map fun modifier =>
        literal modifier ++ ":true")]))

end VuePrecompiler.Render
