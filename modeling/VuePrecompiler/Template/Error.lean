import VuePrecompiler.Source.Span

/-!
# Template errors

The causes for which a template cannot be compiled, each with the span of the
text at fault, one message and one code.
-/

namespace VuePrecompiler.Template

open Source

/-- Why a node cannot be the root of a template. -/
inductive RootFault where
  | missing
  | several
  | template
  | outlet
  | loop
  | bareText
deriving DecidableEq, Repr

/-- Why slot content is refused. -/
inductive SlotFault where
  /-- Two templates give content for one slot. -/
  | duplicate (name : String)
  /-- `v-slot` on the component and templates for slots below it. -/
  | mixed
  /-- `v-slot` on an element. -/
  | misplaced
deriving DecidableEq, Repr

/-- Why a template cannot be compiled, and where. -/
inductive CompileError where
  | unexpectedToken (expected found : String) (span : Span)
  | invalidLoop (expression : String) (span : Span)
  | unpairedElse (span : Span)
  | invalidRoot (fault : RootFault) (span : Span)
  | invalidSlot (fault : SlotFault) (span : Span)
deriving DecidableEq, Repr

def RootFault.message : RootFault → String
  | .missing => "Component template requires a root element"
  | .several => "Component template should contain exactly one root element"
  | .template =>
    "Cannot use <template> as component root element because it may contain multiple nodes"
  | .outlet =>
    "Cannot use <slot> as component root element because it may contain multiple nodes"
  | .loop =>
    "Cannot use v-for on stateful component root element because it renders multiple elements"
  | .bareText => "Component template requires a root element, rather than just text"

def SlotFault.message : SlotFault → String
  | .duplicate name => "Duplicate slot content for \"" ++ name ++ "\""
  | .mixed => "v-slot on a component cannot be mixed with <template v-slot> children"
  | .misplaced => "v-slot can only be used on components or <template>"

namespace CompileError

/-- The text of an error. -/
def message : CompileError → String
  | .unexpectedToken expected found _ => "Expected " ++ expected ++ ", found " ++ found
  | .invalidLoop expression _ => "Invalid v-for expression: " ++ expression
  | .unpairedElse _ => "v-else/v-else-if has no adjacent v-if or v-else-if element"
  | .invalidRoot fault _ => fault.message
  | .invalidSlot fault _ => fault.message

/-- The code of an error, which does not depend on its text. -/
def code : CompileError → String
  | .unexpectedToken _ _ _ => "unexpected-token"
  | .invalidLoop _ _ => "invalid-v-for"
  | .unpairedElse _ => "unpaired-else"
  | .invalidRoot _ _ => "invalid-root"
  | .invalidSlot _ _ => "invalid-slot"

/-- The text at fault. -/
def span : CompileError → Span
  | .unexpectedToken _ _ span => span
  | .invalidLoop _ span => span
  | .unpairedElse span => span
  | .invalidRoot _ span => span
  | .invalidSlot _ span => span

end CompileError

end VuePrecompiler.Template
