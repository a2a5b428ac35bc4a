import VuePrecompiler.Source.Span
import VuePrecompiler.Text.Blank

/-!
# Template trees

The nodes of a parsed template.  The directives that shape the tree are nodes
of their own: an element with `v-for` stands inside a loop, one with `v-if`,
`v-else-if` or `v-else` inside a conditional, and `<slot>` is an outlet.
-/

namespace VuePrecompiler.Template

open Source

/-- Code written in a template, with the span of its text. -/
structure Code where
  content : String
  span : Span
deriving DecidableEq, Repr, Inhabited

namespace Code

/-- The code without the blanks around it. -/
def trimmed (code : Code) : String := Text.trimmed code.content

def isBlank (code : Code) : Bool := Text.isBlankText code.content

end Code

/-- A name that is written out, or one that code computes. -/
inductive Name where
  | fixed (text : String)
  | computed (code : String)
deriving DecidableEq, Repr, Inhabited

namespace Name

/-- The written text of a name or of the code for it. -/
def text : Name → String
  | .fixed text => text
  | .computed code => code

def isComputed : Name → Bool
  | .fixed _ => false
  | .computed _ => true

end Name

/-- A value as an attribute gives it, with the span of the text between the quotes. -/
structure AttributeValue where
  text : String
  span : Span
deriving DecidableEq, Repr, Inhabited

/-- An attribute with a constant value; a bare one such as `disabled` has none. -/
structure Attribute where
  name : String
  value : Option AttributeValue
  span : Span
deriving DecidableEq, Repr, Inhabited

/-- The text of the value, empty for a bare attribute. -/
def Attribute.text (attr : Attribute) : String :=
  attr.value.elim "" AttributeValue.text

/-- `:name`, `v-bind:name` or `.name`. -/
structure Binding where
  name : Name
  value : Code
  modifiers : List String
  span : Span
deriving DecidableEq, Repr, Inhabited

/-- `@name` or `v-on:name`; the handler may be empty. -/
structure Listener where
  name : Name
  handler : Code
  modifiers : List String
  span : Span
deriving DecidableEq, Repr, Inhabited

/-- `v-name:argument.modifiers`, or `#argument` for `v-slot`. -/
structure Directive where
  name : String
  argument : Option Name
  modifiers : List String
  value : Option Code
  span : Span
deriving DecidableEq, Repr, Inhabited

/-- What a start tag says about its element. -/
structure StartTag where
  name : String
  /-- Whether the tag names a component of the user. -/
  isComponent : Bool
  attributes : List Attribute
  /-- The directives other than bindings, listeners and those that shape the tree. -/
  directives : List Directive
  props : List Binding
  listeners : List Listener
deriving DecidableEq, Repr, Inhabited

inductive BranchKind where
  | first
  | elseIf
  | last
deriving DecidableEq, Repr, Inhabited

/-- A variable or a destructuring pattern. -/
structure Pattern where
  text : String
  span : Span
deriving DecidableEq, Repr, Inhabited

/-- `(value, key, index) in source`. -/
structure LoopHead where
  source : Code
  value : Pattern
  key : Option Pattern
  index : Option Pattern
deriving DecidableEq, Repr, Inhabited

/-- The name of a slot outlet: a text, or code for it. -/
inductive OutletName where
  | literal (text : String) (span : Span)
  | code (code : Code)
deriving DecidableEq, Repr, Inhabited

/-- What `<slot>` says besides its fallback content. -/
structure Outlet where
  name : OutletName
  attributes : List Attribute
  props : List Binding
deriving DecidableEq, Repr, Inhabited

/-- Which slot of a component some content is for. -/
structure SlotHead where
  name : Name
  props : Option Pattern
  span : Span
deriving DecidableEq, Repr, Inhabited

mutual

inductive Node where
  /-- An element or a component, with its children and the content
  of its named slots. -/
  | element (tag : StartTag) (children : List Node) (slots : List Slot) (span : Span)
  /-- Text as written; character references are not yet decoded. -/
  | text (content : String) (span : Span)
  | interpolation (expression : Code) (span : Span)
  | comment (content : String) (span : Span)
  | conditional (branches : List Branch) (span : Span)
  /-- An element with `v-for`; `v-if` on the same element stands inside. -/
  | loop (head : LoopHead) (children : List Node) (span : Span)
  /-- `<slot>`. -/
  | outlet (outlet : Outlet) (fallback : List Node) (span : Span)
  /-- `<template v-slot>`. -/
  | slotTemplate (directives : List Directive) (children : List Node) (span : Span)

/-- A branch of a conditional; `v-else` has no condition. -/
inductive Branch where
  | mk (kind : BranchKind) (condition : Option Code)
      (children : List Node) (span : Span)

/-- Content for a named slot of a component. -/
inductive Slot where
  | mk (head : SlotHead) (children : List Node)

end

deriving instance Repr, Inhabited for Node, Branch, Slot

namespace Node

def span : Node → Span
  | .element _ _ _ span => span
  | .text _ span => span
  | .interpolation _ span => span
  | .comment _ span => span
  | .conditional _ span => span
  | .loop _ _ span => span
  | .outlet _ _ span => span
  | .slotTemplate _ _ span => span

/-- Whether a node is a comment or blank text. -/
def isInsignificant : Node → Bool
  | .comment _ _ => true
  | .text content _ => Text.isBlankText content
  | _ => false

end Node

namespace Branch

def kind : Branch → BranchKind
  | .mk kind _ _ _ => kind

def condition : Branch → Option Code
  | .mk _ condition _ _ => condition

def children : Branch → List Node
  | .mk _ _ children _ => children

def span : Branch → Span
  | .mk _ _ _ span => span

end Branch

namespace Slot

def head : Slot → SlotHead
  | .mk head _ => head

def children : Slot → List Node
  | .mk _ children => children

end Slot

/-- A parsed template. -/
structure Tree where
  children : List Node
  span : Span
deriving Repr, Inhabited

end VuePrecompiler.Template
