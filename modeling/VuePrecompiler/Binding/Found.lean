import VuePrecompiler.Binding.Comments
import VuePrecompiler.Javascript.Program

/-!
# Template bindings

A template is bound by assigning to `template` or to a property of that name,
or by a property `template` in an object literal.  `Found.all` lists the marked
bindings of a program, outer ones before those inside of them.
-/

namespace VuePrecompiler.Binding

open Javascript Source

/-- How a template is bound. -/
inductive Form where
  | assignment
  | property
deriving DecidableEq, Repr, Inhabited

/-- What stands between the name and the value. -/
def Form.operator : Form → String
  | .assignment => " = "
  | .property => ": "

/-- A call of `require` with string literals. -/
structure RequireCall where
  specifier : StringLiteral
  qualifier : Option StringLiteral
deriving DecidableEq, Repr, Inhabited

/-- A marked binding. -/
structure Found where
  form : Form
  /-- From the name to the end of the value. -/
  replaced : Span
  value : Span
  /-- The value, if it is a call of `require` that can be converted. -/
  require : Option RequireCall
deriving DecidableEq, Repr, Inhabited

/-- The literal that an expression is. -/
def literal? (tree : Tree) : Option StringLiteral :=
  match tree.kind with
  | .string raw => StringLiteral.ofSource? raw
  | _ => none

/-- The call of `require` with one or two literals that an expression is. -/
def RequireCall.ofTree? (tree : Tree) : Option RequireCall :=
  match tree with
  | .node (.call false) _ (.node (.identifier "require" _) _ _ :: items) =>
    match items with
    | [specifier] => (literal? specifier).map fun specifier => ⟨specifier, none⟩
    | [specifier, qualifier] => do return ⟨← literal? specifier, ← literal? qualifier⟩
    | _ => none
  | _ => none

/-- Where the name begins in a target named `template`. -/
def targetStart? (target : Tree) : Option Nat :=
  match target with
  | .node (.identifier "template" _) span _ => some span.start
  | .node (.member _) _ [object, .node (.propertyName "template") span _] =>
    if object.kind == .super then none else some span.start
  | _ => none

/-- Where a key begins that says `template`. -/
def keyStart? (key : Tree) : Option Nat :=
  match key.kind with
  | .propertyName name => if name == "template" then some key.span.start else none
  | .string _ =>
    if (literal? key).any fun literal => literal.value == "template" then
      some key.span.start
    else none
  | _ => none

namespace Found

def binding (form : Form) (nameStart : Nat) (value : Tree) : Found :=
  ⟨form, ⟨nameStart, value.span.stop⟩, value.span, RequireCall.ofTree? value⟩

/-- The binding that a node is, if it is marked; `marked` tells whether a
marker stands in front of a position. -/
def ofNode? (marked : Nat → Bool) (kind : Kind) (span : Span) (children : List Tree) :
    Option Found :=
  match kind, children with
  | .assign "=", [target, value] =>
    (targetStart? target).bind fun start =>
      if marked span.start then some (binding .assignment start value) else none
  | .property, [key, value] =>
    (keyStart? key).bind fun start =>
      if marked start then some (binding .property start value) else none
  | _, _ => none

mutual

def inTree (marked : Nat → Bool) : Tree → List Found
  | .node kind span children =>
    (ofNode? marked kind span children).toList ++ inEach marked children

def inEach (marked : Nat → Bool) : List Tree → List Found
  | [] => []
  | first :: rest => inTree marked first ++ inEach marked rest

end

def all (program : Program) (text : List Char) : List Found :=
  inTree (fun position => isMarked (commentsBefore program.comments text position))
    program.tree

end Found

end VuePrecompiler.Binding
