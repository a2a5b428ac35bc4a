import VuePrecompiler.Template.StartTag
import VuePrecompiler.Template.Error

/-!
# Slot content

The content of a named slot is a `<template v-slot>` child of a component, or
everything in a component that carries `v-slot` itself.  `collectSlots` moves
this content from the children of a component to its slots, and `slotFault?`
finds content that cannot be placed.
-/

namespace VuePrecompiler.Template

open Source

/-- The slot a `v-slot` directive is for; without an argument it is `default`. -/
def SlotHead.ofDirective (directive : Directive) (span : Span) : SlotHead where
  name :=
    match directive.argument with
    | some (.fixed name) => .fixed name
    | some (.computed code) => .computed (Text.trimmed code)
    | none => .fixed "default"
  props :=
    match directive.value with
    | some code => if code.isBlank then none else some ⟨code.trimmed, code.span⟩
    | none => none
  span

/-- The slot content that a node gives, if it gives any. -/
def Node.slot? : Node → Option Slot
  | .slotTemplate directives children span =>
    (directives.find? (·.name == "slot")).map fun directive =>
      .mk (SlotHead.ofDirective directive span) children
  | _ => none

/-- The parts of a component after its slot content has been moved. -/
structure CollectedSlots where
  tag : StartTag
  slots : List Slot
  children : List Node

/-- Move the slot content of a component from its children to its slots. -/
def collectSlots (tag : StartTag) (children : List Node) (span : Span) :
    CollectedSlots :=
  let slots := children.filterMap Node.slot?
  let others := children.filter fun child => child.slot?.isNone
  match tag.takeDirective? "slot" with
  | (some own, tag) => ⟨tag, slots ++ [.mk (SlotHead.ofDirective own span) others], []⟩
  | (none, tag) => ⟨tag, slots, others⟩

/-- The first slot whose name is taken by one before it. -/
def duplicateSlot? (taken : List String) : List Slot → Option CompileError
  | [] => none
  | slot :: rest =>
    let name := slot.head.name.text
    if taken.contains name then some (.invalidSlot (.duplicate name) slot.head.span)
    else duplicateSlot? (name :: taken) rest

/-- Why the slot content of a component cannot be placed: two templates for
one name, or a template beside `v-slot` on the component. -/
def slotFault? (tag : StartTag) (children : List Node) : Option CompileError :=
  let slots := children.filterMap Node.slot?
  (duplicateSlot? [] slots).or
    (match (tag.takeDirective? "slot").1 with
    | some own => if slots.isEmpty then none else some (.invalidSlot .mixed own.span)
    | none => none)

end VuePrecompiler.Template
