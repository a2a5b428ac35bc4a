import VuePrecompiler.Template.Chain
import VuePrecompiler.Template.SlotContent

/-!
# Arranged templates

Before code is generated, the conditional chains of a template are joined and
slot content is moved to the slots of its component.  `Tree.fault?` finds the
first reason why this cannot be done, level by level from the outside, and
`Tree.arranged` does it.
-/

namespace VuePrecompiler.Template

open Source

/-- Whether the content of an element is given to slots. -/
def StartTag.takesSlots (tag : StartTag) : Bool :=
  tag.isComponent || tag.name == "component"

mutual

/-- Arrange everything below a node. -/
def Node.arranged : Node → Node
  | .element tag children slots span =>
    let children := arrangedEach children
    let slots := arrangedSlots slots
    if tag.takesSlots then
      let collected := collectSlots tag children span
      .element collected.tag (joinChains collected.children)
        (slots ++ collected.slots.map fun slot =>
          .mk slot.head (joinChains slot.children)) span
    else .element tag (joinChains children) slots span
  | .text content span => .text content span
  | .interpolation expression span => .interpolation expression span
  | .comment content span => .comment content span
  | .conditional branches span => .conditional (arrangedBranches branches) span
  | .loop head children span => .loop head (joinChains (arrangedEach children)) span
  | .outlet outlet fallback span =>
    .outlet outlet (joinChains (arrangedEach fallback)) span
  | .slotTemplate directives children span =>
    .slotTemplate directives (joinChains (arrangedEach children)) span

/-- Arrange everything below each of a list of nodes. -/
def arrangedEach : List Node → List Node
  | [] => []
  | node :: rest => node.arranged :: arrangedEach rest

/-- Arrange everything in the branches of a conditional. -/
def arrangedBranches : List Branch → List Branch
  | [] => []
  | .mk kind condition children span :: rest =>
    .mk kind condition (joinChains (arrangedEach children)) span ::
      arrangedBranches rest

def arrangedSlots : List Slot → List Slot
  | [] => []
  | .mk head children :: rest =>
    .mk head (joinChains (arrangedEach children)) :: arrangedSlots rest

end

mutual

/-- The first fault below a node. -/
def Node.fault? : Node → Option CompileError
  | .element tag children slots _ =>
    let faults := faultEach children
    let below :=
      if tag.takesSlots then
        let marked := children.zip faults
        let others := marked.filter fun (child, _) => child.slot?.isNone
        let templates := marked.filter fun (child, _) => child.slot?.isSome
        (slotFault? tag children).or
          ((chainFault? (others.map (·.1))).or
            ((others ++ templates).findSome? (·.2)))
      else (chainFault? children).or (faults.findSome? id)
    below.or (slotsFault? slots)
  | .text _ _ => none
  | .interpolation _ _ => none
  | .comment _ _ => none
  | .conditional branches _ => branchesFault? branches
  | .loop _ children _ => (chainFault? children).or ((faultEach children).findSome? id)
  | .outlet _ fallback _ =>
    (chainFault? fallback).or ((faultEach fallback).findSome? id)
  | .slotTemplate _ children _ =>
    (chainFault? children).or ((faultEach children).findSome? id)

/-- The first fault below each of a list of nodes. -/
def faultEach : List Node → List (Option CompileError)
  | [] => []
  | node :: rest => node.fault? :: faultEach rest

/-- The first fault in the branches of a conditional. -/
def branchesFault? : List Branch → Option CompileError
  | [] => none
  | .mk _ _ children _ :: rest =>
    ((chainFault? children).or ((faultEach children).findSome? id)).or
      (branchesFault? rest)

def slotsFault? : List Slot → Option CompileError
  | [] => none
  | .mk _ children :: rest =>
    ((chainFault? children).or ((faultEach children).findSome? id)).or
      (slotsFault? rest)

end

namespace Tree

/-- The first reason why a template cannot be arranged. -/
def fault? (tree : Tree) : Option CompileError :=
  (chainFault? tree.children).or ((faultEach tree.children).findSome? id)

/-- The template with its chains joined and its slot content in the slots. -/
def arranged (tree : Tree) : Tree :=
  { tree with children := joinChains (arrangedEach tree.children) }

/-- Arrange a template, unless something in it has no place. -/
def arrange (tree : Tree) : Except CompileError Tree :=
  match tree.fault? with
  | some error => .error error
  | none => .ok tree.arranged

end Tree

end VuePrecompiler.Template
