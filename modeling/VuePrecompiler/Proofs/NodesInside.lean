import VuePrecompiler.Template.Arrangement

/-!
# The nodes inside a node

`Node.inside` gives the nodes directly below a node, whatever holds them:
children, branches or slots.  Induction over it replaces the four recursions
over nodes, lists of nodes, branches and slots.
-/

namespace VuePrecompiler.Template

open Source

/-- The nodes directly below a node. -/
def Node.inside : Node → List Node
  | .element _ children slots _ => children ++ slots.flatMap Slot.children
  | .text _ _ => []
  | .interpolation _ _ => []
  | .comment _ _ => []
  | .conditional branches _ => branches.flatMap Branch.children
  | .loop _ children _ => children
  | .outlet _ fallback _ => fallback
  | .slotTemplate _ children _ => children

theorem Branch.sizeOf_child {branch : Branch} {child : Node}
    (member : child ∈ branch.children) : sizeOf child < sizeOf branch := by
  rcases branch with ⟨kind, condition, children, span⟩
  have smaller := List.sizeOf_lt_of_mem member
  simp only [Branch.children, Branch.mk.sizeOf_spec] at smaller ⊢
  omega

theorem Slot.sizeOf_child {slot : Slot} {child : Node}
    (member : child ∈ slot.children) : sizeOf child < sizeOf slot := by
  rcases slot with ⟨head, children⟩
  have smaller := List.sizeOf_lt_of_mem member
  simp only [Slot.children, Slot.mk.sizeOf_spec] at smaller ⊢
  omega

theorem Node.sizeOf_inside {node child : Node} (member : child ∈ node.inside) :
    sizeOf child < sizeOf node := by
  cases node with
  | text => contradiction
  | interpolation => contradiction
  | comment => contradiction
  | element tag children slots span =>
      simp only [Node.element.sizeOf_spec]
      rcases List.mem_append.mp member with child | inSlot
      · have smaller := List.sizeOf_lt_of_mem child
        omega
      · obtain ⟨slot, given, child⟩ := List.mem_flatMap.mp inSlot
        have slotSmaller := List.sizeOf_lt_of_mem given
        have smaller := Slot.sizeOf_child child
        omega
  | conditional branches span =>
      obtain ⟨branch, given, child⟩ := List.mem_flatMap.mp member
      have branchSmaller := List.sizeOf_lt_of_mem given
      have smaller := Branch.sizeOf_child child
      simp only [Node.conditional.sizeOf_spec]
      omega
  | loop head children span =>
      have smaller := List.sizeOf_lt_of_mem member
      simp only [Node.loop.sizeOf_spec, Node.inside] at smaller ⊢
      omega
  | outlet outlet fallback span =>
      have smaller := List.sizeOf_lt_of_mem member
      simp only [Node.outlet.sizeOf_spec, Node.inside] at smaller ⊢
      omega
  | slotTemplate directives children span =>
      have smaller := List.sizeOf_lt_of_mem member
      simp only [Node.slotTemplate.sizeOf_spec, Node.inside] at smaller ⊢
      omega

/-- What holds of a node whenever it holds of the nodes inside it
holds of every node. -/
@[elab_as_elim]
theorem Node.inside_induct {motive : Node → Prop}
    (step : ∀ node, (∀ child ∈ node.inside, motive child) → motive node)
    (node : Node) :
    motive node :=
  step node fun child _member => Node.inside_induct step child
termination_by sizeOf node
decreasing_by exact Node.sizeOf_inside _member

/-- A property of a node and of every node below it. -/
inductive Node.Throughout (property : Node → Prop) : Node → Prop where
  | intro {node : Node} : property node →
      (∀ child ∈ node.inside, Node.Throughout property child) →
      Node.Throughout property node

namespace Node.Throughout

variable {property : Node → Prop} {node : Node}

theorem here (throughout : node.Throughout property) : property node := by
  cases throughout with
  | intro here _ => exact here

theorem inside (throughout : node.Throughout property) :
    ∀ child ∈ node.inside, child.Throughout property := by
  cases throughout with
  | intro _ inside => exact inside

theorem of_forall (always : ∀ node, property node) (node : Node) :
    node.Throughout property := by
  induction node using Node.inside_induct with
  | step node induction => exact .intro (always node) induction

end Node.Throughout

/-- A node is another one, or stands somewhere below it. -/
inductive Node.Below (node : Node) : Node → Prop where
  | here : Node.Below node node
  | inside {child parent : Node} : child ∈ parent.inside → Node.Below node child →
      Node.Below node parent

/-- A node stands somewhere in a template. -/
def Tree.Contains (tree : Tree) (node : Node) : Prop :=
  ∃ top ∈ tree.children, node.Below top

theorem Node.Below.trans {node middle whole : Node} (near : node.Below middle)
    (far : middle.Below whole) : node.Below whole := by
  induction far with
  | here => exact near
  | inside member _ induction => exact .inside member induction

theorem Tree.Contains.inside {tree : Tree} {node child : Node}
    (contained : tree.Contains node) (member : child ∈ node.inside) :
    tree.Contains child := by
  obtain ⟨top, inTree, below⟩ := contained
  exact ⟨top, inTree, Node.Below.trans (.inside member .here) below⟩

theorem Node.Throughout.of_below {property : Node → Prop} {node whole : Node}
    (throughout : whole.Throughout property) (below : node.Below whole) :
    property node := by
  induction below with
  | here => exact throughout.here
  | inside member _ induction => exact induction (throughout.inside _ member)

theorem Node.throughout_of_below {property : Node → Prop} {node : Node}
    (always : ∀ other, other.Below node → property other) :
    node.Throughout property := by
  induction node using Node.inside_induct with
  | step node induction =>
      refine .intro (always node .here) fun child member => induction child member ?_
      exact fun other below => always other (.inside member below)

end VuePrecompiler.Template
