import VuePrecompiler.Proofs.ChangedCode
import VuePrecompiler.Proofs.TreeShape

/-!
# Render code without comments

`Tree.uncommented` takes every comment out of a template.  No comment leaves a
trace in the render code, and none is seen by a fault: this is a change that
keeps the code.  It needs the shape of what is read: a loop or a branch takes
its first child, which is never a comment.
-/

namespace VuePrecompiler.Template

open Source

open Render (isComment)

mutual

/-- A node without the comments below it. -/
def Node.uncommented : Node → Node
  | .element tag children slots span =>
    .element tag (uncommentedEach children) (uncommentedSlots slots) span
  | .text content span => .text content span
  | .interpolation expression span => .interpolation expression span
  | .comment content span => .comment content span
  | .conditional branches span => .conditional (uncommentedBranches branches) span
  | .loop head children span => .loop head (uncommentedEach children) span
  | .outlet outlet fallback span => .outlet outlet (uncommentedEach fallback) span
  | .slotTemplate directives children span =>
    .slotTemplate directives (uncommentedEach children) span

/-- Nodes without the comments among them and below them. -/
def uncommentedEach : List Node → List Node
  | [] => []
  | node :: rest =>
    if isComment node then uncommentedEach rest
    else node.uncommented :: uncommentedEach rest

def uncommentedBranches : List Branch → List Branch
  | [] => []
  | .mk kind condition children span :: rest =>
    .mk kind condition (uncommentedEach children) span :: uncommentedBranches rest

def uncommentedSlots : List Slot → List Slot
  | [] => []
  | .mk head children :: rest =>
    .mk head (uncommentedEach children) :: uncommentedSlots rest

end

/-- A template without its comments. -/
def Tree.uncommented (tree : Tree) : Tree :=
  { tree with children := uncommentedEach tree.children }

/-! ## Taking comments out as a change -/

/-- Comments leave, and nothing else is changed. -/
def uncommenting : Change where
  stays node := !isComment node
  node := Node.uncommented
  code := id
  tag := id
  head := id
  outlet := id
  directive := id
  slotHead := id
  place := id

theorem uncommenting_each (nodes : List Node) :
    uncommenting.each nodes = uncommentedEach nodes := by
  induction nodes with
  | nil => rfl
  | cons node rest induction =>
      rw [uncommentedEach, ← induction]
      cases comment : isComment node with
      | true => exact Change.each_cons_of_leaves (congrArg Bool.not comment)
      | false => exact Change.each_cons_of_stays (congrArg Bool.not comment)

theorem uncommenting_branches (branches : List Branch) :
    branches.map uncommenting.branch = uncommentedBranches branches := by
  induction branches with
  | nil => rfl
  | cons branch rest induction =>
      rcases branch with ⟨kind, condition, children, span⟩
      rw [List.map_cons, Change.branch, Branch.children, uncommenting_each, induction,
        uncommentedBranches, Branch.condition, uncommenting, Option.map_id]
      rfl

theorem uncommenting_slots (slots : List Slot) :
    slots.map uncommenting.slot = uncommentedSlots slots := by
  induction slots with
  | nil => rfl
  | cons slot rest induction =>
      rcases slot with ⟨head, children⟩
      rw [List.map_cons, Change.slot, Slot.children, uncommenting_each, induction]
      rfl

theorem uncommenting_tree (tree : Tree) : uncommenting.tree tree = tree.uncommented :=
  congrArg (Tree.mk · tree.span) (uncommenting_each tree.children)

theorem uncommenting_result {Given : Type} (given : Except CompileError Given) :
    uncommenting.result id given = given := by
  cases given with
  | ok => rfl
  | error fault => cases fault <;> rfl

theorem uncommenting_keepsArrangement : uncommenting.KeepsArrangement where
  element tag children slots span := by
    rw [uncommenting_each, uncommenting_slots]
    rfl
  text _ _ := rfl
  interpolation _ _ := rfl
  comment _ _ := rfl
  conditional branches span := by
    rw [uncommenting_branches]
    rfl
  loop head children span := by
    rw [uncommenting_each]
    rfl
  outlet outlet fallback span := by
    rw [uncommenting_each]
    rfl
  slotTemplate directives children span := by
    rw [uncommenting_each, uncommenting, List.map_id]
    rfl
  comments _ leaves := by simpa [uncommenting] using leaves
  merged _ _ := rfl
  takesSlots _ := rfl
  takenSlot tag := by
    rw [uncommenting, Option.map_id]
    rfl
  directiveName _ := rfl
  directiveSpan _ := rfl
  slotHeadOf _ _ := rfl
  slotName _ := rfl
  slotSpan _ := rfl

end VuePrecompiler.Template

namespace VuePrecompiler.Render

open Template Source

theorem uncommenting_keepsCode : uncommenting.KeepsCode where
  toKeepsArrangement := uncommenting_keepsArrangement
  trimmed _ := rfl
  tagName _ := rfl
  hasDirective _ _ := rfl
  dataObject _ _ _ := rfl
  elementCode _ _ _ := rfl
  outletCode _ _ := rfl
  loopCode _ _ := rfl
  slotCode _ _ := rfl

theorem isComment_of_isElement {node : Node} (isElement : node.IsElement) :
    isComment node = false := by
  cases isElement with
  | mk => rfl

theorem isComment_of_isConditional {node : Node} (isConditional : node.IsConditional) :
    isComment node = false := by
  cases isConditional with
  | mk => rfl

/-- No loop and no branch begins with a comment. -/
theorem showsFirst_of_isShaped {node : Node} (shaped : node.IsShaped) :
    uncommenting.ShowsFirst node := by
  cases node with
  | loop head children span =>
      obtain ⟨body, rfl, content⟩ := shaped
      have visible : isComment body = false :=
        content.elim isComment_of_isElement isComment_of_isConditional
      rintro first ⟨⟩
      exact congrArg Bool.not visible
  | conditional branches span =>
      intro branch given first isFirst
      obtain ⟨element, only, isElement⟩ := shaped.1 branch given
      rw [only] at isFirst
      obtain rfl : element = first := Option.some.inj isFirst
      exact congrArg Bool.not (isComment_of_isElement isElement)
  | _ => trivial

/-- Comments change nothing: a template without them has the same render code, or
else the same fault at the same place. -/
theorem comments_change_nothing {source : String} {tree : Tree}
    (read : Tree.ofText source = .ok tree) :
    (tree.uncommented.arrange >>= generate) = tree.arrange >>= generate := by
  rw [← uncommenting_tree, compiled_changed uncommenting_keepsCode,
    uncommenting_result]
  intro arranged arranges top inTree
  obtain ⟨_, rfl⟩ := arrange_eq_ok arranges
  apply Node.throughout_of_below
  intro node below
  exact showsFirst_of_isShaped (Tree.arranged_isShaped read ⟨top, inTree, below⟩)

/-- Comments around the root, in front of a chain, inside of it and
between two texts. -/
theorem list_with_comments :
    let source :=
      "<!--a--><ul><!--b--><li v-if=\"x\">1<!--c-->2</li><!--d--><li v-else></li></ul>"
    let code :=
      "with(this)\x7breturn _c('ul',[(x)?_c('li',[_v(\"12\")]):_c('li')])\x7d"
    ∃ tree, Tree.ofText source = .ok tree ∧ (tree.arrange >>= generate) = .ok code ∧
      (tree.uncommented.arrange >>= generate) = .ok code := by
  intro source code
  have compiled : compile source = .ok code := by decide +kernel
  obtain ⟨tree, read, generated⟩ := of_bind_eq_ok compiled
  have same := comments_change_nothing read
  exact ⟨tree, read, generated, same.trans generated⟩

end VuePrecompiler.Render
