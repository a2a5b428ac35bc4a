import VuePrecompiler.Proofs.Listings
import VuePrecompiler.Proofs.TreeShape
import VuePrecompiler.Render.Code

/-!
# What becomes of start tags

Every start tag of a template becomes one node: `<slot>` an outlet,
`<template v-slot>` slot content, and every other tag an element.  A loop or a
condition is decided before this, so a tag that carries one becomes an
element, whatever its name.  Arranging moves the slot content of components,
and keeps all elements and outlets.
-/

namespace VuePrecompiler.Template

open Source

/-- What a start tag can become. -/
inductive Form where
  | element (tag : StartTag)
  | outlet (attributes : List Attribute) (props : List Binding)
  | slotContent (directives : List Directive)
deriving DecidableEq, Repr

/-- A form, and the position in the source where its tag starts. -/
structure PlacedForm where
  form : Form
  start : Nat
deriving DecidableEq, Repr

def Node.form? : Node → Option PlacedForm
  | .element tag _ _ span => some ⟨.element tag, span.start⟩
  | .outlet said _ span => some ⟨.outlet said.attributes said.props, span.start⟩
  | .slotTemplate directives _ span => some ⟨.slotContent directives, span.start⟩
  | _ => none

/-- The form of a start tag.  Only tags without a loop and a condition become
outlets and slot content. -/
def StartTag.form (tag : StartTag) : Form :=
  if tag.isShaped then .element tag.stripped
  else if tag.name == "slot" then
    .outlet (tag.attributes.filter (·.name != "name"))
      (tag.props.filter (·.name.text != "name"))
  else if tag.name == "template" && tag.hasDirective "slot" then
    .slotContent tag.directives
  else .element tag

def OpenedTag.form (opened : OpenedTag) : PlacedForm :=
  ⟨opened.tag.form, opened.start⟩

/-- All forms in a template, in the order of the source. -/
def Tree.forms (tree : Tree) : List PlacedForm :=
  tree.listed (.ofOwn fun node => node.form?.toList) ()

/-! ## Forms of what is read -/

theorem form?_core (tag : StartTag) (children : List Node) (start stop : Nat) :
    (tag.core children ⟨start, stop⟩).form? = some (OpenedTag.form ⟨tag, start⟩) := by
  unfold StartTag.core OpenedTag.form StartTag.form
  split
  · rfl
  · split
    · rfl
    · split <;> rfl

theorem forms_listsTags :
    ListsTags (fun node => node.form?.toList) fun opened => [opened.form] := by
  constructor
  · intro node isLeaf
    cases isLeaf <;> rfl
  · intro tag children start stop node made
    rw [listed_ofTag (fun _ _ _ => rfl) made, form?_core]
    cases tag.branch? <;> rfl

/-! ## Forms of what is arranged -/

/-- A form as it stands in an arranged template. -/
def PlacedForm.arranged (placed : PlacedForm) : PlacedForm :=
  match placed.form with
  | .element tag => ⟨.element tag.arranged, placed.start⟩
  | _ => placed

/-- A form that arranging leaves in its place. -/
def PlacedForm.settled? (placed : PlacedForm) : Option PlacedForm :=
  match placed.form with
  | .slotContent _ => none
  | _ => some placed

def Node.settled (node : Node) : List PlacedForm :=
  node.form?.toList.filterMap PlacedForm.settled?

/-- All elements and outlets in a template. -/
def Tree.settled (tree : Tree) : List PlacedForm :=
  tree.listed (.ofOwn Node.settled) ()

theorem settled_arranges :
    (Listing.ofOwn Node.settled).Arranges (fun _ => True) PlacedForm.arranged where
  insignificant := by
    intro _ node insignificant
    cases node with
    | text => rfl
    | comment => rfl
    | _ => contradiction
  joined _ _ _ _ _ _ := rfl
  below_conditional _ _ _ := rfl
  own_slotTemplate _ _ _ _ := rfl
  below_slotTemplate _ _ _ _ := rfl
  own_arranged := by
    intro _ node _
    cases node with
    | element tag children slots span =>
        obtain ⟨inner, filled, same⟩ := exists_arranged_element tag children slots span
        rw [same]
        rfl
    | _ => rfl
  below_arranged _ _ := rfl

theorem Tree.settled_eq (tree : Tree) :
    tree.settled = tree.forms.filterMap PlacedForm.settled? := by
  rw [Tree.settled, Tree.forms, Tree.listed, Tree.listed, List.filterMap_flatMap]
  exact List.flatMap_congr fun node _ => listed_filterMap _ PlacedForm.settled? node

/-- A component keeps no slot content among its children. -/
def Node.GivesSlots : Node → Prop
  | .element tag children _ _ =>
    tag.takesSlots = true → ∀ child ∈ children, child.slot? = none
  | _ => True

theorem givesSlots_arranged (node : Node) : node.arranged.GivesSlots := by
  cases node with
  | element tag children slots span =>
      rw [Node.arranged]
      dsimp only
      split
      · intro _
        refine forall_joinChains (fun _ _ _ _ _ _ _ => rfl) ?_
        intro child member
        unfold collectSlots at member
        rcases taken : tag.takeDirective? "slot" with ⟨_ | own, rest⟩
        · simp only [taken, List.mem_filter, Option.isNone_iff_eq_none] at member
          exact member.2
        · simp only [taken, List.not_mem_nil] at member
      · next leaves =>
        intro takes
        exact absurd takes leaves
  | _ => trivial

theorem Tree.givesSlots (tree : Tree) {node : Node}
    (contained : tree.arranged.Contains node) : node.GivesSlots := by
  obtain ⟨top, inTree, below⟩ := contained
  have always : ∀ node ∈ tree.children, node.Throughout fun _ => True :=
    fun node _ => Node.Throughout.of_forall (fun _ => trivial) node
  have throughout := Tree.throughout_arranged (fun _ _ _ _ _ _ _ => trivial)
    (fun node _ => givesSlots_arranged node) always
  exact (throughout top inTree).of_below below

/-! ## Slot tags that stay elements -/

/-- Whether a tag is about slots. -/
def StartTag.isSlotTag (tag : StartTag) : Bool :=
  tag.name == "slot" || (tag.name == "template" && tag.hasDirective "slot")

theorem isShaped_of_form {tag made : StartTag} (form : tag.form = .element made)
    (about : made.isSlotTag = true) : tag.isShaped = true := by
  by_contra plain
  rw [StartTag.form, if_neg plain] at form
  split at form
  · cases form
  · next notSlot =>
    split at form
    · cases form
    · next notContent =>
      cases form
      rw [StartTag.isSlotTag, Bool.or_eq_true] at about
      exact about.elim notSlot notContent

theorem isSlotTag_of_arranged {tag : StartTag}
    (about : tag.arranged.isSlotTag = true) : tag.isSlotTag = true := by
  unfold StartTag.arranged at about
  split at about
  · simp only [StartTag.isSlotTag, StartTag.takeDirective?, StartTag.hasDirective,
      Bool.or_eq_true, Bool.and_eq_true, List.any_eq_true] at about ⊢
    refine about.imp_right ?_
    rintro ⟨named, directive, member, isSlot⟩
    exact ⟨named, directive, List.mem_of_mem_eraseP member, isSlot⟩
  · exact about

theorem settled_perm {source : String} {tree : Tree}
    (forms : tree.forms = (startTags source).map OpenedTag.form) :
    tree.arranged.settled.Perm
      (((startTags source).filterMap fun opened => opened.form.settled?).map
        PlacedForm.arranged) := by
  have listed : tree.listed (.ofOwn Node.settled) () =
      (startTags source).filterMap fun opened => opened.form.settled? := by
    change tree.settled = _
    rw [Tree.settled_eq, forms, List.filterMap_map]
    rfl
  have moved := settled_arranges.tree_perm_of_all tree ()
  rw [listed] at moved
  exact moved

theorem exists_isShaped_of_arranged {opened : OpenedTag} {placed : PlacedForm}
    {tag : StartTag} {start : Nat} (settled : opened.form.settled? = some placed)
    (same : placed.arranged = ⟨.element tag, start⟩) (about : tag.isSlotTag = true) :
    opened.start = start ∧ opened.tag.isShaped = true := by
  unfold PlacedForm.settled? at settled
  split at settled
  · cases settled
  · cases settled
    unfold PlacedForm.arranged at same
    split at same
    · next made form =>
      cases same
      exact ⟨rfl, isShaped_of_form form (isSlotTag_of_arranged about)⟩
    · next notElement =>
      exact absurd (congrArg PlacedForm.form same) (notElement tag)

/-- Every start tag becomes one node of its form, in the order of the source.
Arranging only reorders the elements and outlets, and moves all slot content out
of the children of components.  So a tag about slots is left as an element only
where it carries a loop or a condition. -/
theorem ofText_forms {source : String} {tree : Tree}
    (read : Tree.ofText source = .ok tree) :
    tree.forms = (startTags source).map OpenedTag.form ∧
      tree.arranged.settled.Perm
        (((startTags source).filterMap fun opened => opened.form.settled?).map
          PlacedForm.arranged) ∧
      ∀ tag children slots span,
        tree.arranged.Contains (.element tag children slots span) →
        (tag.takesSlots = true → ∀ child ∈ children, child.slot? = none) ∧
        (tag.isSlotTag = true →
          ∃ opened ∈ startTags source, opened.start = span.start ∧
            opened.tag.isShaped = true) := by
  have forms : tree.forms = (startTags source).map OpenedTag.form := by
    rw [List.map_eq_flatMap]
    exact forms_listsTags.ofText read
  refine ⟨forms, settled_perm forms, ?_⟩
  intro tag children slots span contained
  refine ⟨tree.givesSlots contained, fun about => ?_⟩
  have inTree : ⟨.element tag, span.start⟩ ∈ tree.arranged.settled :=
    mem_listed_of_contains contained (List.mem_singleton_self _)
  obtain ⟨placed, inSource, same⟩ :=
    List.mem_map.mp ((settled_perm forms).mem_iff.mp inTree)
  obtain ⟨opened, inTags, settled⟩ := List.mem_filterMap.mp inSource
  exact ⟨opened, inTags, exists_isShaped_of_arranged settled same about⟩

/-- An outlet in the slot content of a component. -/
theorem slotContent_forms :
    let source := "<my-list><template #row><slot></slot></template></my-list>"
    let row : Directive := ⟨"slot", some (.fixed "row"), [], none, ⟨19, 23⟩⟩
    let list : PlacedForm := ⟨.element (.ofSource "my-list" []), 0⟩
    let outlet : PlacedForm := ⟨.outlet [] [], 24⟩
    ∃ tree, Tree.ofText source = .ok tree ∧
      tree.forms = [list, ⟨.slotContent [row], 9⟩, outlet] ∧
      tree.arranged.settled.Perm [list, outlet] := by
  intro source row list outlet
  have accepted : (Tree.ofText source).isOk = true := by decide +kernel
  have forms : (startTags source).map OpenedTag.form =
      [list, ⟨.slotContent [row], 9⟩, outlet] := by
    decide +kernel
  have settled : (((startTags source).filterMap fun opened => opened.form.settled?).map
      PlacedForm.arranged) = [list, outlet] := by
    decide +kernel
  obtain ⟨tree, read⟩ := exists_of_isOk accepted
  obtain ⟨same, moved, _⟩ := ofText_forms read
  exact ⟨tree, read, same.trans forms, settled ▸ moved⟩

/-- A `<slot>` with a condition stays an element, and is rendered as one. -/
theorem slot_in_condition :
    let slot : Node := .element (.ofSource "slot" []) [] [] ⟨5, 27⟩
    let branch : Branch := .mk .first (some ⟨"a", ⟨17, 18⟩⟩) [slot] ⟨5, 27⟩
    let root : Node :=
      .element (.ofSource "div" []) [.conditional [branch] ⟨5, 27⟩] [] ⟨0, 33⟩
    Tree.ofText "<div><slot v-if=\"a\"></slot></div>" = .ok ⟨[root], ⟨0, 33⟩⟩ ∧
      Render.compile "<div><slot v-if=\"a\"></slot></div>" =
        .ok "with(this)\x7breturn _c('div',[(a)?_c('slot'):_e()])\x7d" := by
  intro slot branch root
  constructor
  · with_unfolding_all rfl
  · decide +kernel

end VuePrecompiler.Template
