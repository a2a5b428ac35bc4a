import VuePrecompiler.Proofs.ChainGrammar
import VuePrecompiler.Proofs.FaultSpans

/-!
# Arranged siblings

What arranging makes of a template that was read and has no fault.  Arranging
a node keeps what its siblings look at, so the siblings are joined by the
grammar of chains afterwards; and a component has its slot content either from
templates among its children or from `v-slot` of its own.
-/

namespace VuePrecompiler.Template

open Source

/-! ## Nodes that can be arranged -/

/-- A node as it is read: a branch stands alone, no slot is filled yet, and slot
content names its slot. -/
def Node.IsWritten : Node → Prop
  | .element _ _ slots _ => slots = []
  | .conditional branches span => ∃ branch : Branch, branches = [branch] ∧
      branch.span = span
  | .slotTemplate directives _ _ => (directives.find? (·.name == "slot")).isSome = true
  | _ => True

/-- A node that was read, of a template without faults. -/
structure Node.IsReady (node : Node) : Prop where
  written : node.IsWritten
  ordered : AreInOrder node.inside
  placed : node.misplaced? = none
  paired : ∀ siblings ∈ node.siblingLists, chainFault? siblings = none

/-- Siblings that were read, of a template without faults. -/
structure AreReady (siblings : List Node) : Prop where
  each : ∀ node ∈ siblings, node.Throughout Node.IsReady
  ordered : AreInOrder siblings
  paired : chainFault? siblings = none

theorem core_isWritten (tag : StartTag) (children : List Node) (span : Span) :
    (tag.core children span).IsWritten := by
  refine tag.core_cases children span rfl trivial fun given => ?_
  rw [StartTag.hasDirective, ← List.isSome_find?] at given
  exact given

theorem Nested.isWritten {lexemes : List Lexeme} {nodes : List Node}
    (nested : Nested lexemes nodes) :
    ∀ node ∈ nodes, node.Throughout Node.IsWritten := by
  induction nested with
  | nil => simp
  | passed _ _ induction => exact induction
  | @leaf lexeme rest node nodes isLeaf _ induction =>
      have alone : node.Throughout Node.IsWritten := by
        cases Lexeme.isLeaf_of_leaf? isLeaf with
        | _ => exact .intro trivial (by simp [Node.inside])
      exact List.forall_mem_cons.mpr ⟨alone, induction⟩
  | @tag name attributes _ span stop _ _ children node _ _ made _ inner rest =>
      have throughout := throughout_ofTag made (core_isWritten _ children _)
        (fun _ _ _ => ⟨_, rfl, rfl⟩) (fun _ _ _ _ => trivial) inner
      exact List.forall_mem_cons.mpr ⟨throughout, rest⟩

theorem chainFault?_eq_none {siblings : List Node}
    (noStray : ∀ stray, ¬ IsStray siblings stray) : chainFault? siblings = none := by
  have reports := chainFaultBehind?_reports none siblings
  rw [← chainFault?] at reports
  cases found : chainFault? siblings with
  | none => rfl
  | some fault =>
      rw [found] at reports
      obtain ⟨stray, isStray, _⟩ := reports
      exact absurd isStray (noStray stray)

/-- A template that was read and has no fault can be arranged everywhere. -/
theorem Tree.areReady {source : String} {tree : Tree}
    (read : Tree.ofText source = .ok tree)
    (noFault : tree.fault? = none) : AreReady tree.children := by
  have reports := tree.fault?_reports
  rw [noFault] at reports
  have noStray : ∀ stray, ¬ tree.HasStray stray :=
    fun stray isStray => reports _ (.inl ⟨stray, isStray, rfl⟩)
  refine ⟨fun top inTree => ?_, (Tree.isPlaced read).ordered, ?_⟩
  · apply Node.throughout_of_below
    intro node below
    have contained : tree.Contains node := ⟨top, inTree, below⟩
    constructor
    · exact ((ofText_nested read).isWritten top inTree).of_below below
    · exact ((Tree.isPlaced read).nodes node contained).ordered
    · rw [Option.eq_none_iff_forall_ne_some]
      intro fault misplaced
      exact reports fault (.inr ⟨node, contained, misplaced⟩)
    · intro siblings given
      apply chainFault?_eq_none
      intro stray isStray
      exact noStray stray (.inr ⟨node, contained, siblings, given, isStray⟩)
  · apply chainFault?_eq_none
    intro stray isStray
    exact noStray stray (.inl isStray)

/-- The siblings below a node can be arranged if everything in the node can. -/
theorem Node.Throughout.areReady {node : Node} (ready : node.Throughout Node.IsReady)
    {siblings : List Node} (given : siblings ∈ node.siblingLists)
    (part : siblings.Sublist node.inside) : AreReady siblings where
  each child member := ready.inside child (part.subset member)
  ordered := ready.here.ordered.sublist part
  paired := ready.here.paired siblings given

theorem Node.inside_of_slot? {node : Node} {slot : Slot}
    (gives : node.slot? = some slot) :
    node.inside = slot.children ∧ node.siblingLists = [slot.children] := by
  cases node with
  | slotTemplate directives children span =>
      obtain ⟨directive, _, rfl⟩ := Option.map_eq_some_iff.mp gives
      exact ⟨rfl, rfl⟩
  | _ => contradiction

theorem Node.Throughout.areReady_slot {node : Node}
    (ready : node.Throughout Node.IsReady)
    {slot : Slot} (gives : node.slot? = some slot) : AreReady slot.children := by
  obtain ⟨inside, lists⟩ := Node.inside_of_slot? gives
  refine ready.areReady ?_ ?_
  · rw [lists]
    exact List.mem_singleton_self _
  · rw [inside]

/-! ## What siblings see of arranged nodes -/

namespace Node

theorem isInsignificant_arranged (node : Node) :
    node.arranged.isInsignificant = node.isInsignificant := by
  cases node with
  | element tag children slots span =>
      obtain ⟨inner, filled, same⟩ := exists_arranged_element tag children slots span
      rw [same]
      rfl
  | _ => rw [arranged] <;> rfl

theorem isOpenChain_arranged (node : Node) :
    node.arranged.isOpenChain = node.isOpenChain := by
  cases node with
  | element tag children slots span =>
      obtain ⟨inner, filled, same⟩ := exists_arranged_element tag children slots span
      rw [same]
      rfl
  | conditional branches span =>
      rw [arranged, arrangedBranches_eq_map, isOpenChain, isOpenChain,
        List.getLast?_map, Option.any_map]
      rfl
  | _ => rw [arranged] <;> rfl

theorem isSome_continuation?_arranged (node : Node) :
    node.arranged.continuation?.isSome = node.continuation?.isSome := by
  cases node with
  | element tag children slots span =>
      obtain ⟨inner, filled, same⟩ := exists_arranged_element tag children slots span
      rw [same]
      rfl
  | conditional branches span =>
      rw [arranged, arrangedBranches_eq_map]
      cases branches with
      | nil => rfl
      | cons first rest =>
          have kind : first.arranged.kind = first.kind := rfl
          simp only [List.map_cons, continuation?, kind]
          split
          · rfl
          · rfl
  | _ => rw [arranged] <;> rfl

theorem slot?_arranged (node : Node) :
    node.arranged.slot? = node.slot?.map Slot.arranged := by
  cases node with
  | element tag children slots span =>
      obtain ⟨inner, filled, same⟩ := exists_arranged_element tag children slots span
      rw [same]
      rfl
  | slotTemplate directives children span =>
      rw [arranged, slot?, slot?, Option.map_map, arrangedEach_eq_map]
      rfl
  | _ =>
      rw [arranged]
      rfl

/-- A branch with the span of its node. -/
def HasBranchSpan : Node → Prop
  | .conditional branches span => ∀ branch ∈ branches, branch.span = span
  | _ => True

theorem IsWritten.arranged {node : Node} (written : node.IsWritten) :
    node.arranged.IsSingle ∧ node.arranged.HasBranchSpan := by
  cases node with
  | element tag children slots span =>
      obtain ⟨inner, filled, same⟩ := exists_arranged_element tag children slots span
      rw [same]
      exact ⟨trivial, trivial⟩
  | conditional branches span =>
      obtain ⟨branch, rfl, same⟩ := written
      rw [Node.arranged, arrangedBranches_eq_map]
      refine ⟨⟨branch.arranged, rfl⟩, ?_⟩
      intro only member
      obtain rfl := List.mem_singleton.mp member
      exact same
  | _ => exact ⟨trivial, trivial⟩

end Node

theorem chainFaultBehind?_arranged (previous : Option Node) (siblings : List Node) :
    chainFaultBehind? (previous.map Node.arranged) (siblings.map Node.arranged) =
      chainFaultBehind? previous siblings := by
  induction siblings generalizing previous with
  | nil => rfl
  | cons node rest induction =>
      have opens : (previous.map Node.arranged).any Node.isOpenChain =
          previous.any Node.isOpenChain := by
        cases previous with
        | none => rfl
        | some before => exact before.isOpenChain_arranged
      have later := induction (some node)
      rw [Option.map_some] at later
      rw [List.map_cons, chainFaultBehind?, chainFaultBehind?,
        node.isInsignificant_arranged, node.isSome_continuation?_arranged,
        node.span_arranged, opens, induction, later]

/-! ## Joined siblings -/

/-- The kinds of the branches in a chain: `v-if`, any number of `v-else-if`, and
at most one `v-else`. -/
def IsChain (branches : List Branch) : Prop :=
  ∃ count, branches.map Branch.kind = .first :: List.replicate count .elseIf ∨
    branches.map Branch.kind = .first :: (List.replicate count .elseIf ++ [.last])

theorem ChainRest.kinds {front whole : Span} {written : List Node}
    {branches : List Branch} (continued : ChainRest front written branches whole) :
    ∃ count, branches.map Branch.kind = List.replicate count .elseIf ∨
      branches.map Branch.kind = List.replicate count .elseIf ++ [.last] := by
  induction continued with
  | nil => exact ⟨0, .inl rfl⟩
  | elseIf _ kind _ induction =>
      obtain ⟨count, kinds | kinds⟩ := induction
      · exact ⟨count + 1, .inl (by rw [List.map_cons, kind, kinds]; rfl)⟩
      · exact ⟨count + 1, .inr (by rw [List.map_cons, kind, kinds]; rfl)⟩
  | last _ kind => exact ⟨0, .inr (by rw [List.map_singleton, kind]; rfl)⟩

/-- The branches that continue a chain are written behind it. -/
theorem ChainRest.branches_written {front whole : Span} {written : List Node}
    {branches : List Branch} (continued : ChainRest front written branches whole) :
    ∀ branch ∈ branches, ∃ span, .conditional [branch] span ∈ written := by
  induction continued with
  | nil => simp
  | @elseIf front span whole gap rest branch branches _ _ _ induction =>
      intro other member
      rcases List.mem_cons.mp member with rfl | member
      · exact ⟨span, by simp⟩
      · obtain ⟨otherSpan, inRest⟩ := induction other member
        exact ⟨otherSpan, by simp [inRest]⟩
  | @last front span gap branch _ _ =>
      intro other member
      obtain rfl := List.mem_singleton.mp member
      exact ⟨span, by simp⟩

/-- Joined siblings are siblings that were no branches, and chains of the branches. -/
theorem Joins.forall_mem {siblings joined : List Node} (joins : Joins siblings joined)
    {property : Node → Prop}
    (kept : ∀ node ∈ siblings, (∀ branches span, node ≠ .conditional branches span) →
      property node)
    (chain : ∀ branches whole, IsChain branches →
      (∀ branch ∈ branches, ∃ span, .conditional [branch] span ∈ siblings) →
        property (.conditional branches whole)) :
    ∀ node ∈ joined, property node := by
  induction joins with
  | nil => simp
  | @kept node rest joined plain _ induction =>
      refine List.forall_mem_cons.mpr ⟨kept node List.mem_cons_self plain,
        induction ?_ ?_⟩
      · exact fun other member => kept other (List.mem_cons_of_mem node member)
      · intro branches whole isChain written
        refine chain branches whole isChain fun branch member => ?_
        obtain ⟨span, inRest⟩ := written branch member
        exact ⟨span, List.mem_cons_of_mem node inRest⟩
  | @chain branch branches span whole written rest joined first continued
      _ induction =>
      have isChain : IsChain (branch :: branches) := by
        obtain ⟨count, kinds | kinds⟩ := continued.kinds
        · exact ⟨count, .inl (by rw [List.map_cons, first, kinds])⟩
        · exact ⟨count, .inr (by rw [List.map_cons, first, kinds])⟩
      have inRest : ∀ {other : Node}, other ∈ rest →
          other ∈ Node.conditional [branch] span :: (written ++ rest) :=
        fun member => List.mem_cons_of_mem _ (List.mem_append_right written member)
      refine List.forall_mem_cons.mpr ⟨chain _ _ isChain ?_, induction ?_ ?_⟩
      · intro other member
        rcases List.mem_cons.mp member with rfl | member
        · exact ⟨span, List.mem_cons_self⟩
        · obtain ⟨otherSpan, inWritten⟩ := continued.branches_written other member
          exact ⟨otherSpan,
            List.mem_cons_of_mem _ (List.mem_append_left rest inWritten)⟩
      · exact fun other member => kept other (inRest member)
      · intro branches whole isChain written
        refine chain branches whole isChain fun branch member => ?_
        obtain ⟨otherSpan, later⟩ := written branch member
        exact ⟨otherSpan, inRest later⟩

theorem joinBehind_of_apart (done gap : List Node) {siblings : List Node}
    (apart : ∀ node ∈ siblings, node.continuation? = none) :
    joinBehind done gap siblings = (gap ++ done).reverse ++ siblings := by
  induction siblings generalizing done gap with
  | nil => rw [joinBehind, List.append_nil]
  | cons node rest induction =>
      obtain ⟨here, later⟩ := List.forall_mem_cons.mp apart
      cases significant : node.isInsignificant with
      | true =>
          rw [joinBehind_insignificant done gap rest significant, induction _ _ later]
          simp
      | false =>
          rw [joinBehind_kept done gap rest significant here, induction _ _ later]
          simp

/-- Joining again changes nothing. -/
theorem Joins.joinChains_joined {siblings joined : List Node}
    (joins : Joins siblings joined) : joinChains joined = joined := by
  refine joinBehind_of_apart [] [] (joins.forall_mem ?_ ?_)
  · exact fun node _ plain => continuation?_of_not_conditional plain
  · rintro branches whole ⟨count, kinds | kinds⟩ _
    all_goals
      obtain ⟨first, rest, rfl, kind, _⟩ := List.map_eq_cons_iff.mp kinds
      simp [Node.continuation?, kind]

section

variable {siblings : List Node} (ready : AreReady siblings)
include ready

/-- Arranged siblings are joined by the grammar of chains. -/
theorem AreReady.joins :
    Joins (siblings.map Node.arranged) (joinChains (siblings.map Node.arranged)) := by
  have single : ∀ node ∈ siblings.map Node.arranged, node.IsSingle := by
    intro node member
    obtain ⟨given, inSiblings, rfl⟩ := List.mem_map.mp member
    exact (ready.each given inSiblings).here.written.arranged.1
  refine (joins_iff single).mpr ⟨?_, rfl⟩
  exact (chainFaultBehind?_arranged none siblings).trans ready.paired

theorem AreReady.joinChains_arranged :
    joinChains (joinChains (siblings.map Node.arranged)) =
      joinChains (siblings.map Node.arranged) :=
  ready.joins.joinChains_joined

end

/-! ## Arranged elements -/

theorem slots_arranged (children : List Node) :
    (children.map Node.arranged).filterMap Node.slot? =
      (children.filterMap Node.slot?).map Slot.arranged := by
  rw [List.filterMap_map, List.map_filterMap]
  exact List.filterMap_congr fun child _ => child.slot?_arranged

theorem others_arranged (children : List Node) :
    ((children.map Node.arranged).filter fun child => child.slot?.isNone) =
      (children.filter fun child => child.slot?.isNone).map Node.arranged := by
  rw [List.filter_map]
  simp only [Function.comp_def, Node.slot?_arranged, Option.isNone_map]

section

variable {tag : StartTag} {own : Directive} {children : List Node} {span : Span}

section

variable (ready : (Node.element tag children [] span).Throughout Node.IsReady)
include ready

theorem areReady_plain (leaves : tag.takesSlots = false) : AreReady children := by
  refine ready.areReady ?_ (List.sublist_append_left _ _)
  rw [Node.siblingLists, leaves, if_neg Bool.false_ne_true]
  exact List.mem_cons_self

variable (takes : tag.takesSlots = true)
include takes

/-- The children of a component that are no slot content. -/
theorem areReady_others :
    AreReady (children.filter fun child => child.slot?.isNone) := by
  refine ready.areReady ?_ (List.filter_sublist.trans (List.sublist_append_left _ _))
  rw [Node.siblingLists, if_pos takes]
  exact List.mem_cons_self

/-- A component with `v-slot` has no templates for slots. -/
theorem no_templates_of_own (given : tag.directive? "slot" = some own) :
    children.filterMap Node.slot? = [] := by
  have placed := ready.here.placed
  have isOwn : (tag.takeDirective? "slot").1 = some own := given
  rw [Node.misplaced?, if_pos takes, slotFault?, isOwn,
    Option.or_eq_none_iff] at placed
  obtain ⟨_, notMixed⟩ := placed
  dsimp only at notMixed
  by_contra some_template
  rw [← List.isEmpty_iff] at some_template
  rw [if_neg some_template] at notMixed
  exact Option.some_ne_none _ notMixed

theorem others_of_own (given : tag.directive? "slot" = some own) :
    (children.filter fun child => child.slot?.isNone) = children := by
  rw [List.filter_eq_self]
  intro child member
  rw [List.filterMap_eq_nil_iff.mp (no_templates_of_own ready takes given) child
    member]
  rfl

end

theorem arranged_plain (leaves : tag.takesSlots = false) :
    (Node.element tag children [] span).arranged =
      .element tag (joinChains (children.map Node.arranged)) [] span := by
  rw [Node.arranged, arrangedEach_eq_map]
  simp only [leaves, Bool.false_eq_true, ↓reduceIte]
  rfl

/-- A component with `v-slot` gives everything in it to the slot. -/
theorem arranged_own
    (ready : (Node.element tag children [] span).Throughout Node.IsReady)
    (takes : tag.takesSlots = true) (given : tag.directive? "slot" = some own) :
    (Node.element tag children [] span).arranged =
      .element (tag.takeDirective? "slot").2 []
        [.mk (.ofDirective own span) (joinChains (children.map Node.arranged))]
        span := by
  have noTemplates := no_templates_of_own ready takes given
  have all := others_of_own ready takes given
  rcases taken : tag.takeDirective? "slot" with ⟨found, rest⟩
  obtain rfl : found = some own := (congrArg Prod.fst taken).symm.trans given
  rw [Node.arranged, arrangedEach_eq_map]
  simp only [takes, ↓reduceIte, collectSlots, taken, slots_arranged, others_arranged,
    noTemplates, all]
  rfl

/-- A component without `v-slot` has a slot for each template among its children. -/
theorem arranged_templates
    (ready : (Node.element tag children [] span).Throughout Node.IsReady)
    (takes : tag.takesSlots = true) (noOwn : tag.directive? "slot" = none) :
    (Node.element tag children [] span).arranged =
      .element tag
        (joinChains ((children.filter fun child => child.slot?.isNone).map
          Node.arranged))
        ((children.filterMap Node.slot?).map Slot.arranged) span := by
  have absent : tag.hasDirective "slot" = false := by
    rw [← StartTag.isSome_directive?, noOwn]
    rfl
  have taken : tag.takeDirective? "slot" = (none, tag) :=
    Prod.ext noOwn (StartTag.takeDirective?_of_absent absent)
  -- The content of a template is joined once as its children, and again in the slot.
  have joined : ((children.filterMap Node.slot?).map Slot.arranged).map Slot.joined =
      (children.filterMap Node.slot?).map Slot.arranged := by
    rw [List.map_map]
    apply List.map_congr_left
    intro slot isSlot
    obtain ⟨child, member, gives⟩ := List.mem_filterMap.mp isSlot
    have content :=
      (ready.inside child (List.mem_append_left _ member)).areReady_slot gives
    exact congrArg (Slot.mk slot.head) content.joinChains_arranged
  rw [Node.arranged, arrangedEach_eq_map]
  simp only [takes, ↓reduceIte, collectSlots, taken, slots_arranged, others_arranged]
  exact congrArg (Node.element tag _ · span) joined

end

end VuePrecompiler.Template
