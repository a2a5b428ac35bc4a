import VuePrecompiler.Proofs.NodesInside

/-!
# Arranged nodes

The functions that arrange a template and look for faults in it are maps over
the nodes, branches and slots of each node.  Whatever is kept where a branch
joins a chain holds throughout the arranged template.
-/

namespace VuePrecompiler.Template

open Source

/-! ## Recursions over lists as maps -/

theorem arrangedEach_eq_map (nodes : List Node) :
    arrangedEach nodes = nodes.map Node.arranged := by
  induction nodes with
  | nil => rfl
  | cons node rest induction => rw [arrangedEach, induction, List.map_cons]

/-- A branch with everything in it arranged. -/
def Branch.arranged (branch : Branch) : Branch :=
  .mk branch.kind branch.condition (joinChains (branch.children.map Node.arranged))
    branch.span

theorem Branch.children_arranged (branch : Branch) :
    branch.arranged.children = joinChains (branch.children.map Node.arranged) := rfl

/-- A slot with everything in it arranged. -/
def Slot.arranged (slot : Slot) : Slot :=
  .mk slot.head (joinChains (slot.children.map Node.arranged))

theorem Slot.children_arranged (slot : Slot) :
    slot.arranged.children = joinChains (slot.children.map Node.arranged) := rfl

/-- A slot with the chains in it joined. -/
def Slot.joined (slot : Slot) : Slot :=
  .mk slot.head (joinChains slot.children)

theorem Slot.children_joined (slot : Slot) :
    slot.joined.children = joinChains slot.children := rfl

theorem arrangedBranches_eq_map (branches : List Branch) :
    arrangedBranches branches = branches.map Branch.arranged := by
  induction branches with
  | nil => rfl
  | cons branch rest induction =>
      rcases branch with ⟨kind, condition, children, span⟩
      rw [arrangedBranches, induction, arrangedEach_eq_map, List.map_cons]
      rfl

theorem arrangedSlots_eq_map (slots : List Slot) :
    arrangedSlots slots = slots.map Slot.arranged := by
  induction slots with
  | nil => rfl
  | cons slot rest induction =>
      rcases slot with ⟨head, children⟩
      rw [arrangedSlots, induction, arrangedEach_eq_map, List.map_cons]
      rfl

theorem faultEach_eq_map (nodes : List Node) :
    faultEach nodes = nodes.map Node.fault? := by
  induction nodes with
  | nil => rfl
  | cons node rest induction => rw [faultEach, induction, List.map_cons]

/-- The tag of an element in an arranged template: a component has given its own
slot content away. -/
def StartTag.arranged (tag : StartTag) : StartTag :=
  if tag.takesSlots then (tag.takeDirective? "slot").2 else tag

theorem collectSlots_tag (tag : StartTag) (children : List Node) (span : Span) :
    (collectSlots tag children span).tag = (tag.takeDirective? "slot").2 := by
  unfold collectSlots
  rcases tag.takeDirective? "slot" with ⟨_ | _, _⟩ <;> rfl

theorem exists_arranged_element (tag : StartTag) (children : List Node)
    (slots : List Slot) (span : Span) : ∃ inner filled,
      (Node.element tag children slots span).arranged =
        .element tag.arranged inner filled span := by
  rw [Node.arranged, StartTag.arranged]
  dsimp only
  split
  · rw [collectSlots_tag]
    exact ⟨_, _, rfl⟩
  · exact ⟨_, _, rfl⟩

/-- The first fault in a list of siblings or below them. -/
def siblingsFault? (siblings : List Node) : Option CompileError :=
  (chainFault? siblings).or (siblings.findSome? Node.fault?)

theorem findSome?_cons_eq_or {α β : Type} (f : α → Option β) (first : α)
    (rest : List α) :
    (first :: rest).findSome? f = (f first).or (rest.findSome? f) := by
  rw [List.findSome?_cons]
  cases f first <;> rfl

theorem branchesFault?_eq (branches : List Branch) :
    branchesFault? branches = branches.findSome? fun branch =>
      siblingsFault? branch.children := by
  induction branches with
  | nil => rfl
  | cons branch rest induction =>
      rcases branch with ⟨kind, condition, children, span⟩
      rw [branchesFault?, induction, faultEach_eq_map, List.findSome?_map,
        findSome?_cons_eq_or]
      rfl

theorem slotsFault?_eq (slots : List Slot) :
    slotsFault? slots = slots.findSome? fun slot => siblingsFault? slot.children := by
  induction slots with
  | nil => rfl
  | cons slot rest induction =>
      rcases slot with ⟨head, children⟩
      rw [slotsFault?, induction, faultEach_eq_map, List.findSome?_map,
        findSome?_cons_eq_or]
      rfl

/-! ## Joined chains -/

theorem exists_of_isOpenChain {node : Node} (isOpen : node.isOpenChain = true) :
    ∃ branches span, node = .conditional branches span := by
  cases node with
  | conditional branches span => exact ⟨branches, span, rfl⟩
  | _ => contradiction

theorem eq_of_continuation? {node : Node} {branches : List Branch} {span : Span}
    (continues : node.continuation? = some (branches, span)) :
    node = .conditional branches span := by
  cases node with
  | conditional own ownSpan =>
      cases own with
      | nil => contradiction
      | cons first rest =>
          simp only [Node.continuation?] at continues
          split at continues
          · contradiction
          · cases continues
            rfl
  | _ => contradiction

/-- A property that is kept where a branch joins a chain. -/
def KeptByJoining (property : Node → Prop) : Prop :=
  ∀ left right span leftSpan rightSpan,
    (Node.conditional left leftSpan).isOpenChain = true →
    property (.conditional left leftSpan) → property (.conditional right rightSpan) →
      property (.conditional (left ++ right) span)

/-- A property that is kept where a branch joins a chain and their spans are merged. -/
def KeptByMerging (property : Node → Prop) : Prop :=
  ∀ left right leftSpan rightSpan,
    (Node.conditional left leftSpan).isOpenChain = true →
    property (.conditional left leftSpan) → property (.conditional right rightSpan) →
      property (.conditional (left ++ right) (leftSpan.merge rightSpan))

theorem KeptByJoining.merging {property : Node → Prop}
    (joins : KeptByJoining property) : KeptByMerging property := by
  intro left right leftSpan rightSpan
  exact joins left right (leftSpan.merge rightSpan) leftSpan rightSpan

/-- What holds of all siblings holds of them with their chains joined, if it is
kept where a branch joins a chain. -/
theorem forall_joinBehind {property : Node → Prop}
    (joins : KeptByMerging property) (done gap rest : List Node)
    (heldDone : ∀ node ∈ done, property node)
    (heldGap : ∀ node ∈ gap, property node) (heldRest : ∀ node ∈ rest, property node) :
    ∀ node ∈ joinBehind done gap rest, property node := by
  induction rest generalizing done gap with
  | nil =>
      intro node member
      rw [joinBehind, List.mem_reverse, List.mem_append] at member
      rcases member with inGap | inDone
      · exact heldGap node inGap
      · exact heldDone node inDone
  | cons node rest induction =>
      have heldNode := heldRest node List.mem_cons_self
      have heldLater : ∀ other ∈ rest, property other := fun other member =>
        heldRest other (List.mem_cons_of_mem node member)
      have apart : ∀ other ∈ joinBehind (node :: (gap ++ done)) [] rest,
          property other := by
        refine induction _ [] ?_ (by simp) heldLater
        intro other member
        rcases List.mem_cons.mp member with rfl | member
        · exact heldNode
        · exact (List.mem_append.mp member).elim (heldGap other) (heldDone other)
      -- A node is passed, joins the chain that was done last, or is done itself.
      rw [joinBehind.eq_def]
      dsimp only
      split
      · refine induction done (node :: gap) heldDone ?_ heldLater
        intro other member
        rcases List.mem_cons.mp member with rfl | member
        · exact heldNode
        · exact heldGap other member
      · split
        · next branches span chain before continues =>
          split
          · next isOpen =>
            obtain ⟨own, ownSpan, rfl⟩ := exists_of_isOpenChain isOpen
            obtain rfl := eq_of_continuation? continues
            refine induction _ [] ?_ (by simp) heldLater
            intro other member
            rcases List.mem_cons.mp member with rfl | member
            · exact joins own branches ownSpan span isOpen
                (heldDone _ List.mem_cons_self) heldNode
            · exact heldDone other (List.mem_cons_of_mem _ member)
          · exact apart
        · exact apart

theorem forall_joinChains {property : Node → Prop}
    (joins : KeptByMerging property) {siblings : List Node}
    (held : ∀ node ∈ siblings, property node) :
    ∀ node ∈ joinChains siblings, property node :=
  forall_joinBehind joins [] [] siblings (by simp) (by simp) held

theorem joinChains_singleton (node : Node) : joinChains [node] = [node] := by
  rw [joinChains, joinBehind.eq_def]
  dsimp only
  split
  · rfl
  · cases node.continuation? <;> rfl

/-! ## Properties of arranged nodes -/

/-- What holds of the children of a component holds of them and of its slot
content after the content was moved. -/
theorem forall_collectSlots {property : Node → Prop}
    (opens : ∀ directives children span,
      property (.slotTemplate directives children span) →
      ∀ child ∈ children, property child)
    (tag : StartTag) {children : List Node} (span : Span)
    (held : ∀ node ∈ children, property node) :
    (∀ node ∈ (collectSlots tag children span).children, property node) ∧
      ∀ node ∈ (collectSlots tag children span).slots.flatMap Slot.children,
        property node := by
  have heldOthers : ∀ node ∈ children.filter fun child => child.slot?.isNone,
      property node :=
    fun node member => held node (List.mem_filter.mp member).1
  have heldSlots : ∀ node ∈ (children.filterMap Node.slot?).flatMap Slot.children,
      property node := by
    intro node member
    obtain ⟨slot, inSlots, member⟩ := List.mem_flatMap.mp member
    obtain ⟨giver, inChildren, gives⟩ := List.mem_filterMap.mp inSlots
    cases giver with
    | slotTemplate directives content span =>
        obtain ⟨directive, _, rfl⟩ := Option.map_eq_some_iff.mp gives
        exact opens directives content span (held _ inChildren) node member
    | _ => contradiction
  rcases taken : tag.takeDirective? "slot" with ⟨_ | own, rest⟩
  · simp only [collectSlots, taken]
    exact ⟨heldOthers, heldSlots⟩
  · simp only [collectSlots, taken, List.flatMap_append, List.flatMap_cons,
      List.flatMap_nil, List.append_nil, Slot.children]
    refine ⟨by simp, ?_⟩
    intro node member
    rcases List.mem_append.mp member with inSlots | inOthers
    · exact heldSlots node inSlots
    · exact heldOthers node inOthers

section

variable {property : Node → Prop} (joins : KeptByMerging property)
include joins

theorem forall_joined {Holder : Type} {joined : Holder → Holder}
    {content source : Holder → List Node}
    (shape : ∀ holder, content (joined holder) = joinChains (source holder))
    {holders : List Holder} (held : ∀ node ∈ holders.flatMap source, property node) :
    ∀ node ∈ (holders.map joined).flatMap content, property node := by
  intro node member
  obtain ⟨_, inHolders, member⟩ := List.mem_flatMap.mp member
  obtain ⟨holder, given, rfl⟩ := List.mem_map.mp inHolders
  rw [shape] at member
  refine forall_joinChains joins ?_ node member
  intro other inSource
  exact held other (List.mem_flatMap.mpr ⟨holder, given, inSource⟩)

theorem forall_inside_arranged
    (opens : ∀ directives children span,
      property (.slotTemplate directives children span) →
      ∀ child ∈ children, property child)
    {node : Node} (held : ∀ child ∈ node.inside, property child.arranged) :
    ∀ child ∈ node.arranged.inside, property child := by
  have heldMap : ∀ {nodes : List Node}, (∀ child ∈ nodes, child ∈ node.inside) →
      ∀ child ∈ nodes.map Node.arranged, property child := by
    intro nodes within child member
    obtain ⟨original, inNodes, rfl⟩ := List.mem_map.mp member
    exact held original (within original inNodes)
  cases node with
  | text => simp [Node.arranged, Node.inside]
  | interpolation => simp [Node.arranged, Node.inside]
  | comment => simp [Node.arranged, Node.inside]
  | loop head children span =>
      rw [Node.arranged, arrangedEach_eq_map]
      exact forall_joinChains joins (heldMap fun _ member => member)
  | outlet outlet fallback span =>
      rw [Node.arranged, arrangedEach_eq_map]
      exact forall_joinChains joins (heldMap fun _ member => member)
  | slotTemplate directives children span =>
      rw [Node.arranged, arrangedEach_eq_map]
      exact forall_joinChains joins (heldMap fun _ member => member)
  | conditional branches span =>
      rw [Node.arranged, arrangedBranches_eq_map]
      refine forall_joined joins Branch.children_arranged ?_
      rw [← List.map_flatMap]
      exact heldMap fun _ member => member
  | element tag children slots span =>
      have heldChildren : ∀ child ∈ children.map Node.arranged, property child :=
        heldMap fun _ member => List.mem_append_left _ member
      have heldSlots : ∀ child ∈ (slots.map Slot.arranged).flatMap Slot.children,
          property child := by
        refine forall_joined joins Slot.children_arranged ?_
        rw [← List.map_flatMap]
        exact heldMap fun _ member => List.mem_append_right _ member
      rw [Node.arranged, arrangedEach_eq_map, arrangedSlots_eq_map]
      dsimp only
      split
      · obtain ⟨heldOthers, heldMoved⟩ :=
          forall_collectSlots opens tag span heldChildren
        have heldFilled := forall_joined joins Slot.children_joined heldMoved
        intro child member
        rw [Node.inside, List.flatMap_append] at member
        rcases List.mem_append.mp member with inChildren | inSlots
        · exact forall_joinChains joins heldOthers child inChildren
        · rcases List.mem_append.mp inSlots with inOwn | inFilled
          · exact heldSlots child inOwn
          · exact heldFilled child inFilled
      · intro child member
        rcases List.mem_append.mp member with inChildren | inSlots
        · exact forall_joinChains joins heldChildren child inChildren
        · exact heldSlots child inSlots

theorem KeptByMerging.throughout : KeptByMerging (Node.Throughout property) := by
  intro left right leftSpan rightSpan isOpen heldLeft heldRight
  refine .intro (joins left right leftSpan rightSpan isOpen
    heldLeft.here heldRight.here) ?_
  intro child member
  rw [Node.inside, List.flatMap_append] at member
  rcases List.mem_append.mp member with inLeft | inRight
  · exact heldLeft.inside child inLeft
  · exact heldRight.inside child inRight

/-- What arranging makes of each node holds throughout the arranged node. -/
theorem Node.Throughout.arranged {before : Node → Prop}
    (kept : ∀ node, before node → property node.arranged) {node : Node}
    (throughout : node.Throughout before) : node.arranged.Throughout property := by
  induction node using Node.inside_induct with
  | step node induction =>
      -- Slot content is opened: its children, not the template itself, end up in
      -- a slot.
      refine .intro (kept node throughout.here) ?_
      refine forall_inside_arranged joins.throughout ?_ fun child member =>
        induction child member (throughout.inside child member)
      intro directives children span held
      exact held.inside

theorem Tree.throughout_arranged {before : Node → Prop}
    (kept : ∀ node, before node → property node.arranged) {tree : Tree}
    (throughout : ∀ node ∈ tree.children, node.Throughout before) :
    ∀ node ∈ tree.arranged.children, node.Throughout property := by
  rw [Tree.arranged, arrangedEach_eq_map]
  refine forall_joinChains joins.throughout ?_
  intro child member
  obtain ⟨node, inTree, rfl⟩ := List.mem_map.mp member
  exact (throughout node inTree).arranged joins kept

end

end VuePrecompiler.Template
