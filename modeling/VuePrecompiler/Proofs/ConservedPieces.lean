import VuePrecompiler.Proofs.ArrangedSiblings
import VuePrecompiler.Proofs.KeptPieces

/-!
# Pieces are conserved

Arranging a template loses no piece and copies none.  Every piece stays where
it is held, and only the comments and the blank text between two branches of a
chain are gone.  The arranged template is in normal form: every conditional is
a chain, and components have slots instead of templates for them.
-/

namespace VuePrecompiler.Template

open Source

/-! ## Arranged templates are in normal form

In an arranged template every conditional is a whole chain, no component has
slot content among its children, and the slots of a component stand in the
order of the source.
-/

/-- The form of a node in an arranged template. -/
def Node.IsNormal : Node → Prop
  | .conditional branches _ => IsChain branches
  | .element tag children slots _ =>
    (tag.takesSlots = true → ∀ child ∈ children, ∀ directives content span,
      child ≠ .slotTemplate directives content span) ∧
      slots.Pairwise fun before later => before.head.span.stop ≤ later.head.span.start
  | _ => True

/-- A node that arranging brings into normal form, up to a chain
that it is a part of. -/
structure Node.Normalizes (node : Node) : Prop where
  here : (∀ branches span, node ≠ .conditional branches span) → node.arranged.IsNormal
  inside : ∀ child ∈ node.arranged.inside, child.Throughout Node.IsNormal

theorem AreReady.normalize {siblings : List Node} (ready : AreReady siblings)
    (each : ∀ node ∈ siblings, node.Normalizes) :
    ∀ node ∈ joinChains (siblings.map Node.arranged),
      node.Throughout Node.IsNormal := by
  refine ready.joins.forall_mem ?_ ?_
  · intro node member plain
    obtain ⟨given, inSiblings, rfl⟩ := List.mem_map.mp member
    refine .intro ((each given inSiblings).here ?_) (each given inSiblings).inside
    rintro branches span rfl
    exact plain _ span (by rw [Node.arranged])
  · intro branches whole isChain written
    refine .intro isChain fun child inChain => ?_
    obtain ⟨branch, given, held⟩ := List.mem_flatMap.mp inChain
    obtain ⟨span, member⟩ := written branch given
    obtain ⟨node, inSiblings, same⟩ := List.mem_map.mp member
    apply (each node inSiblings).inside child
    rw [same, Node.inside, List.flatMap_singleton]
    exact held

/-- The other children of a component are no templates for slots. -/
theorem AreReady.no_slotTemplate {siblings : List Node} (ready : AreReady siblings)
    (others : ∀ node ∈ siblings, node.slot? = none) :
    ∀ node ∈ joinChains (siblings.map Node.arranged), ∀ directives content span,
      node ≠ .slotTemplate directives content span := by
  refine ready.joins.forall_mem ?_ fun _ _ _ _ _ _ _ => Node.noConfusion
  intro node member _ directives content span same
  obtain ⟨given, inSiblings, rfl⟩ := List.mem_map.mp member
  have written := (ready.each given inSiblings).here.written
  have noSlot := others given inSiblings
  cases given with
  | element tag children slots span =>
      obtain ⟨inner, filled, shape⟩ := exists_arranged_element tag children slots span
      rw [shape] at same
      contradiction
  | slotTemplate own children span =>
      obtain ⟨directive, found⟩ := Option.isSome_iff_exists.mp written
      rw [Node.slot?, found] at noSlot
      contradiction
  | _ =>
      rw [Node.arranged] at same
      contradiction

section

variable {tag : StartTag} {own : Directive} {children : List Node} {span : Span}
  (ready : (Node.element tag children [] span).Throughout Node.IsReady)
  (each : ∀ child ∈ children, child.Normalizes)
include ready each

theorem plain_normalizes (leaves : tag.takesSlots = false) :
    (Node.element tag children [] span).Normalizes := by
  constructor
  · intro _
    rw [arranged_plain leaves]
    refine ⟨fun takes => ?_, .nil⟩
    rw [leaves] at takes
    contradiction
  · rw [arranged_plain leaves, Node.inside, List.flatMap_nil, List.append_nil]
    exact (areReady_plain ready leaves).normalize each

variable (takes : tag.takesSlots = true)
include takes

theorem own_normalizes (given : tag.directive? "slot" = some own) :
    (Node.element tag children [] span).Normalizes := by
  have siblings : AreReady children :=
    others_of_own ready takes given ▸ areReady_others ready takes
  constructor
  · intro _
    rw [arranged_own ready takes given]
    exact ⟨by simp, List.pairwise_singleton _ _⟩
  · rw [arranged_own ready takes given, Node.inside, List.nil_append,
      List.flatMap_singleton]
    exact siblings.normalize each

theorem templates_normalize (noOwn : tag.directive? "slot" = none) :
    (Node.element tag children [] span).Normalizes := by
  have others := areReady_others ready takes
  have ordered : AreInOrder children :=
    ready.here.ordered.sublist (List.sublist_append_left _ _)
  constructor
  · intro _
    rw [arranged_templates ready takes noOwn]
    constructor
    · intro _
      apply others.no_slotTemplate
      intro child member
      exact Option.isNone_iff_eq_none.mp (List.mem_filter.mp member).2
    · refine List.pairwise_map.mpr (List.Pairwise.filterMap _ ?_ ordered)
      intro before later inFront slot gives other givesOther
      have first := Node.span_of_slot? gives
      have second := Node.span_of_slot? givesOther
      exact first ▸ second ▸ inFront
  · rw [arranged_templates ready takes noOwn]
    intro node member
    rcases List.mem_append.mp member with inOthers | inSlots
    · refine others.normalize (fun child given => ?_) node inOthers
      exact each child (List.mem_filter.mp given).1
    · obtain ⟨_, isSlot, inSlot⟩ := List.mem_flatMap.mp inSlots
      obtain ⟨slot, given, rfl⟩ := List.mem_map.mp isSlot
      obtain ⟨child, inChildren, gives⟩ := List.mem_filterMap.mp given
      have givesArranged : child.arranged.slot? = some slot.arranged := by
        rw [child.slot?_arranged, gives]
        rfl
      apply (each child inChildren).inside node
      rw [(Node.inside_of_slot? givesArranged).1]
      exact inSlot

end

/-- Arranging brings every node into normal form that can be arranged. -/
theorem Node.normalizes {node : Node} (ready : node.Throughout Node.IsReady) :
    node.Normalizes := by
  induction node using Node.inside_induct with
  | step node induction =>
      have each : ∀ child ∈ node.inside, child.Normalizes :=
        fun child member => induction child member (ready.inside child member)
      have written := ready.here.written
      cases node with
      | text | interpolation | comment =>
          exact ⟨fun _ => trivial, by simp [Node.arranged, Node.inside]⟩
      | loop _ children span | outlet _ children span | slotTemplate _ children span =>
          have siblings :=
            ready.areReady (List.mem_singleton_self _) (List.Sublist.refl _)
          refine ⟨fun _ => trivial, ?_⟩
          rw [Node.arranged, arrangedEach_eq_map]
          exact siblings.normalize each
      | conditional branches span =>
          obtain ⟨branch, rfl, _⟩ := written
          have part :
              branch.children.Sublist (Node.conditional [branch] span).inside := by
            rw [Node.inside, List.flatMap_singleton]
          have siblings := ready.areReady (List.mem_singleton_self _) part
          refine ⟨fun plain => absurd rfl (plain _ _), ?_⟩
          rw [Node.arranged, arrangedBranches_eq_map, List.map_singleton, Node.inside,
            List.flatMap_singleton]
          exact siblings.normalize fun child member => each child (part.subset member)
      | element tag children slots span =>
          obtain rfl : slots = [] := written
          have inChildren : ∀ child ∈ children, child.Normalizes :=
            fun child member => each child (List.mem_append_left _ member)
          cases takes : tag.takesSlots with
          | false => exact plain_normalizes ready inChildren takes
          | true =>
              cases given : tag.directive? "slot" with
              | none => exact templates_normalize ready inChildren takes given
              | some own => exact own_normalizes ready inChildren takes given

theorem Tree.arranged_isNormal {tree : Tree} (ready : AreReady tree.children)
    {node : Node} (contained : tree.arranged.Contains node) : node.IsNormal := by
  have throughout :=
    ready.normalize fun node member => Node.normalizes (ready.each node member)
  obtain ⟨top, inTree, below⟩ := contained
  rw [Tree.arranged, arrangedEach_eq_map] at inTree
  exact (throughout top inTree).of_below below

/-! ## Slot content -/

/-- Slot content has the pieces of its slot, so the children of a component have
the pieces of the others and of the slots. -/
theorem partition_pieces (holder : Option Piece) (children : List Node) :
    (children.flatMap (Node.pieces holder)).Perm
      ((children.filter fun child => child.slot?.isNone).flatMap
        (Node.pieces holder) ++
        (children.filterMap Node.slot?).flatMap (Slot.pieces holder)) := by
  induction children with
  | nil => exact .refl _
  | cons child rest induction =>
      cases gives : child.slot? with
      | none =>
          rw [List.filter_cons_of_pos (by rw [gives]; rfl),
            List.filterMap_cons_none gives, List.flatMap_cons, List.flatMap_cons,
            List.append_assoc]
          exact induction.append_left _
      | some slot =>
          rw [List.filter_cons_of_neg (by rw [gives]; exact Bool.false_ne_true),
            List.filterMap_cons_some gives, List.flatMap_cons, List.flatMap_cons,
            pieces_of_slot? holder gives]
          exact (induction.append_left _).trans (List.perm_append_comm_assoc _ _ _)

section

variable {tag : StartTag} {own : Directive} {span : Span}

theorem filter_of_find? {Item : Type} {test : Item → Bool} {items : List Item}
    {found : Item} (first : items.find? test = some found) :
    items.filter test = found :: (items.eraseP test).filter test := by
  induction items with
  | nil => contradiction
  | cons item rest induction =>
      cases here : test item with
      | true =>
          rw [List.find?_cons_of_pos here] at first
          obtain rfl := Option.some.inj first
          rw [List.filter_cons_of_pos here, List.eraseP_cons_of_pos here]
      | false =>
          have notHere : ¬ test item = true := by simp [here]
          rw [List.find?_cons_of_neg notHere] at first
          rw [List.filter_cons_of_neg notHere, List.eraseP_cons_of_neg notHere,
            List.filter_cons_of_neg notHere, induction first]

theorem filter_eraseP {Item : Type} (test : Item → Bool) (items : List Item) :
    ((items.eraseP test).filter fun item => !test item) =
      items.filter fun item => !test item := by
  induction items with
  | nil => rfl
  | cons item rest induction =>
      cases here : test item with
      | true =>
          rw [List.eraseP_cons_of_pos here, List.filter_cons_of_neg (by simp [here])]
      | false =>
          rw [List.eraseP_cons_of_neg (by simp [here]),
            List.filter_cons_of_pos (by simp [here]),
            List.filter_cons_of_pos (by simp [here]), induction]

theorem piece_takeDirective? :
    (tag.takeDirective? "slot").2.piece span = tag.piece span := by
  have rest : (tag.takeDirective? "slot").2.withoutSlots = tag.withoutSlots :=
    congrArg (fun directives => { tag with directives })
      (filter_eraseP _ tag.directives)
  exact congrArg (Piece.element · span) rest

/-- Taking `v-slot` off a tag leaves the slots that its other directives name. -/
theorem slotPieces_of_directive? (given : tag.directive? "slot" = some own) :
    tag.slotPieces span = ⟨tag.piece span, .slot (.ofDirective own span)⟩ ::
      (tag.takeDirective? "slot").2.slotPieces span := by
  have directives :
      tag.slotDirectives = own :: (tag.takeDirective? "slot").2.slotDirectives :=
    filter_of_find? given
  rw [StartTag.slotPieces, StartTag.slotPieces, directives, piece_takeDirective?,
    List.map_cons]

theorem contentHolder_plain (leaves : tag.takesSlots = false) :
    tag.contentHolder span = tag.piece span := by
  unfold StartTag.contentHolder
  split
  · rw [leaves, if_neg Bool.false_ne_true]
  · rfl

theorem contentHolder_own (takes : tag.takesSlots = true)
    (given : tag.directive? "slot" = some own) :
    tag.contentHolder span = .slot (.ofDirective own span) := by
  rw [StartTag.contentHolder, given]
  exact if_pos takes

theorem contentHolder_of_none (noOwn : tag.directive? "slot" = none) :
    tag.contentHolder span = tag.piece span := by
  rw [StartTag.contentHolder, noOwn]

theorem Node.HasGap.inside_of_slot? {node : Node} {slot : Slot} {gap : Span}
    (has : node.HasGap gap) (gives : node.slot? = some slot) :
    HaveGap slot.children gap := by
  obtain ⟨branches, whole, below, lies⟩ := has
  cases below with
  | here => contradiction
  | inside member below =>
      rw [(Node.inside_of_slot? gives).1] at member
      exact ⟨_, member, branches, whole, below, lies⟩

/-! ## Nodes -/

/-- The pieces of a node are kept by arranging it, whatever holds it. -/
def Node.Conserves (node : Node) : Prop :=
  ∀ holder, Keeps node.arranged.HasGap (node.pieces holder)
    (node.arranged.pieces holder)

theorem AreReady.conserves {siblings : List Node} (ready : AreReady siblings)
    (each : ∀ node ∈ siblings, node.Conserves) (holder : Option Piece)
    {gaps : Span → Prop} (inside : ∀ span,
      HaveGap (joinChains (siblings.map Node.arranged)) span → gaps span) :
    Keeps gaps (siblings.flatMap (Node.pieces holder))
      ((joinChains (siblings.map Node.arranged)).flatMap (Node.pieces holder)) :=
  (ready.keeps fun node member => each node member holder).mono inside

section

variable {children : List Node}
  (ready : (Node.element tag children [] span).Throughout Node.IsReady)
  (each : ∀ child ∈ children, child.Conserves)
include ready each

theorem plain_conserves (leaves : tag.takesSlots = false) :
    (Node.element tag children [] span).Conserves := by
  intro holder
  rw [arranged_plain leaves, pieces_element, pieces_element,
    contentHolder_plain leaves, List.flatMap_nil, List.append_nil, List.append_nil]
  refine .cons _ ((Keeps.refl _).append ?_)
  refine (areReady_plain ready leaves).conserves each _ fun gap has => ?_
  exact .of_inside (has.subset (List.subset_append_left _ _))

variable (takes : tag.takesSlots = true)
include takes

/-- The slot that a component names holds what the component held. -/
theorem own_conserves (given : tag.directive? "slot" = some own) :
    (Node.element tag children [] span).Conserves := by
  have siblings : AreReady children :=
    others_of_own ready takes given ▸ areReady_others ready takes
  intro holder
  rw [arranged_own ready takes given, pieces_element, pieces_element,
    contentHolder_own takes given, slotPieces_of_directive? given,
    piece_takeDirective?, List.flatMap_nil, List.flatMap_nil, List.append_nil,
    List.nil_append, List.flatMap_singleton]
  refine .cons _ (.trans (.of_perm List.perm_middle.symm)
    ((Keeps.refl _).append (.cons _ ?_)))
  refine siblings.conserves each _ fun gap has => .of_inside (has.subset ?_)
  rw [Node.inside, List.flatMap_singleton]
  exact List.subset_append_right [] _

/-- The slots that templates name hold what the templates held. -/
theorem templates_conserve (noOwn : tag.directive? "slot" = none) :
    (Node.element tag children [] span).Conserves := by
  have others := areReady_others ready takes
  intro holder
  rw [arranged_templates ready takes noOwn, pieces_element, pieces_element,
    contentHolder_of_none noOwn, List.flatMap_nil, List.append_nil]
  refine .cons _ ((Keeps.refl _).append
    (.trans (.of_perm (partition_pieces _ children)) ?_))
  refine .append ?_ ?_
  · refine others.conserves (fun child member =>
      each child (List.mem_filter.mp member).1) _
        fun gap has => .of_inside (has.subset (List.subset_append_left _ _))
  · rw [List.flatMap_map]
    refine .flatMap fun slot isSlot => ?_
    obtain ⟨child, member, gives⟩ := List.mem_filterMap.mp isSlot
    have givesArranged : child.arranged.slot? = some slot.arranged := by
      rw [child.slot?_arranged, gives]
      rfl
    have kept := each child member (tag.piece span)
    rw [pieces_of_slot? _ gives, pieces_of_slot? _ givesArranged] at kept
    refine kept.mono fun gap has =>
      .of_inside ((has.inside_of_slot? givesArranged).subset ?_)
    refine fun node inSlot => List.mem_append_right _ (List.mem_flatMap.mpr ?_)
    exact ⟨slot.arranged, List.mem_map_of_mem isSlot, inSlot⟩

end

end

/-- Arranging keeps the pieces of every node that can be arranged. -/
theorem Node.conserves {node : Node} (ready : node.Throughout Node.IsReady) :
    node.Conserves := by
  induction node using Node.inside_induct with
  | step node induction =>
      have each : ∀ child ∈ node.inside, child.Conserves :=
        fun child member => induction child member (ready.inside child member)
      have written := ready.here.written
      cases node with
      | text => exact fun holder => .refl _
      | interpolation => exact fun holder => .refl _
      | comment => exact fun holder => .refl _
      | loop head children span =>
          have siblings :=
            ready.areReady (List.mem_singleton_self _) (List.Sublist.refl _)
          intro holder
          rw [Node.arranged, arrangedEach_eq_map, pieces_loop, pieces_loop]
          exact .cons _ (siblings.conserves each _ fun gap has => .of_inside has)
      | outlet outlet fallback span =>
          have siblings :=
            ready.areReady (List.mem_singleton_self _) (List.Sublist.refl _)
          intro holder
          rw [Node.arranged, arrangedEach_eq_map, pieces_outlet, pieces_outlet]
          exact .cons _ (siblings.conserves each _ fun gap has => .of_inside has)
      | slotTemplate directives children span =>
          have siblings :=
            ready.areReady (List.mem_singleton_self _) (List.Sublist.refl _)
          obtain ⟨directive, given⟩ := Option.isSome_iff_exists.mp written
          intro holder
          rw [Node.arranged, arrangedEach_eq_map, Node.pieces, Node.pieces, given]
          dsimp only
          rw [piecesEach_eq_flatMap, piecesEach_eq_flatMap]
          exact .cons _ (siblings.conserves each _ fun gap has => .of_inside has)
      | conditional branches span =>
          obtain ⟨branch, rfl, _⟩ := written
          have part :
              branch.children.Sublist (Node.conditional [branch] span).inside := by
            rw [Node.inside, List.flatMap_singleton]
          have siblings := ready.areReady (List.mem_singleton_self _) part
          intro holder
          rw [Node.arranged, arrangedBranches_eq_map, pieces_conditional,
            pieces_conditional, List.map_singleton, List.flatMap_singleton,
            List.flatMap_singleton]
          refine .cons _ (siblings.conserves (fun child member =>
            each child (part.subset member))
              _ fun gap has => .of_inside (has.subset ?_))
          rw [Node.inside, List.flatMap_singleton]
          exact List.Subset.refl _
      | element tag children slots span =>
          obtain rfl : slots = [] := written
          have inChildren : ∀ child ∈ children, child.Conserves :=
            fun child member => each child (List.mem_append_left _ member)
          cases takes : tag.takesSlots with
          | false => exact plain_conserves ready inChildren takes
          | true =>
              cases given : tag.directive? "slot" with
              | none => exact templates_conserve ready inChildren takes given
              | some own => exact own_conserves ready inChildren takes given

theorem Tree.arranged_keeps {tree : Tree} (ready : AreReady tree.children) :
    Keeps tree.arranged.HasGap tree.pieces tree.arranged.pieces := by
  rw [Tree.pieces, Tree.pieces, Tree.arranged, arrangedEach_eq_map]
  exact ready.conserves (fun node member => Node.conserves (ready.each node member))
    none fun gap has => has

/-! ## Templates -/

/-- A piece that is neither removable nor a slot stands once in what was kept. -/
theorem Keeps.filter_place {gaps : Span → Prop} {before after : List Held}
    (keeps : Keeps gaps before after) (distinct : (keysOf before).Nodup) {held : Held}
    (member : held ∈ before) (significant : held.piece.isInsignificant = false)
    (noSlot : held.piece.kind ≠ .slot) :
    after.filter (fun other => other.piece.place = held.piece.place) = [held] := by
  obtain ⟨removed, same, inGaps⟩ := keeps
  have once := Template.filter_place distinct member noSlot
  have notRemoved :
      removed.filter (fun other => other.piece.place = held.piece.place) = [] := by
    rw [List.filter_eq_nil_iff]
    intro other isRemoved here
    have inBefore : other ∈ before :=
      same.mem_iff.mpr (List.mem_append_right after isRemoved)
    have found := once ▸ List.mem_filter.mpr ⟨inBefore, here⟩
    obtain rfl := List.mem_singleton.mp found
    rw [(inGaps other isRemoved).1] at significant
    contradiction
  have kept := same.filter fun other => other.piece.place = held.piece.place
  rw [once, List.filter_append, notRemoved, List.append_nil] at kept
  exact (List.singleton_perm.mp kept).symm

/-- Arranging conserves a template.  Every piece stays where it is held,
except for the comments and the blank text between two branches of a chain.
So every element, loop, outlet, interpolation, branch and significant text
stands in the arranged template once.  There every conditional is a chain, and
components have no templates for slots among their children but slots in the
order of the source. -/
theorem arrange_conserves {source : String} {tree arranged : Tree}
    (read : Tree.ofText source = .ok tree) (arranges : tree.arrange = .ok arranged) :
    Keeps arranged.HasGap tree.pieces arranged.pieces ∧
      (∀ held ∈ tree.pieces, held.piece.isInsignificant = false →
        held.piece.kind ≠ .slot →
        arranged.pieces.filter (fun other => other.piece.place = held.piece.place) =
          [held]) ∧
      ∀ node, arranged.Contains node → node.IsNormal := by
  obtain ⟨noFault, rfl⟩ := arrange_eq_ok arranges
  have ready := Tree.areReady read noFault
  have keeps := Tree.arranged_keeps ready
  refine ⟨keeps, fun held member significant noSlot => ?_, fun node contained => ?_⟩
  · exact keeps.filter_place (keysOf_nodup read) member significant noSlot
  · exact Tree.arranged_isNormal ready contained

/-- An interpolation in the slot content of a component, beside a chain
with a blank in it. -/
theorem list_conserved :
    let source :=
      "<my-list><template #row>{{ a }}</template><p v-if=\"x\"></p> <p v-else></p></my-list>"
    let row : SlotHead := ⟨.fixed "row", none, ⟨9, 42⟩⟩
    let shown : Held := ⟨some (.slot row), .interpolation ⟨"a", ⟨26, 29⟩⟩ ⟨24, 31⟩⟩
    ∃ tree arranged, Tree.ofText source = .ok tree ∧ tree.arrange = .ok arranged ∧
      Keeps arranged.HasGap tree.pieces arranged.pieces ∧
      arranged.pieces.filter (fun other =>
        other.piece.place = (.interpolation, ⟨24, 31⟩)) =
          [shown] ∧
      ∀ node, arranged.Contains node → node.IsNormal := by
  intro source row shown
  have accepted : (Tree.ofText source >>= Tree.arrange).isOk = true := by
    decide +kernel
  have isShown :
      (Tree.ofText source).toOption.any (fun tree => shown ∈ tree.pieces) = true := by
    decide +kernel
  obtain ⟨arranged, done⟩ := exists_of_isOk accepted
  obtain ⟨tree, read, arranges⟩ := of_bind_eq_ok done
  rw [read] at isShown
  obtain ⟨keeps, once, normal⟩ := arrange_conserves read arranges
  have shown_once := once shown (of_decide_eq_true isShown) rfl (by decide)
  exact ⟨tree, arranged, read, arranges, keeps, shown_once, normal⟩

end VuePrecompiler.Template
