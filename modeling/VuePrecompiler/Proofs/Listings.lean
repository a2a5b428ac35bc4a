import Mathlib.Data.List.Perm.Basic
import Mathlib.Data.List.Flatten
import VuePrecompiler.Proofs.ArrangedNodes
import VuePrecompiler.Proofs.ReadingSteps

/-!
# Listings of a template

A listing goes through a template from its start to its end and collects
entries.  Two laws hold of listings.  What is read lists as its lexemes do,
one after the other; and arranging a template changes the order of a listing
only, provided that the listing looks at nothing that arranging takes away.
-/

namespace VuePrecompiler.Template

open Source Text

/-- What to list of a node itself, and in which scope to list what stands below
it; without a scope it is left out. -/
structure Listing (Scope Entry : Type) where
  own : Scope → Node → List Entry
  below : Scope → Node → Option Scope

variable {Scope Entry : Type}

/-- The entries of a node and of everything below it. -/
def Node.listed (listing : Listing Scope Entry) (scope : Scope)
    (node : Node) : List Entry :=
  listing.own scope node ++
    match listing.below scope node with
    | none => []
    | some inner => node.inside.attach.flatMap fun child =>
        child.1.listed listing inner
termination_by sizeOf node
decreasing_by exact Node.sizeOf_inside child.2

theorem Node.listed_eq (listing : Listing Scope Entry) (scope : Scope) (node : Node) :
    node.listed listing scope = listing.own scope node ++
      (listing.below scope node).elim [] fun inner =>
        node.inside.flatMap (Node.listed listing inner) := by
  rw [Node.listed]
  cases listing.below scope node with
  | none => rfl
  | some inner =>
      have unattached :
          (node.inside.attach.flatMap fun child => child.1.listed listing inner) =
            node.inside.flatMap (Node.listed listing inner) := by
        rw [List.flatMap_subtype fun _ _ => rfl, List.unattach_attach]
      exact congrArg (listing.own scope node ++ ·) unattached

def Tree.listed (listing : Listing Scope Entry) (scope : Scope)
    (tree : Tree) : List Entry :=
  tree.children.flatMap (Node.listed listing scope)

/-! ## Listings of what is read -/

/-- A function that lists what is read in the order of the lexemes. -/
structure ListsLexemes (nodeEntries : Node → List Entry)
    (lexemeEntries : Lexeme → List Entry) : Prop where
  passed : ∀ {lexeme}, lexeme.isPassed = true → lexemeEntries lexeme = []
  leaf :
    ∀ {lexeme node}, lexeme.leaf? = some node → nodeEntries node = lexemeEntries lexeme
  tag : ∀ {name attributes selfClosing span stop children node},
    Node.ofTag (StartTag.ofSource name attributes) children ⟨span.start, stop⟩ =
      .ok node →
      nodeEntries node = lexemeEntries ⟨.startTag name attributes selfClosing, span⟩ ++
        children.flatMap nodeEntries

theorem Nested.flatMap_eq {nodeEntries : Node → List Entry}
    {lexemeEntries : Lexeme → List Entry}
    (lists : ListsLexemes nodeEntries lexemeEntries) {lexemes : List Lexeme}
    {nodes : List Node} (nested : Nested lexemes nodes) :
    nodes.flatMap nodeEntries = lexemes.flatMap lexemeEntries := by
  induction nested with
  | nil => rfl
  | passed isPassed _ induction =>
      rw [List.flatMap_cons, lists.passed isPassed, List.nil_append, induction]
  | leaf isLeaf _ induction =>
      rw [List.flatMap_cons, List.flatMap_cons, lists.leaf isLeaf, induction]
  | tag _ made _ inner rest =>
      rw [List.flatMap_cons, List.flatMap_cons, List.flatMap_append, lists.tag made,
        inner, rest, List.append_assoc]

/-- List something of every node. -/
def Listing.ofOwn (own : Node → List Entry) : Listing Unit Entry :=
  ⟨fun _ => own, fun _ _ => some ()⟩

theorem listed_ofOwn (own : Node → List Entry) (node : Node) :
    node.listed (.ofOwn own) () =
      own node ++ node.inside.flatMap (Node.listed (.ofOwn own) ()) :=
  Node.listed_eq _ _ _

theorem mem_listed_of_below {own : Node → List Entry} {entry : Entry}
    {node whole : Node} (below : node.Below whole) (member : entry ∈ own node) :
    entry ∈ whole.listed (.ofOwn own) () := by
  induction below with
  | here =>
      rw [listed_ofOwn]
      exact List.mem_append_left _ member
  | inside inParent _ induction =>
      rw [listed_ofOwn]
      exact List.mem_append_right _ (List.mem_flatMap.mpr ⟨_, inParent, induction⟩)

theorem mem_listed_of_contains {own : Node → List Entry} {entry : Entry} {node : Node}
    {tree : Tree} (contained : tree.Contains node) (member : entry ∈ own node) :
    entry ∈ tree.listed (.ofOwn own) () := by
  obtain ⟨top, inTree, below⟩ := contained
  exact List.mem_flatMap.mpr ⟨top, inTree, mem_listed_of_below below member⟩

theorem listed_core (own : Node → List Entry) (tag : StartTag) (children : List Node)
    (span : Span) : (tag.core children span).listed (.ofOwn own) () =
      own (tag.core children span) ++
        children.flatMap (Node.listed (.ofOwn own) ()) := by
  rw [listed_ofOwn, StartTag.inside_core]

/-- What is listed of a start tag: its branch, its node and what is inside of it. -/
theorem listed_ofTag {own : Node → List Entry}
    (noLoops : ∀ head children span, own (.loop head children span) = [])
    {tag : StartTag} {children : List Node} {span : Span} {node : Node}
    (made : Node.ofTag tag children span = .ok node) :
    node.listed (.ofOwn own) () =
      (tag.branch?.elim [] fun branch =>
        own (Node.ofBranch branch.1 branch.2 (tag.core children span) span)) ++
      (own (tag.core children span) ++
        children.flatMap (Node.listed (.ofOwn own) ())) := by
  obtain ⟨head, _, rfl⟩ := of_ofTag_eq_ok made
  rw [← listed_core]
  have inBranch :
      ((tag.core children span).inBranch tag.branch? span).listed (.ofOwn own) () =
        (tag.branch?.elim [] fun branch =>
          own (Node.ofBranch branch.1 branch.2 (tag.core children span) span)) ++
        (tag.core children span).listed (.ofOwn own) () := by
    cases tag.branch? with
    | none => rfl
    | some branch =>
        rw [Node.inBranch, listed_ofOwn]
        simp only [Node.ofBranch, Node.inside, Branch.children, List.flatMap_cons,
          List.flatMap_nil, List.append_nil, Option.elim_some]
  cases head with
  | none => exact inBranch
  | some head =>
      rw [Node.inLoop, listed_ofOwn, noLoops, List.nil_append, Node.inside,
        List.flatMap_cons, List.flatMap_nil, List.append_nil, inBranch]

theorem listed_filterMap {Selected : Type} (own : Node → List Entry)
    (select : Entry → Option Selected) (node : Node) :
    node.listed (.ofOwn fun node => (own node).filterMap select) () =
      (node.listed (.ofOwn own) ()).filterMap select := by
  induction node using Node.inside_induct with
  | step node induction =>
      rw [listed_ofOwn, listed_ofOwn, List.filterMap_append, List.filterMap_flatMap]
      exact congrArg (_ ++ ·) (List.flatMap_congr induction)

/-- A listing whose entries come from start tags. -/
structure ListsTags (own : Node → List Entry) (tagEntries : OpenedTag → List Entry) :
    Prop where
  leaf : ∀ {node : Node}, node.IsLeaf → own node = []
  tag : ∀ {tag children start stop node},
    Node.ofTag tag children ⟨start, stop⟩ = .ok node →
    node.listed (.ofOwn own) () =
      tagEntries ⟨tag, start⟩ ++ children.flatMap (Node.listed (.ofOwn own) ())

theorem ListsTags.ofText {own : Node → List Entry}
    {tagEntries : OpenedTag → List Entry}
    (lists : ListsTags own tagEntries) {source : String} {tree : Tree}
    (read : Tree.ofText source = .ok tree) :
    tree.listed (.ofOwn own) () = (startTags source).flatMap tagEntries := by
  have inOrder : ListsLexemes (Node.listed (.ofOwn own) ())
      fun lexeme => lexeme.opened?.elim [] tagEntries := by
    refine ⟨?_, ?_, fun made => lists.tag made⟩
    · intro lexeme isPassed
      rw [Lexeme.opened?_of_isPassed isPassed]
      rfl
    · intro lexeme node isLeaf
      rw [listed_ofOwn, lists.leaf (Lexeme.isLeaf_of_leaf? isLeaf),
        Lexeme.opened?_of_leaf? isLeaf]
      cases Lexeme.isLeaf_of_leaf? isLeaf <;> rfl
  rw [Tree.listed, (ofText_nested read).flatMap_eq inOrder, startTags]
  induction lexemes (Cursor.start source) with
  | nil => rfl
  | cons lexeme rest induction =>
      rw [List.flatMap_cons, induction, List.filterMap_cons]
      cases lexeme.opened? <;> rfl

/-! ## Arranged templates -/

/-- A function that sees neither how conditionals are joined nor that slot
content is moved. -/
structure SeesThrough (entries : Node → List Entry) : Prop where
  insignificant : ∀ {node}, node.isInsignificant = true → entries node = []
  joined : ∀ left right span leftSpan rightSpan,
    (entries (.conditional (left ++ right) span)).Perm
      (entries (.conditional left leftSpan) ++ entries (.conditional right rightSpan))
  slotTemplate : ∀ directives children span,
    entries (.slotTemplate directives children span) = children.flatMap entries

section

variable {entries : Node → List Entry} (sees : SeesThrough entries)
include sees

theorem flatMap_insignificant {gap : List Node}
    (insignificant : ∀ node ∈ gap, node.isInsignificant = true) :
    gap.flatMap entries = [] :=
  List.flatMap_eq_nil_iff.mpr fun node member =>
    sees.insignificant (insignificant node member)

theorem entries_extend {chain node : Node} {branches : List Branch} {span : Span}
    (continues : node.continuation? = some (branches, span))
    (isOpen : chain.isOpenChain = true) :
    (entries (chain.extend branches span)).Perm (entries chain ++ entries node) := by
  obtain ⟨own, ownSpan, rfl⟩ := exists_of_isOpenChain isOpen
  obtain rfl := eq_of_continuation? continues
  exact sees.joined own branches _ _ _

/-- Joining chains behind some nodes loses no entry; the gap since then has none. -/
theorem joinBehind_perm (done gap rest : List Node)
    (insignificant : ∀ node ∈ gap, node.isInsignificant = true) :
    ((joinBehind done gap rest).flatMap entries).Perm
      (done.reverse.flatMap entries ++ rest.flatMap entries) := by
  have noEntries : gap.reverse.flatMap entries = [] :=
    flatMap_insignificant sees fun node member =>
      insignificant node (List.mem_reverse.mp member)
  induction rest generalizing done gap with
  | nil =>
      rw [joinBehind, List.reverse_append, List.flatMap_append, noEntries]
      exact .refl _
  | cons node rest induction =>
      have apart : ((joinBehind (node :: (gap ++ done)) [] rest).flatMap entries).Perm
          (done.reverse.flatMap entries ++ (node :: rest).flatMap entries) := by
        refine (induction _ [] (by simp) rfl).trans ?_
        rw [List.reverse_cons, List.reverse_append, List.flatMap_append,
          List.flatMap_append, noEntries, List.append_nil, List.flatMap_cons,
          List.flatMap_cons, List.flatMap_nil, List.append_nil, List.append_assoc]
      rw [joinBehind.eq_def]
      dsimp only
      split
      · next blank =>
        have behind : ∀ other ∈ node :: gap, other.isInsignificant = true := by
          intro other member
          rcases List.mem_cons.mp member with rfl | member
          · exact blank
          · exact insignificant other member
        rw [List.flatMap_cons, sees.insignificant blank, List.nil_append]
        refine induction done (node :: gap) behind ?_
        rw [List.reverse_cons, List.flatMap_append, noEntries, List.flatMap_cons,
          sees.insignificant blank]
        rfl
      · split
        · next branches span chain before continues =>
          split
          · next isOpen =>
            refine (induction _ [] (by simp) rfl).trans ?_
            rw [List.reverse_cons, List.reverse_cons, List.flatMap_append,
              List.flatMap_append, List.flatMap_cons, List.flatMap_cons,
              List.flatMap_cons, List.flatMap_nil,
              List.append_nil, List.append_nil, List.append_assoc, List.append_assoc]
            have extended := (entries_extend sees continues isOpen).append_right
              (rest.flatMap entries)
            rw [List.append_assoc] at extended
            exact extended.append_left _
          · exact apart
        · exact apart

theorem joinChains_perm (siblings : List Node) :
    ((joinChains siblings).flatMap entries).Perm (siblings.flatMap entries) :=
  joinBehind_perm sees [] [] siblings (by simp)

theorem joined_perm {Holder : Type} {joined : Holder → Holder}
    {content source : Holder → List Node}
    (joins : ∀ holder, content (joined holder) = joinChains (source holder))
    (holders : List Holder) :
    (((holders.map joined).flatMap content).flatMap entries).Perm
      ((holders.flatMap source).flatMap entries) := by
  induction holders with
  | nil => exact .refl _
  | cons holder rest induction =>
      rw [List.map_cons, List.flatMap_cons, List.flatMap_append, List.flatMap_cons,
        List.flatMap_append, joins]
      exact (joinChains_perm sees (source holder)).append induction

theorem entries_of_slot? {node : Node} {slot : Slot} (gives : node.slot? = some slot) :
    entries node = slot.children.flatMap entries := by
  cases node with
  | slotTemplate directives children span =>
      obtain ⟨directive, _, rfl⟩ := Option.map_eq_some_iff.mp gives
      exact sees.slotTemplate directives children span
  | _ => contradiction

theorem partition_perm (nodes : List Node) :
    (((nodes.filter fun node => node.slot?.isNone).flatMap entries) ++
      ((nodes.filterMap Node.slot?).flatMap Slot.children).flatMap entries).Perm
        (nodes.flatMap entries) := by
  induction nodes with
  | nil => exact .refl _
  | cons node rest induction =>
      cases gives : node.slot? with
      | none =>
          rw [List.filter_cons_of_pos (by rw [gives]; rfl),
            List.filterMap_cons_none gives, List.flatMap_cons, List.flatMap_cons,
            List.append_assoc]
          exact induction.append_left (entries node)
      | some slot =>
          rw [List.filter_cons_of_neg (by rw [gives]; exact Bool.false_ne_true),
            List.filterMap_cons_some gives, List.flatMap_cons, List.flatMap_append,
            List.flatMap_cons, entries_of_slot? sees gives]
          refine List.perm_append_comm_assoc _ _ _ |>.trans ?_
          exact induction.append_left _

/-- Moving slot content to the slots of a component loses no entry. -/
theorem collectSlots_perm (tag : StartTag) (children : List Node) (span : Span) :
    ((collectSlots tag children span).children.flatMap entries ++
      ((collectSlots tag children span).slots.flatMap Slot.children).flatMap
        entries).Perm (children.flatMap entries) := by
  refine List.Perm.trans ?_ (partition_perm sees children)
  rcases taken : tag.takeDirective? "slot" with ⟨_ | own, rest⟩
  · simp only [collectSlots, taken]
    exact .refl _
  · simp only [collectSlots, taken, List.flatMap_nil, List.nil_append,
      List.flatMap_append, List.flatMap_cons, List.append_nil, Slot.children]
    exact List.perm_append_comm

theorem inside_arranged_perm (node : Node) :
    (node.arranged.inside.flatMap entries).Perm
      ((node.inside.map Node.arranged).flatMap entries) := by
  cases node with
  | text content span => exact .refl _
  | interpolation expression span => exact .refl _
  | comment content span => exact .refl _
  | loop head children span =>
      rw [Node.arranged, arrangedEach_eq_map]
      exact joinChains_perm sees _
  | outlet outlet fallback span =>
      rw [Node.arranged, arrangedEach_eq_map]
      exact joinChains_perm sees _
  | slotTemplate directives children span =>
      rw [Node.arranged, arrangedEach_eq_map]
      exact joinChains_perm sees _
  | conditional branches span =>
      rw [Node.arranged, arrangedBranches_eq_map]
      rw [Node.inside, Node.inside, List.map_flatMap]
      exact joined_perm sees Branch.children_arranged branches
  | element tag children slots span =>
      have inSlots :
          (((slots.map Slot.arranged).flatMap Slot.children).flatMap entries).Perm
            (((slots.flatMap Slot.children).map Node.arranged).flatMap entries) := by
        rw [List.map_flatMap]
        exact joined_perm sees Slot.children_arranged slots
      rw [Node.arranged, arrangedEach_eq_map, arrangedSlots_eq_map]
      dsimp only
      split
      · -- Slot content moves behind the slots that the component already has.
        have moved := collectSlots_perm sees tag (children.map Node.arranged) span
        generalize collectSlots tag (children.map Node.arranged) span =
          collected at moved ⊢
        have kept := joinChains_perm sees collected.children
        have filled := joined_perm sees Slot.children_joined collected.slots
        simp only [Node.inside, List.flatMap_append, List.map_append]
        refine (kept.append (inSlots.append filled)).trans ?_
        refine (List.perm_append_comm.append_left _).trans ?_
        rw [← List.append_assoc]
        exact moved.append_right _
      · rw [Node.inside, Node.inside, List.flatMap_append, List.map_append,
          List.flatMap_append]
        exact (joinChains_perm sees _).append inSlots

end

/-- A listing whose entries are only changed by arranging, at nodes with a property. -/
structure Listing.Arranges (listing : Listing Scope Entry) (property : Node → Prop)
    (change : Entry → Entry) : Prop where
  insignificant : ∀ {scope node}, node.isInsignificant = true →
    listing.own scope node = []
  joined : ∀ scope left right span leftSpan rightSpan,
    listing.own scope (.conditional (left ++ right) span) =
      listing.own scope (.conditional left leftSpan) ++
        listing.own scope (.conditional right rightSpan)
  below_conditional : ∀ scope branches span,
    listing.below scope (.conditional branches span) = some scope
  own_slotTemplate : ∀ scope directives children span,
    listing.own scope (.slotTemplate directives children span) = []
  below_slotTemplate : ∀ scope directives children span,
    listing.below scope (.slotTemplate directives children span) = some scope
  own_arranged : ∀ scope {node}, property node →
    listing.own scope node.arranged = (listing.own scope node).map change
  below_arranged :
    ∀ scope node, listing.below scope node.arranged = listing.below scope node

namespace Listing.Arranges

variable {listing : Listing Scope Entry} {property : Node → Prop}
  {change : Entry → Entry} (arranges : listing.Arranges property change)
include arranges

theorem seesThrough (scope : Scope) : SeesThrough (Node.listed listing scope) where
  insignificant := by
    intro node insignificant
    have nothingInside : node.inside = [] := by
      cases node with
      | text => rfl
      | comment => rfl
      | _ => contradiction
    rw [Node.listed_eq, arranges.insignificant insignificant, nothingInside]
    cases listing.below scope node <;> rfl
  joined := by
    intro left right span leftSpan rightSpan
    simp only [Node.listed_eq,
      arranges.joined scope left right span leftSpan rightSpan,
      arranges.below_conditional, Option.elim_some, Node.inside, List.flatMap_append,
      List.append_assoc]
    exact (List.perm_append_comm_assoc _ _ _).append_left _
  slotTemplate := by
    intro directives children span
    rw [Node.listed_eq, arranges.own_slotTemplate, arranges.below_slotTemplate]
    rfl

theorem node_perm {node : Node} (throughout : node.Throughout property)
    (scope : Scope) :
    (node.arranged.listed listing scope).Perm
      ((node.listed listing scope).map change) := by
  induction node using Node.inside_induct generalizing scope with
  | step node induction =>
      -- The scope below a node is that below the arranged node, so one induction
      -- serves both.
      rw [Node.listed_eq, Node.listed_eq listing scope node, arranges.below_arranged,
        arranges.own_arranged scope throughout.here, List.map_append]
      cases listing.below scope node with
      | none => exact .refl _
      | some inner =>
          refine List.Perm.append_left _ ?_
          refine (inside_arranged_perm (arranges.seesThrough inner) node).trans ?_
          rw [Option.elim_some, List.map_flatMap, List.flatMap_map]
          refine List.Perm.flatMap_left _ ?_
          intro child member
          exact induction child member (throughout.inside child member) inner

/-- Arranging a template only reorders its listing. -/
theorem tree_perm {tree : Tree}
    (throughout : ∀ node ∈ tree.children, node.Throughout property) (scope : Scope) :
    (tree.arranged.listed listing scope).Perm
      ((tree.listed listing scope).map change) := by
  refine (joinChains_perm (arranges.seesThrough scope) _).trans ?_
  rw [arrangedEach_eq_map, Tree.listed, List.map_flatMap, List.flatMap_map]
  refine List.Perm.flatMap_left _ ?_
  intro node member
  exact arranges.node_perm (throughout node member) scope

end Listing.Arranges

theorem Listing.Arranges.tree_perm_of_all {listing : Listing Scope Entry}
    {change : Entry → Entry} (arranges : listing.Arranges (fun _ => True) change)
    (tree : Tree) (scope : Scope) :
    (tree.arranged.listed listing scope).Perm
      ((tree.listed listing scope).map change) :=
  arranges.tree_perm (fun node _ =>
    Node.Throughout.of_forall (fun _ => trivial) node) scope

end VuePrecompiler.Template
