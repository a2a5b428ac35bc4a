import VuePrecompiler.Proofs.ArrangedNodes
import VuePrecompiler.Proofs.Nesting

/-!
# The shape of loops and conditionals

A loop and a branch of a conditional could hold any list of nodes.  Read from
a template they hold one node, and after arranging they still do, with
`v-else` in the last branch of its conditional only.  So nothing is lost by
the generator, which takes the first node of a loop or a branch.
-/

namespace VuePrecompiler.Template

open Source

inductive Node.IsElement : Node → Prop where
  | mk (tag : StartTag) (children : List Node) (slots : List Slot) (span : Span) :
      Node.IsElement (.element tag children slots span)

inductive Node.IsConditional : Node → Prop where
  | mk (branches : List Branch) (span : Span) :
      Node.IsConditional (.conditional branches span)

def Branch.HoldsElement (branch : Branch) : Prop :=
  ∃ element : Node, branch.children = [element] ∧ element.IsElement

/-- A fragment has no slots. -/
def IsFragmentShaped (tag : StartTag) (slots : List Slot) : Prop :=
  tag.name = "template" → tag.takesSlots = false ∧ slots = []

/-- One node in a loop, one element in a branch, no branch behind `v-else`, and no
slots in a fragment. -/
def Node.IsShaped : Node → Prop
  | .element tag _ slots _ => IsFragmentShaped tag slots
  | .loop _ children _ =>
    ∃ body : Node, children = [body] ∧ (body.IsElement ∨ body.IsConditional)
  | .conditional branches _ =>
    (∀ branch ∈ branches, branch.HoldsElement) ∧
      branches.Pairwise fun before _ => before.kind ≠ .last
  | _ => True

/-! ## What is read is shaped -/

section

variable {tag : StartTag} {children : List Node} {span : Span}

theorem core_isElement (shaped : tag.isShaped = true) :
    (tag.core children span).IsElement := by
  rw [StartTag.core, if_pos shaped]
  exact .mk _ _ _ _

theorem core_throughout (plain : IsFragmentShaped tag [])
    (held : ∀ child ∈ children, child.Throughout Node.IsShaped) :
    (tag.core children span).Throughout Node.IsShaped := by
  have inElement : ∀ child ∈ children ++ [].flatMap Slot.children,
      child.Throughout Node.IsShaped := by
    rw [List.flatMap_nil, List.append_nil]
    exact held
  exact tag.core_cases children span (.intro plain inElement) (.intro trivial held)
    fun _ => .intro trivial held

theorem isShaped_of_branch? {branch : BranchKind × Option Code}
    (asked : tag.branch? = some branch) : tag.isShaped = true := by
  unfold StartTag.branch? at asked
  split at asked
  · next given => exact isShaped_of_directive? (by decide) (given ▸
      Option.some_ne_none _)
  · split at asked
    · contradiction
    · split at asked
      · next given => exact isShaped_of_directive? (by decide) (given ▸
          Option.some_ne_none _)
      · obtain ⟨directive, given, _⟩ := Option.map_eq_some_iff.mp asked
        exact isShaped_of_directive? (by decide) (given ▸ Option.some_ne_none _)

theorem isShaped_of_loop? {head : LoopHead} (asked : tag.loop? = .ok (some head)) :
    tag.isShaped = true := by
  unfold StartTag.loop? at asked
  split at asked
  · next given => exact isShaped_of_directive? (by decide) (given ▸
      Option.some_ne_none _)
  · cases asked

theorem ofTag_throughout {node : Node} (made : Node.ofTag tag children span = .ok node)
    (plain : IsFragmentShaped tag [])
    (held : ∀ child ∈ children, child.Throughout Node.IsShaped) :
    node.Throughout Node.IsShaped := by
  obtain ⟨head, asked, rfl⟩ := of_ofTag_eq_ok made
  have core : (tag.core children span).Throughout Node.IsShaped :=
    core_throughout plain held
  have inBranch :
      ((tag.core children span).inBranch tag.branch? span).Throughout Node.IsShaped ∧
      (tag.isShaped = true →
        ((tag.core children span).inBranch tag.branch? span).IsElement ∨
        ((tag.core children span).inBranch tag.branch? span).IsConditional) := by
    cases branch : tag.branch? with
    | none => exact ⟨core, fun shaped => .inl (core_isElement shaped)⟩
    | some asked =>
        have element : (tag.core children span).IsElement :=
          core_isElement (isShaped_of_branch? branch)
        refine ⟨.intro ⟨?_, List.pairwise_singleton _ _⟩ ?_, fun _ => .inr (.mk _ _)⟩
        · intro only member
          obtain rfl := List.mem_singleton.mp member
          exact ⟨_, rfl, element⟩
        · intro child member
          obtain rfl : child = tag.core children span := by
            simpa [Node.inBranch, Node.ofBranch, Node.inside, Branch.children]
              using member
          exact core
  cases head with
  | none => exact inBranch.1
  | some head =>
      refine .intro ⟨_, rfl, inBranch.2 (isShaped_of_loop? asked)⟩ ?_
      intro child member
      obtain rfl := List.mem_singleton.mp member
      exact inBranch.1

end

theorem isFragmentShaped_ofSource (name : String) (source : List SourceAttribute) :
    IsFragmentShaped (StartTag.ofSource name source) [] := by
  intro named
  obtain rfl : name = "template" := named
  refine ⟨?_, rfl⟩
  have known : isComponentTag "template" = false := by decide
  simp [StartTag.takesSlots, StartTag.ofSource, known]

theorem leaf_throughout {node : Node} (isLeaf : node.IsLeaf) :
    node.Throughout Node.IsShaped := by
  cases isLeaf with
  | _ => exact .intro trivial (by simp [Node.inside])

theorem Nested.throughout {lexemes : List Lexeme} {nodes : List Node}
    (nested : Nested lexemes nodes) :
    ∀ node ∈ nodes, node.Throughout Node.IsShaped := by
  induction nested with
  | nil => simp
  | passed _ _ induction => exact induction
  | leaf isLeaf _ induction =>
      intro node member
      rcases List.mem_cons.mp member with rfl | member
      · exact leaf_throughout (Lexeme.isLeaf_of_leaf? isLeaf)
      · exact induction node member
  | tag _ made _ inner rest =>
      intro node member
      rcases List.mem_cons.mp member with rfl | member
      · exact ofTag_throughout made (isFragmentShaped_ofSource _ _) inner
      · exact rest node member

/-! ## What is arranged is shaped -/

theorem Node.IsElement.arranged {node : Node} (isElement : node.IsElement) :
    node.arranged.IsElement := by
  cases isElement with
  | mk tag children slots span =>
      obtain ⟨inner, filled, same⟩ := exists_arranged_element tag children slots span
      exact same ▸ .mk _ _ _ _

theorem Node.IsConditional.arranged {node : Node}
    (isConditional : node.IsConditional) : node.arranged.IsConditional := by
  cases isConditional with
  | mk branches span =>
      rw [Node.arranged]
      exact .mk _ _

theorem Branch.HoldsElement.arranged {branch : Branch} (holds : branch.HoldsElement) :
    branch.arranged.HoldsElement := by
  obtain ⟨element, content, isElement⟩ := holds
  refine ⟨element.arranged, ?_, isElement.arranged⟩
  rw [Branch.children_arranged, content, List.map_singleton, joinChains_singleton]

theorem Node.IsShaped.arranged {node : Node} (shaped : node.IsShaped) :
    node.arranged.IsShaped := by
  cases node with
  | text => trivial
  | interpolation => trivial
  | comment => trivial
  | outlet => trivial
  | slotTemplate => trivial
  | element tag children slots span =>
      rw [Node.arranged, arrangedSlots_eq_map]
      dsimp only
      split
      · next takes =>
        rw [collectSlots_tag]
        intro named
        exact absurd takes (Bool.eq_false_iff.mp (shaped named).1)
      · intro named
        exact ⟨(shaped named).1, by rw [(shaped named).2, List.map_nil]⟩
  | loop head children span =>
      obtain ⟨body, rfl, content⟩ := shaped
      rw [Node.arranged, arrangedEach_eq_map, List.map_singleton, joinChains_singleton]
      exact ⟨body.arranged, rfl, content.imp IsElement.arranged IsConditional.arranged⟩
  | conditional branches span =>
      rw [Node.arranged, arrangedBranches_eq_map]
      constructor
      · intro branch member
        obtain ⟨given, inBranches, rfl⟩ := List.mem_map.mp member
        exact (shaped.1 given inBranches).arranged
      · exact List.pairwise_map.mpr shaped.2

theorem kind_ne_last_of_isOpenChain {branches : List Branch} {span : Span}
    (isOpen : (Node.conditional branches span).isOpenChain = true)
    (ordered : branches.Pairwise fun before _ => before.kind ≠ .last) :
    ∀ branch ∈ branches, branch.kind ≠ .last := by
  obtain ⟨final, isFinal, notLast⟩ := (Option.any_eq_true _ _).mp isOpen
  obtain ⟨before, rfl⟩ := List.getLast?_eq_some_iff.mp isFinal
  intro branch member
  rcases List.mem_append.mp member with earlier | same
  · exact (List.pairwise_append.mp ordered).2.2 branch earlier final (by simp)
  · obtain rfl := List.mem_singleton.mp same
    exact of_decide_eq_true notLast

theorem isShaped_keptByJoining : KeptByJoining Node.IsShaped := by
  intro left right span leftSpan rightSpan isOpen shapedLeft shapedRight
  constructor
  · intro branch member
    exact (List.mem_append.mp member).elim (shapedLeft.1 branch) (shapedRight.1 branch)
  · refine List.pairwise_append.mpr ⟨shapedLeft.2, shapedRight.2, ?_⟩
    intro branch member _ _
    exact kind_ne_last_of_isOpenChain isOpen shapedLeft.2 branch member

theorem arrange_eq_ok {tree arranged : Tree} (arranges : tree.arrange = .ok arranged) :
    tree.fault? = none ∧ arranged = tree.arranged := by
  unfold Tree.arrange at arranges
  split at arranges
  · contradiction
  · next noFault => exact ⟨noFault, (Except.ok.inj arranges).symm⟩

theorem Tree.arranged_isShaped {source : String} {tree : Tree}
    (read : Tree.ofText source = .ok tree) {node : Node}
    (contained : tree.arranged.Contains node) : node.IsShaped := by
  obtain ⟨top, inTree, below⟩ := contained
  have throughout := Tree.throughout_arranged isShaped_keptByJoining.merging
    (fun _ shaped => shaped.arranged) (ofText_nested read).throughout
  exact (throughout top inTree).of_below below

end VuePrecompiler.Template
