import VuePrecompiler.Proofs.ArrangedSiblings
import VuePrecompiler.Proofs.Pieces

/-!
# Pieces kept by joining chains

Joining the chains among siblings keeps all pieces, but for the comments and
the blank text between two branches of a chain.  Whatever lies between two
branches below the siblings still does so afterwards, so this composes over
the levels of a template.
-/

namespace VuePrecompiler.Template

open Source

/-! ## Gaps -/

/-- A span between two branches that follow each other. -/
def LiesBetween (branches : List Branch) (span : Span) : Prop :=
  ∃ before first second after, branches = before ++ first :: second :: after ∧
    first.span.stop ≤ span.start ∧ span.stop ≤ second.span.start

/-- A span between two branches of a chain that is a node or stands below it. -/
def Node.HasGap (node : Node) (span : Span) : Prop :=
  ∃ branches whole, (Node.conditional branches whole).Below node ∧
    LiesBetween branches span

def HaveGap (nodes : List Node) (span : Span) : Prop :=
  ∃ node ∈ nodes, node.HasGap span

/-- A span between two branches of a chain in a template. -/
def Tree.HasGap (tree : Tree) (span : Span) : Prop :=
  HaveGap tree.children span

theorem Node.HasGap.of_inside {node : Node} {span : Span}
    (gap : HaveGap node.inside span) : node.HasGap span := by
  obtain ⟨child, member, branches, whole, below, lies⟩ := gap
  exact ⟨branches, whole, .inside member below, lies⟩

theorem HaveGap.subset {nodes others : List Node} {span : Span}
    (gap : HaveGap nodes span) (part : nodes ⊆ others) : HaveGap others span := by
  obtain ⟨node, member, has⟩ := gap
  exact ⟨node, part member, has⟩

/-- All pieces are kept, but for comments and blank text in the gaps. -/
def Keeps (gaps : Span → Prop) (before after : List Held) : Prop :=
  ∃ removed, before.Perm (after ++ removed) ∧
    ∀ held ∈ removed, held.piece.isInsignificant = true ∧ gaps held.piece.span

namespace Keeps

variable {Item : Type} {gaps wider : Span → Prop}
  {first second third others : List Held}

theorem of_perm (same : first.Perm second) : Keeps gaps first second :=
  ⟨[], by rwa [List.append_nil], by simp⟩

theorem refl (pieces : List Held) : Keeps gaps pieces pieces :=
  of_perm (.refl pieces)

theorem mono (keeps : Keeps gaps first second)
    (widen : ∀ span, gaps span → wider span) : Keeps wider first second := by
  obtain ⟨removed, same, inGaps⟩ := keeps
  exact ⟨removed, same, fun held member =>
    ⟨(inGaps held member).1, widen _ (inGaps held member).2⟩⟩

theorem trans (near : Keeps gaps first second) (far : Keeps gaps second third) :
    Keeps gaps first third := by
  obtain ⟨removed, same, inGaps⟩ := near
  obtain ⟨later, sameLater, laterInGaps⟩ := far
  refine ⟨later ++ removed, ?_, List.forall_mem_append.mpr ⟨laterInGaps, inGaps⟩⟩
  rw [← List.append_assoc]
  exact same.trans (sameLater.append_right removed)

theorem append (left : Keeps gaps first second) (right : Keeps gaps third others) :
    Keeps gaps (first ++ third) (second ++ others) := by
  obtain ⟨removed, same, inGaps⟩ := left
  obtain ⟨later, sameLater, laterInGaps⟩ := right
  refine ⟨removed ++ later, ?_, List.forall_mem_append.mpr ⟨inGaps, laterInGaps⟩⟩
  refine (same.append sameLater).trans ?_
  rw [List.append_assoc, List.append_assoc]
  exact (List.perm_append_comm_assoc removed others later).append_left second

theorem cons (held : Held) (keeps : Keeps gaps first second) :
    Keeps gaps (held :: first) (held :: second) :=
  (refl [held]).append keeps

theorem flatMap {items : List Item} {before after : Item → List Held}
    (each : ∀ item ∈ items, Keeps gaps (before item) (after item)) :
    Keeps gaps (items.flatMap before) (items.flatMap after) := by
  induction items with
  | nil => exact refl []
  | cons item rest induction =>
      obtain ⟨here, later⟩ := List.forall_mem_cons.mp each
      rw [List.flatMap_cons, List.flatMap_cons]
      exact here.append (induction later)

end Keeps

/-! ## Joined siblings -/

section

variable (holder : Option Piece) {gaps : Span → Prop}

theorem gap_keeps {gap : List Node}
    (insignificant : ∀ node ∈ gap, node.isInsignificant = true)
    (inGap : ∀ node ∈ gap, gaps node.span) :
    Keeps gaps (gap.flatMap (Node.pieces holder)) [] := by
  refine ⟨gap.flatMap (Node.pieces holder), .refl _, ?_⟩
  intro held member
  obtain ⟨node, inList, member⟩ := List.mem_flatMap.mp member
  obtain ⟨piece, only, isInsignificant, span⟩ :=
    pieces_insignificant holder (insignificant node inList)
  rw [only] at member
  obtain rfl := List.mem_singleton.mp member
  exact ⟨isInsignificant, span ▸ inGap node inList⟩

/-- A gap and the branch behind it keep the branch. -/
theorem gap_branch_keeps {gap rest : List Node} {branch : Branch}
    {branches : List Branch} {span : Span}
    (insignificant : ∀ node ∈ gap, node.isInsignificant = true)
    (inGap : ∀ node ∈ gap, gaps node.span)
    (later : Keeps gaps (rest.flatMap (Node.pieces holder))
      (branches.flatMap (Branch.pieces holder))) :
    Keeps gaps ((gap ++ .conditional [branch] span :: rest).flatMap
      (Node.pieces holder)) ((branch :: branches).flatMap (Branch.pieces holder)) := by
  have removed : Keeps gaps (gap.flatMap (Node.pieces holder)) [] :=
    gap_keeps holder insignificant inGap
  rw [List.flatMap_append, List.flatMap_cons, List.flatMap_cons, pieces_conditional,
    List.flatMap_singleton]
  exact removed.append ((Keeps.refl _).append later)

/-- What follows in a chain keeps its branches; `previous` is the branch in front. -/
theorem ChainRest.keeps {front whole : Span} {written : List Node}
    {branches : List Branch} (continued : ChainRest front written branches whole)
    (spans : ∀ node ∈ written, node.HasBranchSpan) (ordered : AreInOrder written)
    (own : List Branch) (previous : Branch)
    (behind : ∀ node ∈ written, previous.span.stop ≤ node.span.start) :
    Keeps (LiesBetween (own ++ previous :: branches))
      (written.flatMap (Node.pieces holder))
      (branches.flatMap (Branch.pieces holder)) := by
  induction continued generalizing own previous with
  | nil => exact .refl []
  | @elseIf front span whole gap rest branch branches insignificant _ _ induction =>
      obtain ⟨_, spansLater⟩ := List.forall_mem_append.mp spans
      obtain ⟨spanHere, spansRest⟩ := List.forall_mem_cons.mp spansLater
      obtain ⟨_, orderedLater, apart⟩ := List.pairwise_append.mp ordered
      obtain ⟨behindBranch, orderedRest⟩ := List.pairwise_cons.mp orderedLater
      have same : branch.span = span := spanHere branch (List.mem_singleton_self _)
      have inGap : ∀ node ∈ gap,
          LiesBetween (own ++ previous :: branch :: branches) node.span := by
        intro node member
        refine ⟨own, previous, branch, branches, rfl, ?_, ?_⟩
        · exact behind node (List.mem_append_left _ member)
        · rw [same]
          exact apart node member _ List.mem_cons_self
      have later := induction spansRest orderedRest (own ++ [previous]) branch
        fun node member => same ▸ behindBranch node member
      rw [List.append_assoc, List.singleton_append] at later
      exact gap_branch_keeps holder insignificant inGap later
  | @last front span gap branch insignificant _ =>
      obtain ⟨_, spansLater⟩ := List.forall_mem_append.mp spans
      have same : branch.span = span :=
        spansLater _ (List.mem_singleton_self _) branch (List.mem_singleton_self _)
      obtain ⟨_, _, apart⟩ := List.pairwise_append.mp ordered
      have inGap :
          ∀ node ∈ gap, LiesBetween (own ++ [previous, branch]) node.span := by
        intro node member
        refine ⟨own, previous, branch, [], rfl, ?_, ?_⟩
        · exact behind node (List.mem_append_left _ member)
        · rw [same]
          exact apart node member _ List.mem_cons_self
      exact gap_branch_keeps holder insignificant inGap (.refl [])

theorem Joins.keeps {siblings joined : List Node} (joins : Joins siblings joined)
    (spans : ∀ node ∈ siblings, node.HasBranchSpan) (ordered : AreInOrder siblings) :
    Keeps (HaveGap joined) (siblings.flatMap (Node.pieces holder))
      (joined.flatMap (Node.pieces holder)) := by
  induction joins with
  | nil => exact .refl []
  | @kept node rest joined _ _ induction =>
      have later :=
        induction (List.forall_mem_cons.mp spans).2 (List.pairwise_cons.mp ordered).2
      rw [List.flatMap_cons, List.flatMap_cons]
      refine (Keeps.refl _).append (later.mono fun span gap => ?_)
      exact gap.subset (List.subset_cons_self node joined)
  | @chain branch branches span whole written rest joined _ continued _ induction =>
      obtain ⟨spanHere, spansLater⟩ := List.forall_mem_cons.mp spans
      obtain ⟨spansWritten, spansRest⟩ := List.forall_mem_append.mp spansLater
      obtain ⟨behind, orderedLater⟩ := List.pairwise_cons.mp ordered
      obtain ⟨orderedWritten, orderedRest, _⟩ := List.pairwise_append.mp orderedLater
      have same : branch.span = span := spanHere branch (List.mem_singleton_self _)
      have inChain := continued.keeps holder spansWritten orderedWritten [] branch
        fun node member => same ▸ behind node (List.mem_append_left rest member)
      have later := induction spansRest orderedRest
      rw [List.flatMap_cons, List.flatMap_append, List.flatMap_cons,
        pieces_conditional, pieces_conditional, List.flatMap_singleton,
        List.flatMap_cons, List.append_assoc]
      refine (Keeps.refl _).append (.append ?_ ?_)
      · refine inChain.mono fun gap lies => ?_
        exact ⟨_, List.mem_cons_self, _, whole, .here, lies⟩
      · exact later.mono fun gap has => has.subset (List.subset_cons_self _ joined)

end

theorem ChainRest.inside {front whole : Span} {written : List Node}
    {branches : List Branch} (continued : ChainRest front written branches whole)
    {node child : Node} (member : node ∈ written) (inNode : child ∈ node.inside) :
    ∃ branch ∈ branches, child ∈ branch.children := by
  have empty {other : Node} (insignificant : other.isInsignificant = true) :
      child ∉ other.inside := by
    cases other with
    | text => simp [Node.inside]
    | comment => simp [Node.inside]
    | _ => contradiction
  have inBranch {branch : Branch} {span : Span}
      (inside : child ∈ (Node.conditional [branch] span).inside) :
      child ∈ branch.children := by
    simpa [Node.inside] using inside
  induction continued with
  | nil => contradiction
  | elseIf insignificant _ _ induction =>
      rcases List.mem_append.mp member with inGap | member
      · exact absurd inNode (empty (insignificant node inGap))
      · rcases List.mem_cons.mp member with rfl | inRest
        · exact ⟨_, List.mem_cons_self, inBranch inNode⟩
        · obtain ⟨branch, given, held⟩ := induction inRest
          exact ⟨branch, List.mem_cons_of_mem _ given, held⟩
  | last insignificant _ =>
      rcases List.mem_append.mp member with inGap | member
      · exact absurd inNode (empty (insignificant node inGap))
      · obtain rfl := List.mem_singleton.mp member
        exact ⟨_, List.mem_cons_self, inBranch inNode⟩

/-- What is inside of siblings is inside of the joined siblings. -/
theorem Joins.inside {siblings joined : List Node} (joins : Joins siblings joined)
    {node child : Node} (member : node ∈ siblings) (inNode : child ∈ node.inside) :
    ∃ top ∈ joined, child ∈ top.inside := by
  induction joins with
  | nil => contradiction
  | kept _ _ induction =>
      rcases List.mem_cons.mp member with rfl | inRest
      · exact ⟨_, List.mem_cons_self, inNode⟩
      · obtain ⟨top, given, held⟩ := induction inRest
        exact ⟨top, List.mem_cons_of_mem _ given, held⟩
  | @chain branch branches span whole written rest joined _ continued _ induction =>
      rcases List.mem_cons.mp member with rfl | member
      · refine ⟨_, List.mem_cons_self, ?_⟩
        rw [Node.inside, List.flatMap_singleton] at inNode
        exact List.mem_append_left _ inNode
      · rcases List.mem_append.mp member with inWritten | inRest
        · obtain ⟨other, given, held⟩ := continued.inside inWritten inNode
          refine ⟨_, List.mem_cons_self, ?_⟩
          exact List.mem_flatMap.mpr ⟨other, List.mem_cons_of_mem _ given, held⟩
        · obtain ⟨top, given, held⟩ := induction inRest
          exact ⟨top, List.mem_cons_of_mem _ given, held⟩

/-- Single branches have no gap, so the gaps of siblings are still there
when they are joined. -/
theorem Joins.haveGap {siblings joined : List Node} (joins : Joins siblings joined)
    (single : ∀ node ∈ siblings, node.IsSingle) {span : Span}
    (gap : HaveGap siblings span) : HaveGap joined span := by
  obtain ⟨node, member, branches, whole, below, lies⟩ := gap
  cases below with
  | here =>
      obtain ⟨branch, rfl⟩ := single _ member
      obtain ⟨before, first, second, after, shape, _⟩ := lies
      have lengths := congrArg List.length shape
      simp only [List.length_append, List.length_cons, List.length_nil] at lengths
      omega
  | inside inNode below =>
      obtain ⟨top, given, held⟩ := joins.inside member inNode
      exact ⟨top, given, branches, whole, .inside held below, lies⟩

theorem AreReady.keeps {siblings : List Node} (ready : AreReady siblings)
    {holder : Option Piece}
    (each : ∀ node ∈ siblings,
      Keeps node.arranged.HasGap (node.pieces holder) (node.arranged.pieces holder)) :
    Keeps (HaveGap (joinChains (siblings.map Node.arranged)))
      (siblings.flatMap (Node.pieces holder))
      ((joinChains (siblings.map Node.arranged)).flatMap (Node.pieces holder)) := by
  have written : ∀ node ∈ siblings.map Node.arranged, node.IsSingle ∧
      node.HasBranchSpan := by
    intro node member
    obtain ⟨given, inSiblings, rfl⟩ := List.mem_map.mp member
    exact (ready.each given inSiblings).here.written.arranged
  have ordered : AreInOrder (siblings.map Node.arranged) := by
    refine List.pairwise_map.mpr (ready.ordered.imp fun before => ?_)
    rw [Node.span_arranged, Node.span_arranged]
    exact before
  have below : Keeps (HaveGap (joinChains (siblings.map Node.arranged)))
      (siblings.flatMap (Node.pieces holder))
      ((siblings.map Node.arranged).flatMap (Node.pieces holder)) := by
    rw [List.flatMap_map]
    refine Keeps.flatMap fun node member => (each node member).mono fun span gap => ?_
    refine ready.joins.haveGap (fun other given => (written other given).1) ?_
    exact ⟨node.arranged, List.mem_map_of_mem member, gap⟩
  exact below.trans (ready.joins.keeps holder (fun node member =>
    (written node member).2) ordered)

end VuePrecompiler.Template
