import VuePrecompiler.Proofs.Faults

/-!
# The grammar of conditional chains

`Joins` describes siblings and what they become by the grammar of a chain:
`v-if`, any number of `v-else-if`, and at most one `v-else`, with nothing but
comments and blank text between them.  A chain begins with `v-if`, and no
branch is left outside of a chain, so every chain is as long as it can be.

Joining accepts exactly these siblings and makes exactly this of them.  Others
have a branch that continues no chain, and the first one is reported.
-/

namespace VuePrecompiler.Template

open Source

/-- Every branch is a node of its own, as a template is read. -/
def Node.IsSingle : Node → Prop
  | .conditional branches _ => ∃ branch, branches = [branch]
  | _ => True

/-- The branch that a node is before chains are joined. -/
def Node.branchKind? : Node → Option BranchKind
  | .conditional [branch] _ => some branch.kind
  | _ => none

/-- What follows in a chain: its nodes, their branches, and the span of the whole
chain, which begins with the span of what is in front. -/
inductive ChainRest : Span → List Node → List Branch → Span → Prop where
  | nil (span : Span) : ChainRest span [] [] span
  | elseIf {front span whole : Span} {gap rest : List Node} {branch : Branch}
      {branches : List Branch} :
      (∀ node ∈ gap, node.isInsignificant = true) → branch.kind = .elseIf →
      ChainRest (front.merge span) rest branches whole →
      ChainRest front (gap ++ .conditional [branch] span :: rest)
        (branch :: branches) whole
  | last {front span : Span} {gap : List Node} {branch : Branch} :
      (∀ node ∈ gap, node.isInsignificant = true) → branch.kind = .last →
      ChainRest front (gap ++ [.conditional [branch] span]) [branch] (front.merge span)

/-- Siblings, and the same siblings with each chain as one node. -/
inductive Joins : List Node → List Node → Prop where
  | nil : Joins [] []
  | kept {node : Node} {rest joined : List Node} :
      (∀ branches span, node ≠ .conditional branches span) → Joins rest joined →
      Joins (node :: rest) (node :: joined)
  | chain {branch : Branch} {branches : List Branch} {span whole : Span}
      {written rest joined : List Node} :
      branch.kind = .first → ChainRest span written branches whole →
        Joins rest joined →
      Joins (.conditional [branch] span :: (written ++ rest))
        (.conditional (branch :: branches) whole :: joined)

/-! ## Branches as nodes -/

theorem continuation?_single {branch : Branch} {span : Span} :
    (Node.conditional [branch] span).continuation? =
      if branch.kind = .first then none else some ([branch], span) := rfl

theorem isOpenChain_concat {branches : List Branch} {branch : Branch} {span : Span} :
    (Node.conditional (branches ++ [branch]) span).isOpenChain = true ↔
      branch.kind ≠ .last := by
  simp [Node.isOpenChain]

theorem continuation?_of_not_conditional {node : Node}
    (plain : ∀ branches span, node ≠ .conditional branches span) :
    node.continuation? = none := by
  cases node with
  | conditional branches span => exact absurd rfl (plain branches span)
  | _ => rfl

theorem Node.IsSingle.continues_iff {node : Node} (single : node.IsSingle) :
    node.continuation?.isSome = true ↔
      node.branchKind? = some .elseIf ∨ node.branchKind? = some .last := by
  cases node with
  | conditional branches span =>
      obtain ⟨⟨kind, condition, children, own⟩, rfl⟩ := single
      cases kind with
      | _ => simp [continuation?_single, Node.branchKind?, Branch.kind]
  | _ => simp [Node.continuation?, Node.branchKind?]

theorem Node.IsSingle.isOpenChain_iff {node : Node} (single : node.IsSingle) :
    node.isOpenChain = true ↔
      node.branchKind? = some .first ∨ node.branchKind? = some .elseIf := by
  cases node with
  | conditional branches span =>
      obtain ⟨⟨kind, condition, children, own⟩, rfl⟩ := single
      cases kind with
      | _ => simp [Node.isOpenChain, Node.branchKind?, Branch.kind]
  | _ => simp [Node.isOpenChain, Node.branchKind?]

/-! ## Siblings of the grammar are joined -/

theorem joinBehind_insignificant (done gap rest : List Node) {node : Node}
    (insignificant : node.isInsignificant = true) :
    joinBehind done gap (node :: rest) = joinBehind done (node :: gap) rest := by
  rw [joinBehind.eq_def]
  dsimp only
  rw [if_pos insignificant]

theorem joinBehind_gap (done pending : List Node) {gap : List Node}
    (insignificant : ∀ node ∈ gap, node.isInsignificant = true) (rest : List Node) :
    joinBehind done pending (gap ++ rest) =
      joinBehind done (gap.reverse ++ pending) rest := by
  induction gap generalizing pending with
  | nil => rfl
  | cons node gap induction =>
      obtain ⟨here, others⟩ := List.forall_mem_cons.mp insignificant
      rw [List.cons_append, joinBehind_insignificant _ _ _ here, induction _ others,
        List.reverse_cons, List.append_assoc]
      rfl

theorem joinBehind_kept (done gap rest : List Node) {node : Node}
    (significant : node.isInsignificant = false) (apart : node.continuation? = none) :
    joinBehind done gap (node :: rest) =
      joinBehind (node :: (gap ++ done)) [] rest := by
  rw [joinBehind.eq_def]
  dsimp only
  rw [significant, if_neg Bool.false_ne_true, apart]

/-- A further branch joins the open chain in front, and the gap
between them disappears. -/
theorem joinBehind_branch (own : List Branch) (span : Span)
    (before gap rest : List Node) {branch : Branch} {branchSpan : Span}
    (isOpen : (Node.conditional own span).isOpenChain = true)
    (kind : branch.kind ≠ .first) :
    joinBehind (.conditional own span :: before) gap
      (.conditional [branch] branchSpan :: rest) =
      joinBehind (.conditional (own ++ [branch]) (span.merge branchSpan) :: before) []
        rest := by
  have significant :
      (Node.conditional [branch] branchSpan).isInsignificant = false := rfl
  rw [joinBehind.eq_def]
  dsimp only
  rw [significant, if_neg Bool.false_ne_true, continuation?_single, if_neg kind]
  dsimp only
  rw [if_pos isOpen]
  rfl

theorem ChainRest.joinBehind_eq {span whole : Span} {written : List Node}
    {branches : List Branch} (continued : ChainRest span written branches whole)
    (own : List Branch) (before rest : List Node)
    (isOpen : (Node.conditional own span).isOpenChain = true) :
    joinBehind (.conditional own span :: before) [] (written ++ rest) =
      joinBehind (.conditional (own ++ branches) whole :: before) [] rest := by
  induction continued generalizing own with
  | nil span => rw [List.append_nil, List.nil_append]
  | @elseIf front span whole gap written branch branches insignificant kind
      _ induction =>
      have later : branch.kind ≠ .first := by simp [kind]
      have stillOpen :
          (Node.conditional (own ++ [branch]) (front.merge span)).isOpenChain = true :=
        isOpenChain_concat.mpr (by simp [kind])
      rw [List.append_assoc, joinBehind_gap _ _ insignificant, List.cons_append,
        joinBehind_branch own front before _ _ isOpen later, induction _ stillOpen,
        List.append_assoc]
      rfl
  | @last front span gap branch insignificant kind =>
      have later : branch.kind ≠ .first := by simp [kind]
      rw [List.append_assoc, joinBehind_gap _ _ insignificant]
      exact joinBehind_branch own front before _ rest isOpen later

theorem Joins.joinBehind_eq {siblings joined : List Node}
    (joins : Joins siblings joined) (done gap : List Node) :
    joinBehind done gap siblings = (gap ++ done).reverse ++ joined := by
  induction joins generalizing done gap with
  | nil => rw [joinBehind, List.append_nil]
  | @kept node rest joined plain _ induction =>
      cases significant : node.isInsignificant with
      | true =>
          rw [joinBehind_insignificant done gap rest significant, induction]
          simp
      | false =>
          rw [joinBehind_kept done gap rest significant
            (continuation?_of_not_conditional plain),
            induction]
          simp
  | @chain branch branches span whole written rest joined first continued
      _ induction =>
      have starts : (Node.conditional [branch] span).continuation? = none := by
        rw [continuation?_single, if_pos first]
      have isOpen : (Node.conditional [branch] span).isOpenChain = true := by
        simp [Node.isOpenChain, first]
      rw [joinBehind_kept done gap _ rfl starts, continued.joinBehind_eq _ _ _ isOpen,
        induction]
      simp

theorem Joins.joinChains_eq {siblings joined : List Node}
    (joins : Joins siblings joined) :
    joinChains siblings = joined :=
  joins.joinBehind_eq [] []

/-! ## Siblings of the grammar have no fault -/

theorem chainFaultBehind?_gap (previous : Option Node) {gap : List Node}
    (insignificant : ∀ node ∈ gap, node.isInsignificant = true) (rest : List Node) :
    chainFaultBehind? previous (gap ++ rest) = chainFaultBehind? previous rest := by
  induction gap with
  | nil => rfl
  | cons node gap induction =>
      rw [List.cons_append, chainFaultBehind?,
        if_pos (insignificant node List.mem_cons_self)]
      exact induction fun other member =>
        insignificant other (List.mem_cons_of_mem node member)

/-- Whether a fault is found depends on the node before only. -/
theorem chainFaultBehind?_significant (previous : Option Node) (rest : List Node)
    {node : Node} (significant : node.isInsignificant = false)
    (paired : node.continuation?.isSome = true →
      previous.any Node.isOpenChain = true) :
    chainFaultBehind? previous (node :: rest) =
      chainFaultBehind? (some node) rest := by
  rw [chainFaultBehind?, significant, if_neg Bool.false_ne_true, if_neg]
  intro stray
  rw [Bool.and_eq_true, Bool.not_eq_true'] at stray
  rw [paired stray.1] at stray
  exact Bool.noConfusion stray.2

theorem ChainRest.chainFaultBehind?_eq_none {span whole : Span} {written : List Node}
    {branches : List Branch} (continued : ChainRest span written branches whole)
    {rest : List Node} (paired : ∀ previous, chainFaultBehind? previous rest = none)
    {previous : Node} (isOpen : previous.isOpenChain = true) :
    chainFaultBehind? (some previous) (written ++ rest) = none := by
  induction continued generalizing previous with
  | nil span => exact paired _
  | @elseIf front span whole gap written branch branches insignificant kind
      _ induction =>
      have stillOpen : (Node.conditional [branch] span).isOpenChain = true := by
        simp [Node.isOpenChain, kind]
      rw [List.append_assoc, chainFaultBehind?_gap _ insignificant, List.cons_append,
        chainFaultBehind?_significant (some previous) _ rfl fun _ => isOpen]
      exact induction stillOpen
  | @last front span gap branch insignificant kind =>
      have significant :
          (Node.conditional [branch] span).isInsignificant = false := rfl
      rw [List.append_assoc, chainFaultBehind?_gap _ insignificant,
        List.singleton_append, chainFaultBehind?_significant (some previous) _
          significant fun _ => isOpen]
      exact paired _

theorem Joins.chainFaultBehind?_eq_none {siblings joined : List Node}
    (joins : Joins siblings joined) (previous : Option Node) :
    chainFaultBehind? previous siblings = none := by
  induction joins generalizing previous with
  | nil => rfl
  | @kept node rest joined plain _ induction =>
      cases significant : node.isInsignificant with
      | true =>
          rw [chainFaultBehind?, if_pos significant]
          exact induction previous
      | false =>
          rw [chainFaultBehind?_significant _ _ significant]
          · exact induction _
          · rw [continuation?_of_not_conditional plain]
            exact Bool.noConfusion
  | @chain branch branches span whole written rest joined first continued
      _ induction =>
      have isOpen : (Node.conditional [branch] span).isOpenChain = true := by
        simp [Node.isOpenChain, first]
      rw [chainFaultBehind?_significant _ _ rfl]
      · exact continued.chainFaultBehind?_eq_none induction isOpen
      · rw [continuation?_single, if_pos first]
        exact Bool.noConfusion

/-! ## Siblings without a fault are of the grammar -/

/-- Siblings behind a node: what continues a chain that the node leaves
open, and the rest. -/
def ContinuesIn (previous : Option Node) (span : Span) (siblings : List Node) : Prop :=
  ∃ written rest branches whole joined, siblings = written ++ rest ∧
    ChainRest span written branches whole ∧ Joins rest joined ∧
    (previous.any Node.isOpenChain = false → written = [])

theorem ContinuesIn.insignificant {previous : Option Node} {span : Span} {node : Node}
    {rest : List Node} (continues : ContinuesIn previous span rest)
    (insignificant : node.isInsignificant = true) :
    ContinuesIn previous span (node :: rest) := by
  have plain : ∀ branches span, node ≠ .conditional branches span := by
    rintro branches span rfl
    contradiction
  have inGap : ∀ {gap : List Node}, (∀ other ∈ gap, other.isInsignificant = true) →
      ∀ other ∈ node :: gap, other.isInsignificant = true :=
    fun others => List.forall_mem_cons.mpr ⟨insignificant, others⟩
  obtain ⟨written, later, branches, whole, joined, rfl, continued, joins, closed⟩ :=
    continues
  cases continued with
  | nil span =>
      exact ⟨[], node :: later, [], _, _, rfl, .nil _, .kept plain joins, fun _ => rfl⟩
  | elseIf others kind more =>
      refine ⟨_, later, _, _, joined, rfl, .elseIf (inGap others) kind more, joins, ?_⟩
      intro isClosed
      simpa using closed isClosed
  | last others kind =>
      refine ⟨_, later, _, _, joined, rfl, .last (inGap others) kind, joins, ?_⟩
      intro isClosed
      simpa using closed isClosed

/-- Behind a closed node the rest stands for itself. -/
theorem ContinuesIn.joins {previous : Option Node} {span : Span} {siblings : List Node}
    (continues : ContinuesIn previous span siblings)
    (closed : previous.any Node.isOpenChain = false) :
    ∃ joined, Joins siblings joined := by
  obtain ⟨written, rest, branches, whole, joined, rfl, _, joins, notWritten⟩ :=
    continues
  rw [notWritten closed]
  exact ⟨joined, joins⟩

theorem Joins.continuesIn {siblings joined : List Node} (joins : Joins siblings joined)
    (previous : Option Node) (span : Span) : ContinuesIn previous span siblings :=
  ⟨[], siblings, [], span, joined, rfl, .nil span, joins, fun _ => rfl⟩

theorem continuesIn_of_paired {previous : Option Node} {siblings : List Node}
    (single : ∀ node ∈ siblings, node.IsSingle)
    (paired : chainFaultBehind? previous siblings = none) (span : Span) :
    ContinuesIn previous span siblings := by
  have nothing : ∀ node ∈ ([] : List Node), node.isInsignificant = true :=
    fun _ member => absurd member List.not_mem_nil
  induction siblings generalizing previous span with
  | nil => exact Joins.nil.continuesIn previous span
  | cons node rest induction =>
      have singleRest : ∀ other ∈ rest, other.IsSingle :=
        fun other member => single other (List.mem_cons_of_mem node member)
      rw [chainFaultBehind?] at paired
      split at paired
      · next insignificant =>
        exact (induction singleRest paired span).insignificant insignificant
      · split at paired
        · contradiction
        · next pairs =>
          have later := induction singleRest paired
          cases node with
          | conditional branches own =>
              obtain ⟨branch, rfl⟩ := single _ List.mem_cons_self
              rw [continuation?_single] at pairs
              cases kind : branch.kind with
              | first =>
                  obtain ⟨written, rest, branches, whole, joined, rfl,
                    continued, joins, _⟩ :=
                    later own
                  exact (Joins.chain kind continued joins).continuesIn previous span
              | elseIf =>
                  obtain ⟨written, rest, branches, whole, joined, rfl,
                    continued, joins, _⟩ :=
                    later (span.merge own)
                  have isOpen : previous.any Node.isOpenChain = true := by
                    simpa [kind] using pairs
                  refine ⟨_, rest, _, whole, joined, rfl,
                    .elseIf nothing kind continued, joins, ?_⟩
                  rw [isOpen]
                  exact Bool.noConfusion
              | last =>
                  have isOpen : previous.any Node.isOpenChain = true := by
                    simpa [kind] using pairs
                  have ended : (some (Node.conditional [branch] own)).any
                      Node.isOpenChain = false := by
                    simp [Node.isOpenChain, kind]
                  obtain ⟨joined, joins⟩ := (later span).joins ended
                  refine ⟨_, rest, _, _, joined, rfl, .last nothing kind, joins, ?_⟩
                  rw [isOpen]
                  exact Bool.noConfusion
          | _ =>
              obtain ⟨joined, joins⟩ := (later span).joins rfl
              exact (Joins.kept (fun _ _ => Node.noConfusion) joins).continuesIn
                previous span

/-- Siblings in which every branch continues a chain or starts one
are of the grammar. -/
theorem exists_joins {siblings : List Node} (single : ∀ node ∈ siblings, node.IsSingle)
    (paired : chainFault? siblings = none) : ∃ joined, Joins siblings joined :=
  (continuesIn_of_paired single paired ⟨0, 0⟩).joins rfl

theorem joins_iff {siblings joined : List Node}
    (single : ∀ node ∈ siblings, node.IsSingle) :
    Joins siblings joined ↔
      chainFault? siblings = none ∧ joinChains siblings = joined := by
  constructor
  · intro joins
    exact ⟨joins.chainFaultBehind?_eq_none none, joins.joinChains_eq⟩
  · rintro ⟨paired, rfl⟩
    obtain ⟨joined, joins⟩ := exists_joins single paired
    rw [joins.joinChains_eq]
    exact joins

/-! ## The first branch that continues no chain -/

/-- A `v-else-if` or `v-else` behind siblings of which the last significant one is
neither `v-if` nor `v-else-if`. -/
structure Strays (before : List Node) (node : Node) : Prop where
  continues : node.branchKind? = some .elseIf ∨ node.branchKind? = some .last
  unpaired : ∀ previous ∈ (before.filter fun node => !node.isInsignificant).getLast?,
    previous.branchKind? ≠ some .first ∧ previous.branchKind? ≠ some .elseIf

theorem strays_iff {before : List Node} {node : Node} (single : node.IsSingle)
    (singleBefore : ∀ other ∈ before, other.IsSingle) :
    Strays before node ↔ node.continuation?.isSome = true ∧
      (lastSignificant none before).any Node.isOpenChain = false := by
  have closed : (lastSignificant none before).any Node.isOpenChain = false ↔
      ∀ previous ∈ (before.filter fun node => !node.isInsignificant).getLast?,
        previous.branchKind? ≠ some .first ∧ previous.branchKind? ≠ some .elseIf := by
    rw [lastSignificant, Option.or_none]
    cases last : (before.filter fun node => !node.isInsignificant).getLast? with
    | none => simp
    | some previous =>
        have inBefore : previous ∈ before :=
          (List.mem_filter.mp (List.mem_of_getLast? last)).1
        have opens := (singleBefore previous inBefore).isOpenChain_iff
        rw [Option.any_some, Bool.eq_false_iff, Ne, opens, not_or]
        simp
  constructor
  · intro strays
    exact ⟨single.continues_iff.mpr strays.continues, closed.mpr strays.unpaired⟩
  · rintro ⟨continues, isClosed⟩
    exact ⟨single.continues_iff.mp continues, closed.mp isClosed⟩

theorem first_of_chainFaultBehind? {previous : Option Node} {siblings : List Node}
    {fault : CompileError} (found : chainFaultBehind? previous siblings = some fault) :
    ∃ before node after, siblings = before ++ node :: after ∧
      chainFaultBehind? previous before = none ∧ node.continuation?.isSome = true ∧
      (lastSignificant previous before).any Node.isOpenChain = false ∧
      fault = .unpairedElse node.span := by
  induction siblings generalizing previous with
  | nil => contradiction
  | cons node rest induction =>
      rw [chainFaultBehind?] at found
      split at found
      · next insignificant =>
        obtain ⟨before, stray, after, rfl, clean, continues, closed, same⟩ :=
          induction found
        refine ⟨node :: before, stray, after, rfl, ?_, continues, ?_, same⟩
        · rw [chainFaultBehind?, if_pos insignificant]
          exact clean
        · rw [lastSignificant_cons_insignificant _ _ insignificant]
          exact closed
      · next significant =>
        rw [Bool.not_eq_true] at significant
        split at found
        · next strays =>
          rw [Bool.and_eq_true, Bool.not_eq_true'] at strays
          exact ⟨[], node, rest, rfl, rfl, strays.1, strays.2,
            (Option.some.inj found).symm⟩
        · next pairs =>
          obtain ⟨before, stray, after, rfl, clean, continues, closed, same⟩ :=
            induction found
          refine ⟨node :: before, stray, after, rfl, ?_, continues, ?_, same⟩
          · rw [chainFaultBehind?, significant, if_neg Bool.false_ne_true,
              if_neg pairs]
            exact clean
          · rw [lastSignificant_cons_significant _ _ significant]
            exact closed

theorem not_strays_of_paired {siblings : List Node}
    (single : ∀ node ∈ siblings, node.IsSingle)
    (paired : chainFault? siblings = none) {before after : List Node} {node : Node}
    (shape : siblings = before ++ node :: after) : ¬ Strays before node := by
  subst shape
  intro strays
  have reports := chainFaultBehind?_reports none (before ++ node :: after)
  rw [chainFault?] at paired
  rw [paired] at reports
  have singleNode := single node (by simp)
  have singleBefore : ∀ other ∈ before, other.IsSingle :=
    fun other member => single other (List.mem_append_left _ member)
  apply reports (.unpairedElse node.span)
  exact ⟨node,
    ⟨before, after, rfl, (strays_iff singleNode singleBefore).mp strays⟩, rfl⟩

/-- Siblings are joined exactly by the grammar of chains.  They are refused just
when some branch continues no chain, and the refusal is about the first one. -/
theorem joinChains_grammar {siblings : List Node}
    (single : ∀ node ∈ siblings, node.IsSingle) :
    (∀ joined, Joins siblings joined ↔
      chainFault? siblings = none ∧ joinChains siblings = joined) ∧
    (chainFault? siblings ≠ none ↔
      ∃ before node after, siblings = before ++ node :: after ∧ Strays before node) ∧
    ∀ fault, chainFault? siblings = some fault →
      ∃ before node after, siblings = before ++ node :: after ∧ Strays before node ∧
        (∀ earlier other later, before = earlier ++ other :: later →
          ¬ Strays earlier other) ∧
        fault = .unpairedElse node.span := by
  have first : ∀ fault, chainFault? siblings = some fault →
      ∃ before node after, siblings = before ++ node :: after ∧ Strays before node ∧
        (∀ earlier other later, before = earlier ++ other :: later →
          ¬ Strays earlier other) ∧
        fault = .unpairedElse node.span := by
    intro fault found
    obtain ⟨before, node, after, rfl, clean, continues, closed, same⟩ :=
      first_of_chainFaultBehind? found
    have singleBefore : ∀ other ∈ before, other.IsSingle :=
      fun other member => single other (List.mem_append_left _ member)
    refine ⟨before, node, after, rfl, ?_, ?_, same⟩
    · exact (strays_iff (single node (by simp)) singleBefore).mpr ⟨continues, closed⟩
    · intro earlier other later shape
      exact not_strays_of_paired singleBefore clean shape
  refine ⟨fun joined => joins_iff single, ⟨?_, ?_⟩, first⟩
  · intro refused
    obtain ⟨fault, found⟩ := Option.ne_none_iff_exists'.mp refused
    obtain ⟨before, node, after, shape, strays, _⟩ := first fault found
    exact ⟨before, node, after, shape, strays⟩
  · rintro ⟨before, node, after, shape, strays⟩ paired
    exact not_strays_of_paired single paired shape strays

/-- Two chains, the first one over a comment and the second one directly behind it. -/
theorem chains_joined :
    let branch (kind : BranchKind) (start : Nat) : Branch :=
      .mk kind none [] ⟨start, start + 1⟩
    let node (kind : BranchKind) (start : Nat) : Node :=
      .conditional [branch kind start] ⟨start, start + 1⟩
    let note : Node := .comment "" ⟨1, 8⟩
    let siblings :=
      [node .first 0, note, node .last 8, node .first 9, .text " " ⟨10, 11⟩]
    Joins siblings
      [.conditional [branch .first 0, branch .last 8] ⟨0, 9⟩,
        .conditional [branch .first 9] ⟨9, 10⟩, .text " " ⟨10, 11⟩] := by
  intro branch node note siblings
  have single : ∀ other ∈ siblings, other.IsSingle := by
    simp [siblings, node, note, Node.IsSingle]
  exact ((joinChains_grammar single).1 _).mpr ⟨rfl, rfl⟩

end VuePrecompiler.Template
