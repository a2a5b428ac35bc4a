import VuePrecompiler.Proofs.ArrangedNodes

/-!
# Faults of a template

A template cannot be arranged if a branch among some siblings has no chain
that it continues, or if the slot content of a component cannot be placed.
The search for faults looks at all siblings of all nodes: it reports one of
these faults, and none only if there is none.
-/

namespace VuePrecompiler.Template

open Source

/-! ## Reports -/

/-- An answer is one of the faults, and absent only if there are none. -/
def Reports {Fault : Type} (answer : Option Fault) (faults : Fault → Prop) : Prop :=
  match answer with
  | some fault => faults fault
  | none => ∀ fault, ¬ faults fault

namespace Reports

variable {Item Fault : Type} {answer other : Option Fault}
  {faults others : Fault → Prop}

theorem congr (reports : Reports answer faults)
    (same : ∀ fault, faults fault ↔ others fault) : Reports answer others := by
  cases answer with
  | none => exact fun fault isOther => reports fault ((same fault).mpr isOther)
  | some fault => exact (same fault).mp reports

theorem self (answer : Option Fault) :
    Reports answer fun fault => answer = some fault := by
  cases answer with
  | some fault => exact rfl
  | none => exact fun _ => nofun

theorem or (first : Reports answer faults) (second : Reports other others) :
    Reports (answer.or other) fun fault => faults fault ∨ others fault := by
  cases answer with
  | some fault => exact .inl first
  | none =>
      cases other with
      | some fault => exact .inr second
      | none => exact fun fault either => either.elim (first fault) (second fault)

theorem findSome? {check : Item → Option Fault} {itemFaults : Item → Fault → Prop}
    {items : List Item} (each : ∀ item ∈ items,
      Reports (check item) (itemFaults item)) :
    Reports (items.findSome? check) fun fault => ∃ item ∈ items,
      itemFaults item fault := by
  induction items with
  | nil => exact fun fault ⟨item, member, _⟩ => by contradiction
  | cons item rest induction =>
      have here := each item List.mem_cons_self
      have later :=
        induction fun other member => each other (List.mem_cons_of_mem item member)
      rw [findSome?_cons_eq_or]
      refine (here.or later).congr fun fault => ?_
      simp only [List.mem_cons, exists_eq_or_imp]

end Reports

/-! ## Strays -/

/-- The last significant node of a list, or else the one before the list. -/
def lastSignificant (previous : Option Node) (nodes : List Node) : Option Node :=
  (nodes.filter fun node => !node.isInsignificant).getLast?.or previous

/-- A branch that continues no chain: the significant sibling before it is no
conditional that is open. -/
def IsStrayBehind (previous : Option Node) (siblings : List Node)
    (node : Node) : Prop :=
  ∃ before after, siblings = before ++ node :: after ∧
    node.continuation?.isSome = true ∧
    (lastSignificant previous before).any Node.isOpenChain = false

def IsStray (siblings : List Node) (node : Node) : Prop :=
  IsStrayBehind none siblings node

theorem lastSignificant_cons_insignificant {node : Node} (previous : Option Node)
    (nodes : List Node) (insignificant : node.isInsignificant = true) :
    lastSignificant previous (node :: nodes) = lastSignificant previous nodes := by
  rw [lastSignificant, List.filter_cons_of_neg (by simp [insignificant]),
    lastSignificant]

theorem lastSignificant_cons_significant {node : Node} (previous : Option Node)
    (nodes : List Node) (significant : node.isInsignificant = false) :
    lastSignificant previous (node :: nodes) = lastSignificant (some node) nodes := by
  rw [lastSignificant, List.filter_cons_of_pos (by simp [significant]),
    lastSignificant, List.getLast?_cons]
  cases (nodes.filter fun node => !node.isInsignificant).getLast? <;> rfl

theorem isStrayBehind_cons_insignificant {node stray : Node} (previous : Option Node)
    (rest : List Node) (insignificant : node.isInsignificant = true) :
    IsStrayBehind previous (node :: rest) stray ↔
      IsStrayBehind previous rest stray := by
  constructor
  · rintro ⟨before, after, shape, continues, closed⟩
    cases before with
    | nil =>
        cases shape
        cases node with
        | _ => contradiction
    | cons first before =>
        cases shape
        rw [lastSignificant_cons_insignificant _ _ insignificant] at closed
        exact ⟨before, after, rfl, continues, closed⟩
  · rintro ⟨before, after, rfl, continues, closed⟩
    refine ⟨node :: before, after, rfl, continues, ?_⟩
    rw [lastSignificant_cons_insignificant _ _ insignificant]
    exact closed

theorem isStrayBehind_cons_significant {node stray : Node} (previous : Option Node)
    (rest : List Node) (significant : node.isInsignificant = false) :
    IsStrayBehind previous (node :: rest) stray ↔
      (stray = node ∧ node.continuation?.isSome = true ∧
        previous.any Node.isOpenChain = false) ∨
      IsStrayBehind (some node) rest stray := by
  constructor
  · rintro ⟨before, after, shape, continues, closed⟩
    cases before with
    | nil =>
        cases shape
        exact .inl ⟨rfl, continues, closed⟩
    | cons first before =>
        cases shape
        rw [lastSignificant_cons_significant _ _ significant] at closed
        exact .inr ⟨before, after, rfl, continues, closed⟩
  · rintro (⟨rfl, continues, closed⟩ | ⟨before, after, rfl, continues, closed⟩)
    · exact ⟨[], rest, rfl, continues, closed⟩
    · refine ⟨node :: before, after, rfl, continues, ?_⟩
      rw [lastSignificant_cons_significant _ _ significant]
      exact closed

def StrayFault (previous : Option Node) (siblings : List Node) (fault : CompileError) :
    Prop :=
  ∃ node, IsStrayBehind previous siblings node ∧ fault = .unpairedElse node.span

theorem chainFaultBehind?_reports (previous : Option Node) (siblings : List Node) :
    Reports (chainFaultBehind? previous siblings) (StrayFault previous siblings) := by
  induction siblings generalizing previous with
  | nil =>
      rintro fault ⟨node, ⟨before, after, shape, _⟩, _⟩
      simp at shape
  | cons node rest induction =>
      rw [chainFaultBehind?]
      split
      · next insignificant =>
        refine (induction previous).congr fun fault => ?_
        simp only [StrayFault, isStrayBehind_cons_insignificant previous rest
          insignificant]
      · next significant =>
        have cons (stray : Node) :=
          @isStrayBehind_cons_significant node stray previous rest
            (Bool.eq_false_iff.mpr significant)
        split
        · next stray =>
          rw [Bool.and_eq_true, Bool.not_eq_true'] at stray
          exact ⟨node, (cons node).mpr (.inl ⟨rfl, stray⟩), rfl⟩
        · next paired =>
          refine (induction (some node)).congr fun fault => ?_
          simp only [StrayFault, cons]
          refine exists_congr fun stray => and_congr_left fun _ => ?_
          refine (or_iff_right ?_).symm
          rintro ⟨_, continues, closed⟩
          exact paired (by rw [continues, closed]; rfl)

/-! ## Faults of nodes -/

/-- The lists of siblings directly below a node.  Slot content is no sibling of
the other children of a component. -/
def Node.siblingLists : Node → List (List Node)
  | .element tag children slots _ =>
    (if tag.takesSlots then children.filter fun child =>
      child.slot?.isNone else children) ::
        slots.map Slot.children
  | .conditional branches _ => branches.map Branch.children
  | .loop _ children _ => [children]
  | .outlet _ fallback _ => [fallback]
  | .slotTemplate _ children _ => [children]
  | _ => []

/-- Why the slot content among the children of a component cannot be placed. -/
def Node.misplaced? : Node → Option CompileError
  | .element tag children _ _ =>
    if tag.takesSlots then slotFault? tag children else none
  | _ => none

/-- The faults of a node itself. -/
def Node.FaultHere (node : Node) (fault : CompileError) : Prop :=
  node.misplaced? = some fault ∨
    ∃ siblings ∈ node.siblingLists, StrayFault none siblings fault

/-- The faults of a node and of the nodes below it. -/
def Node.Fault (node : Node) (fault : CompileError) : Prop :=
  ∃ other : Node, other.Below node ∧ other.FaultHere fault

theorem fault_iff (node : Node) (fault : CompileError) :
    node.Fault fault ↔ node.FaultHere fault ∨ ∃ child ∈ node.inside,
      child.Fault fault := by
  constructor
  · rintro ⟨other, below, here⟩
    cases below with
    | here => exact .inl here
    | inside member below => exact .inr ⟨_, member, other, below, here⟩
  · rintro (here | ⟨child, member, other, below, here⟩)
    · exact ⟨node, .here, here⟩
    · exact ⟨other, .inside member below, here⟩

theorem siblingsFault?_eq (siblings : List Node) :
    (chainFault? siblings).or ((faultEach siblings).findSome? id) =
      siblingsFault? siblings := by
  rw [siblingsFault?, faultEach_eq_map, List.findSome?_map]
  rfl

theorem siblingsFault?_reports {siblings : List Node}
    (each : ∀ node ∈ siblings, Reports node.fault? node.Fault) :
    Reports (siblingsFault? siblings) fun fault =>
      StrayFault none siblings fault ∨ ∃ node ∈ siblings, node.Fault fault :=
  (chainFaultBehind?_reports none siblings).or (.findSome? each)

theorem holders_report {Holder : Type} {content : Holder → List Node}
    {holders : List Holder} (each : ∀ node ∈ holders.flatMap content,
      Reports node.fault? node.Fault) :
    Reports (holders.findSome? fun holder =>
      siblingsFault? (content holder)) fun fault =>
        (∃ siblings ∈ holders.map content, StrayFault none siblings fault) ∨
          ∃ node ∈ holders.flatMap content, node.Fault fault := by
  have inEach :
      ∀ holder ∈ holders, Reports (siblingsFault? (content holder)) fun fault =>
        StrayFault none (content holder) fault ∨ ∃ node ∈ content holder,
          node.Fault fault :=
    fun holder given => siblingsFault?_reports fun node member =>
      each node (List.mem_flatMap.mpr ⟨holder, given, member⟩)
  refine (Reports.findSome? inEach).congr fun fault => ?_
  simp only [List.mem_map, List.mem_flatMap]
  constructor
  · rintro ⟨holder, given, stray | ⟨node, member, isFault⟩⟩
    · exact .inl ⟨_, ⟨holder, given, rfl⟩, stray⟩
    · exact .inr ⟨node, ⟨holder, given, member⟩, isFault⟩
  · rintro (⟨_, ⟨holder, given, rfl⟩, stray⟩ |
      ⟨node, ⟨holder, given, member⟩, isFault⟩)
    · exact ⟨holder, given, .inl stray⟩
    · exact ⟨holder, given, .inr ⟨node, member, isFault⟩⟩

/-- The children of a component: slot content is searched last. -/
theorem component_fault?_eq {tag : StartTag} (takes : tag.takesSlots = true)
    (children : List Node) (slots : List Slot) (span : Span) :
    (Node.element tag children slots span).fault? =
      ((slotFault? tag children).or
        ((chainFault? (children.filter fun child => child.slot?.isNone)).or
          (((children.filter fun child => child.slot?.isNone) ++
            children.filter fun child =>
              child.slot?.isSome).findSome? Node.fault?))).or
        (slots.findSome? fun slot => siblingsFault? slot.children) := by
  have marked : children.zip (children.map Node.fault?) =
      children.map fun child => (child, child.fault?) := by
    rw [List.map_prod_left_eq_zip]
  rw [Node.fault?, faultEach_eq_map, slotsFault?_eq, marked]
  simp only [takes, ↓reduceIte, List.filter_map, List.map_map, ← List.map_append,
    List.findSome?_map, Function.comp_def, List.map_id_fun', id_eq]

theorem element_fault?_eq {tag : StartTag} (leaves : tag.takesSlots = false)
    (children : List Node) (slots : List Slot) (span : Span) :
    (Node.element tag children slots span).fault? =
      (siblingsFault? children).or (slots.findSome? fun slot =>
        siblingsFault? slot.children) := by
  rw [Node.fault?, slotsFault?_eq]
  simp only [leaves, Bool.false_eq_true, ↓reduceIte, siblingsFault?_eq]

theorem element_fault_iff (tag : StartTag) (children : List Node) (slots : List Slot)
    (span : Span) (fault : CompileError) :
    (Node.element tag children slots span).Fault fault ↔
      ((Node.element tag children slots span).misplaced? = some fault ∨
        StrayFault none (if tag.takesSlots then children.filter fun child =>
          child.slot?.isNone
            else children) fault ∨ ∃ child ∈ children, child.Fault fault) ∨
      ((∃ siblings ∈ slots.map Slot.children, StrayFault none siblings fault) ∨
        ∃ child ∈ slots.flatMap Slot.children, child.Fault fault) := by
  rw [fault_iff, Node.FaultHere, Node.siblingLists, Node.inside]
  simp only [List.mem_cons, List.mem_append, or_and_right, exists_or, exists_eq_left]
  simp only [or_assoc, or_left_comm, or_comm]

theorem element_reports (tag : StartTag) {children : List Node} {slots : List Slot}
    (span : Span) (inChildren : ∀ node ∈ children, Reports node.fault? node.Fault)
    (inSlots : ∀ node ∈ slots.flatMap Slot.children, Reports node.fault? node.Fault) :
    Reports (Node.element tag children slots span).fault?
      (Node.element tag children slots span).Fault := by
  cases takes : tag.takesSlots with
  | false =>
      rw [element_fault?_eq takes]
      refine ((siblingsFault?_reports inChildren).or (holders_report inSlots)).congr
        fun fault => ?_
      rw [element_fault_iff, Node.misplaced?, takes]
      simp only [Bool.false_eq_true, ↓reduceIte, reduceCtorEq, false_or]
  | true =>
      -- A component is searched in another order: below its slot content last.
      have below : ∀ node ∈ (children.filter fun child => child.slot?.isNone) ++
          children.filter fun child => child.slot?.isSome,
          Reports node.fault? node.Fault := by
        intro node member
        refine inChildren node ?_
        exact (List.mem_append.mp member).elim (fun other =>
          (List.mem_filter.mp other).1)
            fun content => (List.mem_filter.mp content).1
      have all (fault : CompileError) :
          (∃ node ∈ (children.filter fun child => child.slot?.isNone) ++
            children.filter fun child => child.slot?.isSome, node.Fault fault) ↔
          ∃ node ∈ children, node.Fault fault := by
        refine exists_congr fun node => and_congr_left fun _ => ?_
        rw [List.mem_append, List.mem_filter, List.mem_filter]
        cases node.slot? <;> simp
      rw [component_fault?_eq takes]
      refine (((Reports.self _).or ((chainFaultBehind?_reports none _).or
        (.findSome? below))).or (holders_report inSlots)).congr fun fault => ?_
      rw [element_fault_iff, all, Node.misplaced?, takes]
      rfl

theorem fault?_reports (node : Node) : Reports node.fault? node.Fault := by
  induction node using Node.inside_induct with
  | step node induction =>
      have alone {siblings : List Node} (inside : node.inside = siblings)
          (lists : node.siblingLists = [siblings]) (placed : node.misplaced? = none) :
          Reports (siblingsFault? siblings) node.Fault := by
        rw [inside] at induction
        refine (siblingsFault?_reports induction).congr fun fault => ?_
        rw [fault_iff, Node.FaultHere, inside, lists, placed]
        simp only [reduceCtorEq, List.mem_singleton, exists_eq_left, false_or]
      have empty (inside : node.inside = []) (lists : node.siblingLists = [])
          (placed : node.misplaced? = none) : Reports none node.Fault := by
        intro fault isFault
        rw [fault_iff, Node.FaultHere, inside, lists, placed] at isFault
        simp at isFault
      cases node with
      | text => exact empty rfl rfl rfl
      | interpolation => exact empty rfl rfl rfl
      | comment => exact empty rfl rfl rfl
      | loop head children span =>
          rw [Node.fault?, siblingsFault?_eq]
          exact alone rfl rfl rfl
      | outlet outlet fallback span =>
          rw [Node.fault?, siblingsFault?_eq]
          exact alone rfl rfl rfl
      | slotTemplate directives children span =>
          rw [Node.fault?, siblingsFault?_eq]
          exact alone rfl rfl rfl
      | conditional branches span =>
          rw [Node.fault?, branchesFault?_eq]
          refine (holders_report induction).congr fun fault => ?_
          have placed : (Node.conditional branches span).misplaced? = none := rfl
          rw [fault_iff, Node.FaultHere, placed]
          simp only [reduceCtorEq, false_or]
          rfl
      | element tag children slots span =>
          refine element_reports tag span ?_ ?_
          · exact fun node member => induction node (List.mem_append_left _ member)
          · exact fun node member => induction node (List.mem_append_right _ member)

/-! ## Faults of templates -/

/-- A branch somewhere in a template that continues no chain. -/
def Tree.HasStray (tree : Tree) (stray : Node) : Prop :=
  IsStray tree.children stray ∨
    ∃ node, tree.Contains node ∧ ∃ siblings ∈ node.siblingLists, IsStray siblings stray

/-- The reason why the slot content of some component in a template
cannot be placed. -/
def Tree.MisplacesSlots (tree : Tree) (fault : CompileError) : Prop :=
  ∃ node, tree.Contains node ∧ node.misplaced? = some fault

/-- A template that cannot be arranged has one of these faults, and a template
with one of them cannot be arranged. -/
theorem Tree.fault?_reports (tree : Tree) :
    Reports tree.fault? fun fault =>
      (∃ stray, tree.HasStray stray ∧ fault = .unpairedElse stray.span) ∨
        tree.MisplacesSlots fault := by
  rw [Tree.fault?, siblingsFault?_eq]
  refine (siblingsFault?_reports fun node _ => Template.fault?_reports node).congr
    fun fault => ?_
  constructor
  · rintro (⟨stray, isStray, same⟩ | ⟨top, inTree, node, below, misplaced | strays⟩)
    · exact .inl ⟨stray, .inl isStray, same⟩
    · exact .inr ⟨node, ⟨top, inTree, below⟩, misplaced⟩
    · obtain ⟨siblings, given, stray, isStray, same⟩ := strays
      exact .inl ⟨stray,
        .inr ⟨node, ⟨top, inTree, below⟩, siblings, given, isStray⟩, same⟩
  · rintro (⟨stray, isStray | inside, same⟩ | ⟨node, ⟨top, inTree, below⟩, misplaced⟩)
    · exact .inl ⟨stray, isStray, same⟩
    · obtain ⟨node, ⟨top, inTree, below⟩, siblings, given, isStray⟩ := inside
      exact .inr ⟨top, inTree, node, below,
        .inr ⟨siblings, given, stray, isStray, same⟩⟩
    · exact .inr ⟨top, inTree, node, below, .inl misplaced⟩

end VuePrecompiler.Template
