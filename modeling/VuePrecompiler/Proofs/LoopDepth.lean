import VuePrecompiler.Proofs.NodesInside
import VuePrecompiler.Proofs.ReferenceFields
import VuePrecompiler.Render.Code

/-!
# The depth of loops

A generator can keep track of the loops around an element by a counter that
every loop raises for its body and lowers again, be there code for the body or
not.  `Generator` is such a generator.  It gives the same codes and faults as
the recursion that hands down whether there is a loop, leaves the counter as it
finds it, and marks the references of just those elements that a loop encloses.
-/

namespace VuePrecompiler.Render

open Template Source

/-! ## Generators with a counter -/

/-- An element whose data has been written. -/
structure WrittenElement where
  tag : StartTag
  children : List Node
  slots : List Slot
  span : Span
  /-- The nodes around the element, innermost first. -/
  around : List Node
  /-- The fields of its data. -/
  fields : List String

def WrittenElement.node (element : WrittenElement) : Node :=
  .element element.tag element.children element.slots element.span

structure GeneratorState where
  /-- The number of loops that are open. -/
  depth : Nat
  /-- The elements whose data has been written so far. -/
  written : List WrittenElement

/-- A part of the generator; the state outlives a fault. -/
abbrev Generator := ExceptT CompileError (StateM GeneratorState)

namespace Generator

variable {α β : Type}

/-- What a part comes to from a state: its result, and the state behind it. -/
def runFrom (part : Generator α) (state : GeneratorState) :
    Except CompileError α × GeneratorState :=
  StateT.run (ExceptT.run part) state

/-- Whether a loop is open. -/
def isInLoop : Generator Bool := do
  return 0 < (← get).depth

def write (element : WrittenElement) : Generator Unit :=
  modify fun state => { state with written := state.written ++ [element] }

/-- Run the body of a loop.  A fault is passed on once the loop is closed. -/
def inLoop (body : Generator α) : Generator α := ExceptT.mk do
  modify fun state => { state with depth := state.depth + 1 }
  let result ← body.run
  modify fun state => { state with depth := state.depth - 1 }
  return result

theorem runFrom_pure (value : α) (state : GeneratorState) :
    (pure value : Generator α).runFrom state = (.ok value, state) := rfl

theorem runFrom_throw (fault : CompileError) (state : GeneratorState) :
    (throw fault : Generator α).runFrom state = (.error fault, state) := rfl

theorem runFrom_bind (part : Generator α) (next : α → Generator β)
    (state : GeneratorState) :
    (part >>= next).runFrom state =
      match part.runFrom state with
      | (.ok value, later) => (next value).runFrom later
      | (.error fault, later) => (.error fault, later) := by
  unfold runFrom
  rw [ExceptT.run_bind, StateT.run_bind]
  rcases StateT.run (ExceptT.run part) state with ⟨result, later⟩
  cases result <;> rfl

theorem runFrom_isInLoop (state : GeneratorState) :
    isInLoop.runFrom state = (.ok (decide (0 < state.depth)), state) := rfl

theorem runFrom_write (element : WrittenElement) (state : GeneratorState) :
    (write element).runFrom state =
      (.ok (), { state with written := state.written ++ [element] }) := rfl

theorem runFrom_inLoop (body : Generator α) (state : GeneratorState) :
    (inLoop body).runFrom state =
      let (result, later) := body.runFrom { state with depth := state.depth + 1 }
      (result, { later with depth := later.depth - 1 }) := rfl

end Generator

/-! ## The generator -/

/-- The data of an element in terms of its fields. -/
def dataOfFields? (tag : StartTag) (fields : List String) : Option String :=
  let directives := DirectiveData.ofTag tag
  if fields.isEmpty && directives.bindObject.isNone &&
    directives.listenObject.isNone then none
  else
    let data := object fields
    let data := directives.bindObject.elim data fun directive =>
      withBoundObject tag directive data
    some (directives.listenObject.elim data fun directive =>
      withListenerObject directive data)

theorem dataOfFields?_dataFields (tag : StartTag) (inLoop : Bool)
    (scopedSlots : Option String) :
    dataOfFields? tag (dataFields tag (DirectiveData.ofTag tag) inLoop scopedSlots) =
      dataObject? tag inLoop scopedSlots := rfl

/-- Write the data of an element, given how the entries of its slots are generated. -/
def writtenData (around : List Node) (tag : StartTag) (children : List Node)
    (slots : List Slot) (span : Span) (entries : Generator (List String)) :
    Generator (Option String) := do
  let inLoop ← Generator.isInLoop
  let entries ← entries
  let scopedSlots :=
    if slots.isEmpty then none else some (scopedSlotsCode slots entries)
  let fields := dataFields tag (DirectiveData.ofTag tag) inLoop scopedSlots
  Generator.write ⟨tag, children, slots, span, around, fields⟩
  return dataOfFields? tag fields

/-- All data that is made is written, as that of its element. -/
theorem getLast?_written_of_data {around : List Node} {tag : StartTag}
    {children : List Node} {slots : List Slot} {span : Span}
    {entries : Generator (List String)}
    {state last : GeneratorState} {data : Option String}
    (run : (writtenData around tag children slots span entries).runFrom state =
      (.ok data, last)) :
    ∃ element, last.written.getLast? = some element ∧
      element.node = .element tag children slots span ∧ element.around = around ∧
      dataOfFields? tag element.fields = data := by
  rw [writtenData, Generator.runFrom_bind, Generator.runFrom_isInLoop] at run
  dsimp only at run
  rw [Generator.runFrom_bind] at run
  rcases ran : entries.runFrom state with ⟨fault | entries, later⟩
  · rw [ran] at run
    cases run
  · rw [ran] at run
    cases run
    exact ⟨_, List.getLast?_concat, rfl, rfl, rfl⟩

mutual

/-- Generate the code of a node, given the nodes around it. -/
def writtenNode (around : List Node) : Node → Generator String
  | .element tag children slots span =>
    let inside := .element tag children slots span :: around
    if tag.name == "template" then do
      return (childrenCode? false (← writtenPairs inside children)).getD "void 0"
    else if tag.hasDirective "slot" then throw (.invalidSlot .misplaced span)
    else do
      let data ← writtenData around tag children slots span (writtenSlots inside slots)
      -- A loop that renders the list itself is generated as every other child is.
      let children ←
        if tag.hasDirective "html" || tag.hasDirective "text" then pure none
        else (childrenCode? true ·) <$> writtenPairs inside children
      return elementCode tag data children
  | .text content span => pure (textCode [.text content span])
  | .interpolation expression span => pure (textCode [.interpolation expression span])
  | .comment _ _ => pure "_e()"
  | .conditional branches span =>
    writtenBranches (.conditional branches span :: around) branches
  | .loop head children span => do
    return loopCode head
      (← Generator.inLoop (writtenFirst (.loop head children span :: around) children))
  | .outlet outlet fallback span => do
    return outletCode outlet
      (childrenCode? false (← writtenPairs
        (.outlet outlet fallback span :: around) fallback))
  | .slotTemplate directives children span => do
    return (childrenCode? false
      (← writtenPairs (.slotTemplate directives children span :: around)
        children)).getD "void 0"

/-- Generate the nodes of a list, each with its code. -/
def writtenPairs (around : List Node) : List Node → Generator (List (Node × String))
  | [] => pure []
  | node :: rest => do
    let code ← writtenNode around node
    return (node, code) :: (← writtenPairs around rest)

def writtenFirst (around : List Node) : List Node → Generator String
  | [] => pure "_e()"
  | node :: _ => writtenNode around node

/-- Generate a conditional; what is behind a branch without a condition is left out. -/
def writtenBranches (around : List Node) : List Branch → Generator String
  | [] => pure "_e()"
  | .mk kind condition children _ :: rest => do
    let body ← writtenFirst around children
    match condition with
    | some condition =>
      if kind = .last then return body
      else
        return "(" ++ condition.trimmed ++ ")?" ++ body ++ ":" ++
          (← writtenBranches around rest)
    | none => return body

/-- Generate the entries of slots. -/
def writtenSlots (around : List Node) : List Slot → Generator (List String)
  | [] => pure []
  | .mk head children :: rest => do
    let content := childrenCode? false (← writtenPairs around children)
    return slotCode head content :: (← writtenSlots around rest)

end

/-! ## What a part of the generator keeps -/

/-- A part gives a result, leaves the depth as it finds it and writes
elements of a kind only, from every state that has a loop open or from every
one that has not. -/
def KeepsDepth {α : Type} (looped : Bool) (Kind : WrittenElement → Prop)
    (expected : Except CompileError α) (part : Generator α) : Prop :=
  ∀ state : GeneratorState, decide (0 < state.depth) = looped →
    ∃ new, part.runFrom state = (expected, ⟨state.depth, state.written ++ new⟩) ∧
      ∀ element ∈ new, Kind element

namespace KeepsDepth

variable {α β : Type} {looped : Bool} {Kind : WrittenElement → Prop}
variable {expected : Except CompileError α} {part : Generator α}

theorem pure (value : α) : KeepsDepth looped Kind (.ok value) (Pure.pure value) := by
  intro state _
  exact ⟨[], by rw [Generator.runFrom_pure, List.append_nil], by simp⟩

theorem throw (fault : CompileError) :
    KeepsDepth looped Kind (.error fault : Except CompileError α)
      (MonadExcept.throw fault) := by
  intro state _
  exact ⟨[], by rw [Generator.runFrom_throw, List.append_nil], by simp⟩

/-- A part that asks for the depth is told whether a loop is open. -/
theorem ask {next : Bool → Generator α}
    (later : KeepsDepth looped Kind expected (next looped)) :
    KeepsDepth looped Kind expected (Generator.isInLoop >>= next) := by
  intro state depth
  rw [Generator.runFrom_bind, Generator.runFrom_isInLoop, depth]
  exact later state depth

theorem write {element : WrittenElement} (kind : Kind element) :
    KeepsDepth looped Kind (.ok ()) (Generator.write element) := by
  intro state _
  exact ⟨[element], Generator.runFrom_write element state,
    List.forall_mem_singleton.mpr kind⟩

/-- What a later stage does depends on the depth as the earlier one found it. -/
theorem bind {expectedNext : α → Except CompileError β} {next : α → Generator β}
    (first : KeepsDepth looped Kind expected part)
    (later : ∀ value, KeepsDepth looped Kind (expectedNext value) (next value)) :
    KeepsDepth looped Kind (expected >>= expectedNext) (part >>= next) := by
  intro state depth
  obtain ⟨new, run, kinds⟩ := first state depth
  rw [Generator.runFrom_bind, run]
  cases expected with
  | error fault => exact ⟨new, rfl, kinds⟩
  | ok value =>
      obtain ⟨more, runNext, moreKinds⟩ :=
        later value ⟨state.depth, state.written ++ new⟩ depth
      refine ⟨new ++ more, ?_, fun element member => ?_⟩
      · rw [← List.append_assoc]
        exact runNext
      · exact (List.mem_append.mp member).elim (kinds element) (moreKinds element)

theorem map (f : α → β) (first : KeepsDepth looped Kind expected part) :
    KeepsDepth looped Kind (f <$> expected) (f <$> part) := by
  rw [map_eq_pure_bind, map_eq_pure_bind]
  exact first.bind fun value => pure (f value)

/-- A loop is closed behind its body, be there a fault in it or not. -/
theorem inLoop (body : KeepsDepth true Kind expected part) :
    KeepsDepth looped Kind expected (Generator.inLoop part) := by
  intro state _
  obtain ⟨new, run, kinds⟩ := body ⟨state.depth + 1, state.written⟩ (by simp)
  refine ⟨new, ?_, kinds⟩
  rw [Generator.runFrom_inLoop, run]
  rfl

theorem mono {Other : WrittenElement → Prop}
    (kept : KeepsDepth looped Kind expected part)
    (implies : ∀ element, Kind element → Other element) :
    KeepsDepth looped Other expected part := by
  intro state depth
  obtain ⟨new, run, kinds⟩ := kept state depth
  exact ⟨new, run, fun element member => implies element (kinds element member)⟩

end KeepsDepth

/-! ## Lists -/

section

variable {looped : Bool} {Kind : WrittenElement → Prop} {around : List Node}

theorem keepsDepth_pairs {nodes : List Node}
    (each : ∀ node ∈ nodes, KeepsDepth looped Kind (nodeCode looped node)
      (writtenNode around node)) :
    KeepsDepth looped Kind (pairedCodes looped nodes) (writtenPairs around nodes) := by
  induction nodes with
  | nil =>
      rw [pairedCodes, writtenPairs]
      exact .pure []
  | cons node rest induction =>
      obtain ⟨here, later⟩ := List.forall_mem_cons.mp each
      rw [pairedCodes, writtenPairs]
      exact here.bind fun code => (induction later).bind fun others => .pure _

theorem keepsDepth_first {nodes : List Node}
    (each : ∀ node ∈ nodes, KeepsDepth looped Kind (nodeCode looped node)
      (writtenNode around node)) :
    KeepsDepth looped Kind (firstCode looped nodes) (writtenFirst around nodes) := by
  cases nodes with
  | nil =>
      rw [firstCode, writtenFirst]
      exact .pure _
  | cons node rest =>
      rw [firstCode, writtenFirst]
      exact each node List.mem_cons_self

theorem keepsDepth_branches {branches : List Branch}
    (each : ∀ node ∈ branches.flatMap Branch.children,
      KeepsDepth looped Kind (nodeCode looped node) (writtenNode around node)) :
    KeepsDepth looped Kind (branchesCode looped branches)
      (writtenBranches around branches) := by
  induction branches with
  | nil =>
      rw [branchesCode, writtenBranches]
      exact .pure _
  | cons branch rest induction =>
      rcases branch with ⟨kind, condition, children, span⟩
      rw [List.flatMap_cons, List.forall_mem_append] at each
      rw [branchesCode, writtenBranches]
      refine (keepsDepth_first each.1).bind fun body => ?_
      cases condition with
      | none => exact .pure body
      | some condition =>
          dsimp only
          by_cases last : kind = .last
          · rw [if_pos last, if_pos last]
            exact .pure body
          · rw [if_neg last, if_neg last]
            exact (induction each.2).bind fun others => .pure _

theorem keepsDepth_slots {slots : List Slot}
    (each : ∀ node ∈ slots.flatMap Slot.children,
      KeepsDepth looped Kind (nodeCode looped node) (writtenNode around node)) :
    KeepsDepth looped Kind (slotCodes looped slots) (writtenSlots around slots) := by
  induction slots with
  | nil =>
      rw [slotCodes, writtenSlots]
      exact .pure []
  | cons slot rest induction =>
      rcases slot with ⟨head, children⟩
      rw [List.flatMap_cons, List.forall_mem_append] at each
      rw [slotCodes, writtenSlots]
      exact (keepsDepth_pairs each.1).bind fun content =>
        (induction each.2).bind fun others => .pure _

end

/-! ## What is written inside a node -/

/-- A node stands in another one, with the nodes from there on around
it, innermost first. -/
inductive StandsIn (node : Node) : Node → List Node → Prop where
  | here : StandsIn node node []
  | inside {child parent : Node} {around : List Node} : child ∈ parent.inside →
      StandsIn node child around → StandsIn node parent (around ++ [parent])

def isLoop : Node → Bool
  | .loop _ _ _ => true
  | _ => false

/-- The element stands in a node, and has the fields of an element in a loop exactly if
there is a loop around it from there on, or one was open already. -/
def IsWrittenIn (looped : Bool) (outside : List Node) (top : Node)
    (element : WrittenElement) :
    Prop :=
  ∃ between, element.around = between ++ outside ∧ StandsIn element.node top between ∧
    ∃ scopedSlots, IsSlotsCode scopedSlots ∧
      element.fields = dataFields element.tag (DirectiveData.ofTag element.tag)
        (looped || between.any isLoop) scopedSlots

/-- Around the nodes inside of a loop there is one loop more. -/
theorem IsWrittenIn.of_inside {looped : Bool} {outside : List Node}
    {child parent : Node} {element : WrittenElement} (member : child ∈ parent.inside)
    (written : IsWrittenIn (looped || isLoop parent) (parent :: outside)
      child element) :
    IsWrittenIn looped outside parent element := by
  obtain ⟨between, place, stands, scopedSlots, ofSlots, fields⟩ := written
  refine ⟨between ++ [parent], ?_, .inside member stands, scopedSlots, ofSlots, ?_⟩
  · rw [place, List.append_assoc, List.singleton_append]
  · rw [fields, List.any_append, List.any_cons, List.any_nil, Bool.or_false,
      Bool.or_assoc, Bool.or_comm (isLoop parent)]

theorem keepsDepth_data {looped : Bool} {outside : List Node} {tag : StartTag}
    {children : List Node} {slots : List Slot} {span : Span}
    {expected : Except CompileError (List String)} {entries : Generator (List String)}
    (kept :
      KeepsDepth looped (IsWrittenIn looped outside (.element tag children slots span))
        expected entries) :
    KeepsDepth looped (IsWrittenIn looped outside (.element tag children slots span))
      (expected >>= fun entries => .ok (dataObject? tag looped
        (if slots.isEmpty then none else some (scopedSlotsCode slots entries))))
      (writtenData outside tag children slots span entries) := by
  refine KeepsDepth.ask (kept.bind fun entries => ?_)
  rw [← dataOfFields?_dataFields]
  refine (KeepsDepth.write ⟨[], rfl, .here, _, isSlotsCode slots entries, ?_⟩).bind
    fun _ => .pure _
  rw [List.any_nil, Bool.or_false]

theorem keepsDepth_element {looped : Bool} {outside : List Node} {tag : StartTag}
    {children : List Node} {slots : List Slot} {span : Span}
    (inChildren : ∀ child ∈ children,
      KeepsDepth looped (IsWrittenIn looped outside (.element tag children slots span))
        (nodeCode looped child)
        (writtenNode (.element tag children slots span :: outside) child))
    (inSlots : ∀ child ∈ slots.flatMap Slot.children,
      KeepsDepth looped (IsWrittenIn looped outside (.element tag children slots span))
        (nodeCode looped child)
        (writtenNode (.element tag children slots span :: outside) child)) :
    KeepsDepth looped (IsWrittenIn looped outside (.element tag children slots span))
      (nodeCode looped (.element tag children slots span))
      (writtenNode outside (.element tag children slots span)) := by
  rw [nodeCode, writtenNode]
  by_cases named : tag.name = "template"
  · have isTemplate : (tag.name == "template") = true := beq_iff_eq.mpr named
    rw [if_pos isTemplate, if_pos isTemplate]
    exact (keepsDepth_pairs inChildren).bind fun content => .pure _
  have notTemplate : ¬ (tag.name == "template") = true :=
    fun same => named (beq_iff_eq.mp same)
  rw [if_neg notTemplate, if_neg notTemplate]
  by_cases misplaced : tag.hasDirective "slot" = true
  · rw [if_pos misplaced, if_pos misplaced]
    exact .throw _
  rw [if_neg misplaced, if_neg misplaced]
  have data := keepsDepth_data (keepsDepth_slots inSlots)
  cases content : tag.hasDirective "html" || tag.hasDirective "text" with
  | true =>
      have whole := data.bind fun data => .pure (elementCode tag data none)
      rw [bind_assoc] at whole
      exact whole
  | false =>
      have given := (keepsDepth_pairs inChildren).map (childrenCode? true ·)
      have whole := data.bind fun data =>
        given.bind fun content => .pure (elementCode tag data content)
      rw [bind_assoc] at whole
      exact whole

/-- The generator gives the code of a node, and keeps the depth. -/
theorem keepsDepth_node (node : Node) (looped : Bool) (outside : List Node) :
    KeepsDepth looped (IsWrittenIn looped outside node) (nodeCode looped node)
      (writtenNode outside node) := by
  induction node using Node.inside_induct generalizing looped outside with
  | step node induction =>
      have inside : ∀ child ∈ node.inside,
          KeepsDepth (looped || isLoop node) (IsWrittenIn looped outside node)
            (nodeCode (looped || isLoop node) child)
            (writtenNode (node :: outside) child) :=
        fun child member => (induction child member _ _).mono fun _ =>
          .of_inside member
      have unlooped (other : isLoop node = false) : ∀ child ∈ node.inside,
          KeepsDepth looped (IsWrittenIn looped outside node) (nodeCode looped child)
            (writtenNode (node :: outside) child) := by
        rwa [other, Bool.or_false] at inside
      cases node with
      | text content span =>
          rw [nodeCode, writtenNode]
          exact .pure _
      | interpolation expression span =>
          rw [nodeCode, writtenNode]
          exact .pure _
      | comment content span =>
          rw [nodeCode, writtenNode]
          exact .pure _
      | conditional branches span =>
          rw [nodeCode, writtenNode]
          exact keepsDepth_branches (unlooped rfl)
      | loop head children span =>
          rw [isLoop, Bool.or_true] at inside
          rw [nodeCode, writtenNode]
          exact (keepsDepth_first inside).inLoop.bind fun body => .pure _
      | outlet outlet fallback span =>
          rw [nodeCode, writtenNode]
          exact (keepsDepth_pairs (unlooped rfl)).bind fun content => .pure _
      | slotTemplate directives children span =>
          rw [nodeCode, writtenNode]
          exact (keepsDepth_pairs (unlooped rfl)).bind fun content => .pure _
      | element tag children slots span =>
          obtain ⟨inChildren, inSlots⟩ := List.forall_mem_append.mp (unlooped rfl)
          exact keepsDepth_element inChildren inSlots

/-! ## Calls of the generator -/

/-- What the generator can be asked for. -/
inductive GeneratorCall where
  | node (top : Node)
  | children (ofElement : Bool) (nodes : List Node)
  | conditional (branches : List Branch)
  | data (tag : StartTag) (nodes : List Node) (slots : List Slot) (span : Span)
  | scopedSlots (slots : List Slot)

namespace GeneratorCall

def perform : GeneratorCall → Generator (Option String)
  | .node top => some <$> writtenNode [] top
  | .children ofElement nodes => (childrenCode? ofElement ·) <$> writtenPairs [] nodes
  | .conditional branches => some <$> writtenBranches [] branches
  | .data tag nodes slots span =>
    writtenData [] tag nodes slots span
      (writtenSlots [.element tag nodes slots span] slots)
  | .scopedSlots slots =>
    (fun entries => some (scopedSlotsCode slots entries)) <$> writtenSlots [] slots

/-- What is asked for, given whether there is a loop around it. -/
def code (looped : Bool) : GeneratorCall → Except CompileError (Option String)
  | .node top => some <$> nodeCode looped top
  | .children ofElement nodes =>
    (childrenCode? ofElement ·) <$> pairedCodes looped nodes
  | .conditional branches => some <$> branchesCode looped branches
  | .data tag _ slots _ => do
    let entries ← slotCodes looped slots
    .ok (dataObject? tag looped
      (if slots.isEmpty then none else some (scopedSlotsCode slots entries)))
  | .scopedSlots slots =>
    (fun entries => some (scopedSlotsCode slots entries)) <$> slotCodes looped slots

/-- The nodes that a call is about. -/
def tops : GeneratorCall → List Node
  | .node top => [top]
  | .children _ nodes => nodes
  | .conditional branches => branches.flatMap Branch.children
  | .data tag nodes slots span => [.element tag nodes slots span]
  | .scopedSlots slots => slots.flatMap Slot.children

/-- Perform calls one after the other, whether they fail or not. -/
def performEach : List GeneratorCall → GeneratorState →
    List (Except CompileError (Option String)) × GeneratorState
  | [], state => ([], state)
  | call :: rest, state =>
    let (result, later) := call.perform.runFrom state
    let (results, last) := performEach rest later
    (result :: results, last)

end GeneratorCall

/-- An element stands in one of some nodes, and has the data of an element in a loop
exactly if there is a loop around it there, or one was open already. -/
structure IsWrittenExactly (looped : Bool) (tops : List Node)
    (element : WrittenElement) : Prop where
  stands : ∃ top ∈ tops, StandsIn element.node top element.around
  data : ∃ scopedSlots, dataOfFields? element.tag element.fields =
    dataObject? element.tag (looped || element.around.any isLoop) scopedSlots
  marked : "refInFor:true" ∈ element.fields ↔
    HasRef element.tag ∧ (looped = true ∨ ∃ node ∈ element.around, isLoop node = true)

theorem isWrittenExactly_of_writtenIn {looped : Bool} {tops : List Node} {top : Node}
    {element : WrittenElement} (member : top ∈ tops)
    (written : IsWrittenIn looped [] top element) :
    IsWrittenExactly looped tops element := by
  obtain ⟨between, place, stands, scopedSlots, ofSlots, fields⟩ := written
  rw [List.append_nil] at place
  subst place
  refine ⟨⟨top, member, stands⟩, ⟨scopedSlots, ?_⟩, ?_⟩
  · rw [fields, dataOfFields?_dataFields]
  · have marked :=
      loopMark_mem_dataFields_iff element.tag (looped || element.around.any isLoop)
        ofSlots
    rwa [← fields, Bool.or_eq_true, List.any_eq_true] at marked

theorem GeneratorCall.keepsDepth (call : GeneratorCall) (looped : Bool) :
    KeepsDepth looped (IsWrittenExactly looped call.tops) (call.code looped)
      call.perform := by
  have each : ∀ top ∈ call.tops, KeepsDepth looped (IsWrittenExactly looped call.tops)
      (nodeCode looped top) (writtenNode [] top) :=
    fun top member => (keepsDepth_node top looped []).mono fun _ =>
      isWrittenExactly_of_writtenIn member
  cases call with
  | node top => exact (each top (List.mem_singleton_self top)).map some
  | children ofElement nodes =>
      exact (keepsDepth_pairs each).map (childrenCode? ofElement ·)
  | conditional branches => exact (keepsDepth_branches each).map some
  | scopedSlots slots =>
      exact (keepsDepth_slots each).map fun entries =>
        some (scopedSlotsCode slots entries)
  | data tag nodes slots span =>
      have inside : ∀ child ∈ slots.flatMap Slot.children,
          KeepsDepth looped (IsWrittenIn looped [] (.element tag nodes slots span))
            (nodeCode looped child)
            (writtenNode [.element tag nodes slots span] child) := by
        intro child member
        have unlooped : (looped || isLoop (.element tag nodes slots span)) = looped :=
          Bool.or_false looped
        refine (keepsDepth_node child looped _).mono fun element written => ?_
        exact .of_inside (List.mem_append_right nodes member) (by rwa [unlooped])
      exact (keepsDepth_data (keepsDepth_slots inside)).mono fun _ =>
        isWrittenExactly_of_writtenIn (List.mem_singleton_self _)

/-- A run of calls keeps what each of them does. -/
theorem GeneratorCall.performEach_eq (calls : List GeneratorCall)
    (state : GeneratorState) :
    ∃ new, performEach calls state =
        (calls.map (GeneratorCall.code (0 < state.depth)),
          ⟨state.depth, state.written ++ new⟩) ∧
      ∀ element ∈ new, ∃ call ∈ calls,
        IsWrittenExactly (0 < state.depth) call.tops element := by
  induction calls generalizing state with
  | nil => exact ⟨[], by rw [performEach, List.append_nil]; rfl, by simp⟩
  | cons call rest induction =>
      obtain ⟨new, run, kinds⟩ := call.keepsDepth _ state rfl
      obtain ⟨more, runRest, moreKinds⟩ :=
        induction ⟨state.depth, state.written ++ new⟩
      refine ⟨new ++ more, ?_, fun element member => ?_⟩
      · rw [performEach, run]
        dsimp only
        rw [runRest, ← List.append_assoc, List.map_cons]
      · rcases List.mem_append.mp member with here | later
        · exact ⟨call, List.mem_cons_self, kinds element here⟩
        · obtain ⟨other, inRest, marked⟩ := moreKinds element later
          exact ⟨other, List.mem_cons_of_mem call inRest, marked⟩

/-- The body of a render function, by a generator that counts loops. -/
def countedGenerate (tree : Template.Tree) : Except CompileError String := do
  let code ← (writtenNode [] (← root tree)).runFrom ⟨0, []⟩ |>.1
  return "with(this)\x7breturn " ++ code ++ "\x7d"

/-- The counter of loops is exact.  Every call leaves it as it found it, with a
fault as well, and marks a reference exactly if a loop is open or stands around
its element; no data is made without being written.  So in a run of calls from no
loop on, a reference is marked exactly if there is a loop around its element, and
a template has the code that it has without a counter. -/
theorem generator_countsLoops :
    (∀ (call : GeneratorCall) (state : GeneratorState), ∃ new,
      call.perform.runFrom state =
          (call.code (0 < state.depth), ⟨state.depth, state.written ++ new⟩) ∧
        ∀ element ∈ new, IsWrittenExactly (0 < state.depth) call.tops element) ∧
    (∀ (around : List Node) (tag : StartTag) (children : List Node) (slots : List Slot)
        (span : Span) (entries : Generator (List String)) (state last : GeneratorState)
        (data : Option String),
      (writtenData around tag children slots span entries).runFrom state =
        (.ok data, last) →
        ∃ element, last.written.getLast? = some element ∧
          element.node = .element tag children slots span ∧ element.around = around ∧
          dataOfFields? tag element.fields = data) ∧
    (∀ calls : List GeneratorCall, ∃ written,
      GeneratorCall.performEach calls ⟨0, []⟩ =
          (calls.map (GeneratorCall.code false), ⟨0, written⟩) ∧
        ∀ element ∈ written,
          (∃ call ∈ calls, ∃ top ∈ call.tops,
            StandsIn element.node top element.around) ∧
          ("refInFor:true" ∈ element.fields ↔
            HasRef element.tag ∧ ∃ node ∈ element.around, isLoop node = true)) ∧
    ∀ tree : Template.Tree, countedGenerate tree = generate tree := by
  refine ⟨fun call state => call.keepsDepth _ state rfl,
    fun _ _ _ _ _ _ _ _ _ run => getLast?_written_of_data run, fun calls =>
      ?_, fun tree => ?_⟩
  · obtain ⟨new, run, kinds⟩ := GeneratorCall.performEach_eq calls ⟨0, []⟩
    refine ⟨new, run, fun element member => ?_⟩
    obtain ⟨call, inCalls, exactly⟩ := kinds element member
    exact ⟨⟨call, inCalls, exactly.stands⟩, by simpa using exactly.marked⟩
  · unfold countedGenerate generate
    cases root tree with
    | error fault => rfl
    | ok top =>
        obtain ⟨new, run, _⟩ := keepsDepth_node top false [] ⟨0, []⟩ rfl
        have sameCode : ((writtenNode [] top).runFrom ⟨0, []⟩).1 =
            nodeCode false top := by rw [run]
        exact congrArg (· >>= fun code =>
          pure ("with(this)\x7breturn " ++ code ++ "\x7d")) sameCode

/-- A reference in a conditional in a loop is marked, and one
beside the loop is not. -/
example :
    let span : Span := ⟨0, 0⟩
    let element (name : String) (ref : List Attribute) (children : List Node) : Node :=
      .element ⟨name, false, ref, [], [], []⟩ children [] span
    let item := element "i" [⟨"ref", some ⟨"a", span⟩, span⟩] []
    let loop : Node := .loop ⟨⟨"xs", span⟩, ⟨"x", span⟩, none, none⟩
      [.conditional [.mk .first (some ⟨"c", span⟩) [item] span] span] span
    nodeCode false (element "p" [] [loop, item]) = .ok
      ("_c('p',[_l((xs),function(x)\x7breturn (c)?"
        ++ "_c('i',\x7bref:\"a\",refInFor:true\x7d):_e()\x7d),"
        ++ "_c('i',\x7bref:\"a\"\x7d)],2)") := by
  decide +kernel

end VuePrecompiler.Render
