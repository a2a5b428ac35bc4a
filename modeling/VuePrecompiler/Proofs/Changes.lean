import VuePrecompiler.Proofs.ChainGrammar
import VuePrecompiler.Render.Children

/-!
# Changes of a template

A `Change` takes comments out of a template and changes the data of the nodes
that stay.  If it leaves alone what arranging looks at, a changed template has
the changed fault, or is arranged to the changed arranged template.  Taking out
all comments is such a change, and so is forgetting all places.
-/

namespace VuePrecompiler.Template

open Source

open Render (isComment isTextual isBlankNode)

/-! ## Comments -/

theorem eq_comment {node : Node} (comment : isComment node = true) :
    ∃ content span, node = .comment content span := by
  cases node with
  | comment content span => exact ⟨content, span, rfl⟩
  | _ => contradiction

theorem isInsignificant_of_isComment {node : Node} (comment : isComment node = true) :
    node.isInsignificant = true := by
  obtain ⟨content, span, rfl⟩ := eq_comment comment
  rfl

theorem faultless (node : Node) (comment : isComment node = true) :
    node.fault? = none := by
  obtain ⟨content, span, rfl⟩ := eq_comment comment
  rfl

theorem isComment_arranged (node : Node) :
    isComment node.arranged = isComment node := by
  cases node with
  | element tag children slots span =>
      obtain ⟨inner, filled, same⟩ := exists_arranged_element tag children slots span
      rw [same]
      rfl
  | _ => rw [Node.arranged] <;> rfl

/-! ## Changes -/

/-- An error at another place. -/
def CompileError.moved (place : Span → Span) : CompileError → CompileError
  | .unexpectedToken expected found span =>
    .unexpectedToken expected found (place span)
  | .invalidLoop expression span => .invalidLoop expression (place span)
  | .unpairedElse span => .unpairedElse (place span)
  | .invalidRoot fault span => .invalidRoot fault (place span)
  | .invalidSlot fault span => .invalidSlot fault (place span)

/-- Which nodes of a list stay, and what becomes of a node, of the data that
it holds and of its place. -/
structure Change where
  stays : Node → Bool
  node : Node → Node
  code : Code → Code
  tag : StartTag → StartTag
  head : LoopHead → LoopHead
  outlet : Outlet → Outlet
  directive : Directive → Directive
  slotHead : SlotHead → SlotHead
  place : Span → Span

namespace Change

variable (change : Change)

/-- The nodes of a list that stay, each changed. -/
def each (nodes : List Node) : List Node :=
  (nodes.filter change.stays).map change.node

def branch (branch : Branch) : Branch :=
  .mk branch.kind (branch.condition.map change.code) (change.each branch.children)
    (change.place branch.span)

def slot (slot : Slot) : Slot :=
  .mk (change.slotHead slot.head) (change.each slot.children)

def tree (tree : Tree) : Tree where
  children := change.each tree.children
  span := change.place tree.span

/-- What is made of a result, with its error at the changed place. -/
def result {Given Kept : Type} (kept : Given → Kept) :
    Except CompileError Given → Except CompileError Kept
  | .ok given => .ok (kept given)
  | .error fault => .error (fault.moved change.place)

/-- A change goes through a node to the nodes below it, takes nothing away but
comments, and leaves alone what arranging looks at: whether a tag takes slot
content, its `v-slot`, and the name of a slot. -/
structure KeepsArrangement : Prop where
  element (tag : StartTag) (children : List Node) (slots : List Slot) (span : Span) :
    change.node (.element tag children slots span) =
      .element (change.tag tag) (change.each children) (slots.map change.slot)
        (change.place span)
  text (content : String) (span : Span) :
    change.node (.text content span) = .text content (change.place span)
  interpolation (expression : Code) (span : Span) :
    change.node (.interpolation expression span) =
      .interpolation (change.code expression) (change.place span)
  comment (content : String) (span : Span) :
    change.node (.comment content span) = .comment content (change.place span)
  conditional (branches : List Branch) (span : Span) :
    change.node (.conditional branches span) =
      .conditional (branches.map change.branch) (change.place span)
  loop (head : LoopHead) (children : List Node) (span : Span) :
    change.node (.loop head children span) =
      .loop (change.head head) (change.each children) (change.place span)
  outlet (outlet : Outlet) (fallback : List Node) (span : Span) :
    change.node (.outlet outlet fallback span) =
      .outlet (change.outlet outlet) (change.each fallback) (change.place span)
  slotTemplate (directives : List Directive) (children : List Node) (span : Span) :
    change.node (.slotTemplate directives children span) =
      .slotTemplate (directives.map change.directive) (change.each children)
        (change.place span)
  comments : ∀ node, change.stays node = false → isComment node = true
  merged : ∀ left right : Span,
    (change.place left).merge (change.place right) = change.place (left.merge right)
  takesSlots : ∀ tag, (change.tag tag).takesSlots = tag.takesSlots
  takenSlot : ∀ tag : StartTag, (change.tag tag).takeDirective? "slot" =
    ((tag.takeDirective? "slot").1.map change.directive,
      change.tag (tag.takeDirective? "slot").2)
  directiveName : ∀ given, (change.directive given).name = given.name
  directiveSpan : ∀ given, (change.directive given).span = change.place given.span
  slotHeadOf : ∀ given span, SlotHead.ofDirective (change.directive given)
    (change.place span) = change.slotHead (.ofDirective given span)
  slotName : ∀ head, (change.slotHead head).name = head.name
  slotSpan : ∀ head, (change.slotHead head).span = change.place head.span

section

variable {change} {node : Node} {rest : List Node}

theorem each_cons_of_stays (stays : change.stays node = true) :
    change.each (node :: rest) = change.node node :: change.each rest := by
  rw [each, List.filter_cons_of_pos stays]
  rfl

theorem each_cons_of_leaves (leaves : change.stays node = false) :
    change.each (node :: rest) = change.each rest := by
  rw [each, List.filter_cons_of_neg (by simp [leaves])]
  rfl

end

theorem each_append (left right : List Node) :
    change.each (left ++ right) = change.each left ++ change.each right := by
  simp only [each, List.filter_append, List.map_append]

theorem each_reverse (nodes : List Node) :
    change.each nodes.reverse = (change.each nodes).reverse := by
  simp only [each, List.filter_reverse, List.map_reverse]

/-- Selecting nodes by something that is not changed. -/
theorem each_filter (select : Node → Bool)
    (same : ∀ node, select (change.node node) = select node) (nodes : List Node) :
    (change.each nodes).filter select = change.each (nodes.filter select) := by
  simp only [each, List.filter_map, List.filter_filter, Function.comp_def, same,
    Bool.and_comm]

/-- Another function over the nodes that stay. -/
theorem each_map {other : Node → Node}
    (kept : ∀ node, change.stays (other node) = change.stays node) {nodes : List Node}
    (same : ∀ node ∈ nodes, other (change.node node) = change.node (other node)) :
    (change.each nodes).map other = change.each (nodes.map other) := by
  simp only [each, List.filter_map, List.map_map, Function.comp_def, kept]
  apply List.map_congr_left
  intro node member
  exact same node (List.mem_filter.mp member).1

theorem result_bind {Given Kept Last End : Type} {kept : Given → Kept}
    {last : Last → End} {given : Except CompileError Given}
    {next : Given → Except CompileError Last} {other : Kept → Except CompileError End}
    (same : ∀ value, other (kept value) = change.result last (next value)) :
    change.result kept given >>= other = change.result last (given >>= next) := by
  cases given with
  | error fault => rfl
  | ok value => exact same value

/-- What is seen of a node among its siblings, and of what it becomes. -/
structure Reflects (node other : Node) : Prop where
  isComment : isComment other = isComment node
  isTextual : isTextual other = isTextual node
  isBlankNode : isBlankNode other = isBlankNode node
  isInsignificant : other.isInsignificant = node.isInsignificant
  span : other.span = change.place node.span
  isOpenChain : other.isOpenChain = node.isOpenChain
  continuation : other.continuation? = node.continuation?.map fun continued =>
    (continued.1.map change.branch, change.place continued.2)
  slot : other.slot? = node.slot?.map change.slot

theorem continuation?_map (branches : List Branch) (span : Span) :
    (Node.conditional (branches.map change.branch) (change.place span)).continuation? =
      (Node.conditional branches span).continuation?.map fun continued =>
        (continued.1.map change.branch, change.place continued.2) := by
  cases branches with
  | nil => rfl
  | cons first rest =>
      have kind : (change.branch first).kind = first.kind := rfl
      simp only [List.map_cons, Node.continuation?, kind]
      split <;> rfl

theorem isOpenChain_map (branches : List Branch) (span : Span) :
    (Node.conditional (branches.map change.branch) (change.place span)).isOpenChain =
      (Node.conditional branches span).isOpenChain := by
  rw [Node.isOpenChain, Node.isOpenChain, List.getLast?_map, Option.any_map]
  rfl

namespace KeepsArrangement

variable {change} (keeps : change.KeepsArrangement)
include keeps

theorem slot?_slotTemplate (directives : List Directive) (children : List Node)
    (span : Span) :
    (Node.slotTemplate (directives.map change.directive) (change.each children)
      (change.place span)).slot? =
      (Node.slotTemplate directives children span).slot?.map change.slot := by
  have named : (fun given : Directive => given.name == "slot") ∘ change.directive =
      fun given => given.name == "slot" :=
    funext fun given => congrArg (· == "slot") (keeps.directiveName given)
  rw [Node.slot?, Node.slot?, List.find?_map, named, Option.map_map, Option.map_map]
  congr 1
  funext given
  exact congrArg (Slot.mk · _) (keeps.slotHeadOf given span)

theorem reflects (node : Node) : change.Reflects node (change.node node) := by
  cases node with
  | element =>
      rw [keeps.element]
      constructor <;> rfl
  | text =>
      rw [keeps.text]
      constructor <;> rfl
  | interpolation =>
      rw [keeps.interpolation]
      constructor <;> rfl
  | comment =>
      rw [keeps.comment]
      constructor <;> rfl
  | loop =>
      rw [keeps.loop]
      constructor <;> rfl
  | outlet =>
      rw [keeps.outlet]
      constructor <;> rfl
  | conditional branches span =>
      rw [keeps.conditional]
      exact ⟨rfl, rfl, rfl, rfl, rfl, change.isOpenChain_map branches span,
        change.continuation?_map branches span, rfl⟩
  | slotTemplate directives children span =>
      rw [keeps.slotTemplate]
      exact ⟨rfl, rfl, rfl, rfl, rfl, rfl, rfl,
        keeps.slot?_slotTemplate directives children span⟩

theorem stays_of_shown {node : Node} (shown : isComment node = false) :
    change.stays node = true := by
  cases stays : change.stays node with
  | true => rfl
  | false => rw [keeps.comments node stays] at shown; contradiction

theorem stays_arranged (node : Node) :
    change.stays node.arranged = change.stays node := by
  cases comment : isComment node with
  | true =>
      obtain ⟨content, span, rfl⟩ := eq_comment comment
      rfl
  | false =>
      rw [keeps.stays_of_shown comment,
        keeps.stays_of_shown ((isComment_arranged node).trans comment)]

/-! ## Chains -/

theorem chainFaultBehind?_each (previous : Option Node) (siblings : List Node) :
    chainFaultBehind? (previous.map change.node) (change.each siblings) =
      (chainFaultBehind? previous siblings).map (.moved change.place) := by
  induction siblings generalizing previous with
  | nil => rfl
  | cons node rest induction =>
      cases stays : change.stays node with
      | false =>
          have insignificant : node.isInsignificant = true :=
            isInsignificant_of_isComment (keeps.comments node stays)
          rw [each_cons_of_leaves stays, chainFaultBehind?, if_pos insignificant]
          exact induction previous
      | true =>
          have seen := keeps.reflects node
          have opens : (previous.map change.node).any Node.isOpenChain =
              previous.any Node.isOpenChain := by
            cases previous with
            | none => rfl
            | some before => exact (keeps.reflects before).isOpenChain
          have later := induction (some node)
          rw [Option.map_some] at later
          rw [each_cons_of_stays stays, chainFaultBehind?, chainFaultBehind?,
            seen.isInsignificant, seen.continuation, Option.isSome_map, seen.span,
            opens, induction, later]
          split
          · rfl
          · split <;> rfl

/-- Joining chains keeps what is done with a node that stays at its end, so that a
branch finds the same node in front before and after the change. -/
theorem joinBehind_each (done gap rest : List Node)
    (visible : ∀ node ∈ done.head?, change.stays node = true) :
    joinBehind (change.each done) (change.each gap) (change.each rest) =
      change.each (joinBehind done gap rest) := by
  induction rest generalizing done gap with
  | nil =>
      have none_left : change.each [] = [] := rfl
      rw [none_left, joinBehind, joinBehind, ← change.each_append, change.each_reverse]
  | cons node rest induction =>
      cases stays : change.stays node with
      | false =>
          have insignificant : node.isInsignificant = true :=
            isInsignificant_of_isComment (keeps.comments node stays)
          rw [each_cons_of_leaves stays, joinBehind_insignificant _ _ _ insignificant,
            ← induction done (node :: gap) visible, each_cons_of_leaves stays]
      | true =>
          have seen := keeps.reflects node
          have apart : joinBehind (change.node node :: (change.each gap ++
              change.each done)) [] (change.each rest) =
              change.each (joinBehind (node :: (gap ++ done)) [] rest) := by
            rw [← induction _ [] (by simpa using stays), each_cons_of_stays stays,
              change.each_append]
            rfl
          rw [each_cons_of_stays stays, joinBehind.eq_def, joinBehind.eq_def done]
          dsimp only
          rw [seen.isInsignificant, seen.continuation]
          split
          · rw [← induction done (node :: gap) visible, each_cons_of_stays stays]
          · cases continues : node.continuation? with
            | none => exact apart
            | some continued =>
                cases done with
                | nil => exact apart
                | cons chain before =>
                    rw [each_cons_of_stays (visible chain rfl)] at apart ⊢
                    dsimp only [Option.map_some]
                    rw [(keeps.reflects chain).isOpenChain]
                    split
                    · next isOpen =>
                      obtain ⟨own, span, rfl⟩ := exists_of_isOpenChain isOpen
                      have extended (branches : List Branch) (other : Span) :
                          change.stays (.conditional branches other) = true :=
                        keeps.stays_of_shown rfl
                      rw [Node.extend, ← induction _ [] (by simpa using extended _ _),
                        each_cons_of_stays (extended _ _), keeps.conditional,
                        keeps.conditional, Node.extend, List.map_append, keeps.merged]
                      rfl
                    · exact apart

theorem joinChains_each (siblings : List Node) :
    joinChains (change.each siblings) = change.each (joinChains siblings) :=
  keeps.joinBehind_each [] [] siblings (by simp)

/-! ## Slot content -/

theorem slots_each (children : List Node) :
    (change.each children).filterMap Node.slot? =
      (children.filterMap Node.slot?).map change.slot := by
  induction children with
  | nil => rfl
  | cons node rest induction =>
      cases stays : change.stays node with
      | false =>
          obtain ⟨content, span, rfl⟩ := eq_comment (keeps.comments node stays)
          rw [each_cons_of_leaves stays, induction]
          rfl
      | true =>
          rw [each_cons_of_stays stays, List.filterMap_cons, List.filterMap_cons,
            induction, (keeps.reflects node).slot]
          cases node.slot? <;> rfl

theorem duplicateSlot?_map (taken : List String) (slots : List Slot) :
    duplicateSlot? taken (slots.map change.slot) =
      (duplicateSlot? taken slots).map (.moved change.place) := by
  induction slots generalizing taken with
  | nil => rfl
  | cons slot rest induction =>
      have head : (change.slot slot).head = change.slotHead slot.head := rfl
      rw [List.map_cons, duplicateSlot?, duplicateSlot?, head, keeps.slotName,
        keeps.slotSpan, induction]
      split <;> rfl

theorem slotFault?_each (tag : StartTag) (children : List Node) :
    slotFault? (change.tag tag) (change.each children) =
      (slotFault? tag children).map (.moved change.place) := by
  simp only [slotFault?, keeps.slots_each, keeps.duplicateSlot?_map, List.isEmpty_map,
    keeps.takenSlot, Option.map_or]
  cases (tag.takeDirective? "slot").1 with
  | none => rfl
  | some own =>
      dsimp only [Option.map_some]
      rw [keeps.directiveSpan]
      split <;> rfl

theorem others_each (children : List Node) :
    (change.each children).filter (fun child => child.slot?.isNone) =
      change.each (children.filter fun child => child.slot?.isNone) :=
  change.each_filter _ (fun node => by rw [(keeps.reflects node).slot,
    Option.isNone_map]) children

theorem templates_each (children : List Node) :
    (change.each children).filter (fun child => child.slot?.isSome) =
      change.each (children.filter fun child => child.slot?.isSome) :=
  change.each_filter _ (fun node => by rw [(keeps.reflects node).slot,
    Option.isSome_map]) children

theorem collectSlots_each (tag : StartTag) (children : List Node) (span : Span) :
    collectSlots (change.tag tag) (change.each children) (change.place span) =
      { tag := change.tag (collectSlots tag children span).tag
        slots := (collectSlots tag children span).slots.map change.slot
        children := change.each (collectSlots tag children span).children } := by
  unfold collectSlots
  rw [keeps.takenSlot]
  rcases tag.takeDirective? "slot" with ⟨_ | own, rest⟩
  · simp only [keeps.slots_each, keeps.others_each, Option.map_none]
  · simp only [keeps.slots_each, keeps.others_each, List.map_append,
      List.map_singleton, Option.map_some, keeps.slotHeadOf own span]
    rfl

/-! ## Arranged templates -/

theorem joined_slot (slot : Slot) :
    (change.slot slot).joined = change.slot slot.joined :=
  congrArg (Slot.mk (change.slotHead slot.head)) (keeps.joinChains_each slot.children)

theorem arrangedSiblings_each {siblings : List Node}
    (same : ∀ node ∈ siblings,
      (change.node node).arranged = change.node node.arranged) :
    joinChains ((change.each siblings).map Node.arranged) =
      change.each (joinChains (siblings.map Node.arranged)) := by
  rw [change.each_map keeps.stays_arranged same, keeps.joinChains_each]

theorem arranged_node (node : Node) :
    (change.node node).arranged = change.node node.arranged := by
  induction node using Node.inside_induct with
  | step node induction =>
      cases node with
      | text => rw [keeps.text, Node.arranged, Node.arranged, keeps.text]
      | interpolation =>
          rw [keeps.interpolation, Node.arranged, Node.arranged, keeps.interpolation]
      | comment => rw [keeps.comment, Node.arranged, Node.arranged, keeps.comment]
      | loop head children span =>
          rw [keeps.loop, Node.arranged, Node.arranged, keeps.loop,
            arrangedEach_eq_map, arrangedEach_eq_map]
          exact congrArg (Node.loop _ · _) (keeps.arrangedSiblings_each induction)
      | outlet outlet fallback span =>
          rw [keeps.outlet, Node.arranged, Node.arranged, keeps.outlet,
            arrangedEach_eq_map, arrangedEach_eq_map]
          exact congrArg (Node.outlet _ · _) (keeps.arrangedSiblings_each induction)
      | slotTemplate directives children span =>
          rw [keeps.slotTemplate, Node.arranged, Node.arranged, keeps.slotTemplate,
            arrangedEach_eq_map, arrangedEach_eq_map]
          exact congrArg (Node.slotTemplate _ · _)
            (keeps.arrangedSiblings_each induction)
      | conditional branches span =>
          rw [keeps.conditional, Node.arranged, Node.arranged, keeps.conditional,
            arrangedBranches_eq_map, arrangedBranches_eq_map, List.map_map,
            List.map_map]
          congr 1
          apply List.map_congr_left
          intro branch given
          refine congrArg (Branch.mk branch.kind (branch.condition.map change.code) ·
            (change.place branch.span)) ?_
          exact keeps.arrangedSiblings_each fun child member =>
            induction child (List.mem_flatMap.mpr ⟨branch, given, member⟩)
      | element tag children slots span =>
          have inChildren : (change.each children).map Node.arranged =
              change.each (children.map Node.arranged) :=
            change.each_map keeps.stays_arranged fun child member =>
              induction child (List.mem_append_left _ member)
          have inSlots : (slots.map change.slot).map Slot.arranged =
              (slots.map Slot.arranged).map change.slot := by
            rw [List.map_map, List.map_map]
            apply List.map_congr_left
            intro slot given
            refine congrArg (Slot.mk (change.slotHead slot.head)) ?_
            exact keeps.arrangedSiblings_each fun child member =>
              induction child (List.mem_append_right _
                (List.mem_flatMap.mpr ⟨slot, given, member⟩))
          have joins (collected : List Slot) :
              (collected.map change.slot).map Slot.joined =
                (collected.map Slot.joined).map change.slot := by
            rw [List.map_map, List.map_map]
            exact List.map_congr_left fun slot _ => keeps.joined_slot slot
          rw [keeps.element, Node.arranged, Node.arranged]
          simp only [arrangedEach_eq_map, arrangedSlots_eq_map, inChildren, inSlots,
            keeps.takesSlots, keeps.collectSlots_each tag _ span,
            keeps.joinChains_each]
          split
          · rw [keeps.element, List.map_append]
            exact congrArg (fun content => Node.element _ _ (_ ++ content) _) (joins _)
          · rw [keeps.element]

/-! ## Faults -/

omit keeps in
/-- Looking for a fault in items that are changed. -/
theorem findSome?_map_moved {Item : Type} {kept : Item → Item}
    {check : Item → Option CompileError} {place : Span → Span} {items : List Item}
    (same : ∀ item ∈ items, check (kept item) = (check item).map (.moved place)) :
    (items.map kept).findSome? check =
      (items.findSome? check).map (.moved place) := by
  induction items with
  | nil => rfl
  | cons item rest induction =>
      rw [List.map_cons, findSome?_cons_eq_or, findSome?_cons_eq_or,
        same item List.mem_cons_self,
        induction fun later member => same later (List.mem_cons_of_mem item member),
        Option.map_or]

/-- Looking for a fault that no comment has. -/
theorem findSome?_each {check : Node → Option CompileError}
    (silent : ∀ node, isComment node = true → check node = none) {siblings : List Node}
    (same : ∀ node ∈ siblings,
      check (change.node node) = (check node).map (.moved change.place)) :
    (change.each siblings).findSome? check =
      (siblings.findSome? check).map (.moved change.place) := by
  induction siblings with
  | nil => rfl
  | cons node rest induction =>
      have later :=
        induction fun other member => same other (List.mem_cons_of_mem node member)
      cases stays : change.stays node with
      | false =>
          rw [each_cons_of_leaves stays, findSome?_cons_eq_or,
            silent node (keeps.comments node stays), Option.none_or, later]
      | true =>
          rw [each_cons_of_stays stays, findSome?_cons_eq_or, findSome?_cons_eq_or,
            same node List.mem_cons_self, later, Option.map_or]

theorem siblingsFault?_each {siblings : List Node}
    (same : ∀ node ∈ siblings,
      (change.node node).fault? = node.fault?.map (.moved change.place)) :
    siblingsFault? (change.each siblings) =
      (siblingsFault? siblings).map (.moved change.place) := by
  have chains := keeps.chainFaultBehind?_each none siblings
  rw [siblingsFault?, siblingsFault?, Option.map_or,
    keeps.findSome?_each faultless same]
  exact congrArg (Option.or · _) chains

theorem fault?_node (node : Node) :
    (change.node node).fault? = node.fault?.map (.moved change.place) := by
  induction node using Node.inside_induct with
  | step node induction =>
      cases node with
      | text => rw [keeps.text]; rfl
      | interpolation => rw [keeps.interpolation]; rfl
      | comment => rw [keeps.comment]; rfl
      | loop head children span =>
          rw [keeps.loop, Node.fault?, Node.fault?, siblingsFault?_eq,
            siblingsFault?_eq]
          exact keeps.siblingsFault?_each induction
      | outlet outlet fallback span =>
          rw [keeps.outlet, Node.fault?, Node.fault?, siblingsFault?_eq,
            siblingsFault?_eq]
          exact keeps.siblingsFault?_each induction
      | slotTemplate directives children span =>
          rw [keeps.slotTemplate, Node.fault?, Node.fault?, siblingsFault?_eq,
            siblingsFault?_eq]
          exact keeps.siblingsFault?_each induction
      | conditional branches span =>
          rw [keeps.conditional, Node.fault?, Node.fault?, branchesFault?_eq,
            branchesFault?_eq]
          apply findSome?_map_moved
          intro branch given
          exact keeps.siblingsFault?_each fun child member =>
            induction child (List.mem_flatMap.mpr ⟨branch, given, member⟩)
      | element tag children slots span =>
          have inChildren : ∀ child ∈ children, (change.node child).fault? =
              child.fault?.map (.moved change.place) :=
            fun child member => induction child (List.mem_append_left _ member)
          have inSlots : (slots.map change.slot).findSome?
              (fun slot => siblingsFault? slot.children) =
              (slots.findSome? fun slot => siblingsFault? slot.children).map
                (.moved change.place) := by
            apply findSome?_map_moved
            intro slot given
            exact keeps.siblingsFault?_each fun child member =>
              induction child (List.mem_append_right _
                (List.mem_flatMap.mpr ⟨slot, given, member⟩))
          have sameTakes := keeps.takesSlots tag
          rw [keeps.element]
          cases takes : tag.takesSlots with
          | false =>
              rw [element_fault?_eq takes, element_fault?_eq (sameTakes.trans takes),
                keeps.siblingsFault?_each inChildren, inSlots, Option.map_or]
          | true =>
              have chains := keeps.chainFaultBehind?_each none
                (children.filter fun child => child.slot?.isNone)
              rw [component_fault?_eq takes,
                component_fault?_eq (sameTakes.trans takes), inSlots,
                keeps.slotFault?_each, keeps.others_each, keeps.templates_each,
                ← change.each_append, keeps.findSome?_each faultless]
              · simp only [Option.map_or]
                exact congrArg (fun fault => (Option.or _ (Option.or fault _)).or _)
                  chains
              · intro child member
                apply inChildren
                exact (List.mem_append.mp member).elim
                  (fun other => (List.mem_filter.mp other).1)
                  fun given => (List.mem_filter.mp given).1

/-- A changed template is arranged as it was before, or has the same fault. -/
theorem arrange_tree (tree : Tree) :
    (change.tree tree).arrange = change.result change.tree tree.arrange := by
  have fault : (change.tree tree).fault? =
      tree.fault?.map (.moved change.place) := by
    rw [Tree.fault?, Tree.fault?, siblingsFault?_eq, siblingsFault?_eq]
    exact keeps.siblingsFault?_each fun node _ => keeps.fault?_node node
  have arranged : (change.tree tree).arranged = change.tree tree.arranged := by
    rw [Tree.arranged, Tree.arranged, arrangedEach_eq_map, arrangedEach_eq_map]
    exact congrArg (Tree.mk · _)
      (keeps.arrangedSiblings_each fun node _ => keeps.arranged_node node)
  rw [Tree.arrange, Tree.arrange, fault, arranged]
  cases tree.fault? <;> rfl

end KeepsArrangement

end Change

end VuePrecompiler.Template
