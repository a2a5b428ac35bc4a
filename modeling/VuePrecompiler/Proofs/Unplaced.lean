import VuePrecompiler.Proofs.Changes
import VuePrecompiler.Proofs.ReadingSteps

/-!
# Templates without their places

`Tree.unplaced` forgets where the parts of a template stand.  Nothing depends
on that but the place of an error: reading a start tag, joining chains,
collecting slot content and looking for faults do the same without the places.
-/

namespace VuePrecompiler.Template

open Source

/-- The span of whatever has no place. -/
def nowhere : Span := ⟨0, 0⟩

/-! ## The parts of a start tag -/

def Code.unplaced (code : Code) : Code := { code with span := nowhere }

def Attribute.unplaced (item : Attribute) : Attribute where
  name := item.name
  value := item.value.map fun value => { value with span := nowhere }
  span := nowhere

def Binding.unplaced (item : Binding) : Binding :=
  { item with value := item.value.unplaced, span := nowhere }

def Listener.unplaced (item : Listener) : Listener :=
  { item with handler := item.handler.unplaced, span := nowhere }

def Directive.unplaced (item : Directive) : Directive :=
  { item with value := item.value.map Code.unplaced, span := nowhere }

def StartTag.unplaced (tag : StartTag) : StartTag :=
  { tag with
    attributes := tag.attributes.map Attribute.unplaced
    directives := tag.directives.map Directive.unplaced
    props := tag.props.map Binding.unplaced
    listeners := tag.listeners.map Listener.unplaced }

def TagItem.unplaced : TagItem → TagItem
  | .plain item => .plain item.unplaced
  | .directive item => .directive item.unplaced
  | .binding item => .binding item.unplaced
  | .listener item => .listener item.unplaced
  | .nothing => .nothing

/-! ## Nodes -/

def Pattern.unplaced (pattern : Pattern) : Pattern := { pattern with span := nowhere }

def LoopHead.unplaced (head : LoopHead) : LoopHead where
  source := head.source.unplaced
  value := head.value.unplaced
  key := head.key.map Pattern.unplaced
  index := head.index.map Pattern.unplaced

def OutletName.unplaced : OutletName → OutletName
  | .literal text _ => .literal text nowhere
  | .code given => .code given.unplaced

def Outlet.unplaced (outlet : Outlet) : Outlet where
  name := outlet.name.unplaced
  attributes := outlet.attributes.map Attribute.unplaced
  props := outlet.props.map Binding.unplaced

def SlotHead.unplaced (head : SlotHead) : SlotHead where
  name := head.name
  props := head.props.map Pattern.unplaced
  span := nowhere

mutual

/-- A node without its place and the places of everything below it. -/
def Node.unplaced : Node → Node
  | .element tag children slots _ =>
    .element tag.unplaced (unplacedEach children) (unplacedSlots slots) nowhere
  | .text content _ => .text content nowhere
  | .interpolation expression _ => .interpolation expression.unplaced nowhere
  | .comment content _ => .comment content nowhere
  | .conditional branches _ => .conditional (unplacedBranches branches) nowhere
  | .loop head children _ => .loop head.unplaced (unplacedEach children) nowhere
  | .outlet outlet fallback _ =>
    .outlet outlet.unplaced (unplacedEach fallback) nowhere
  | .slotTemplate directives children _ =>
    .slotTemplate (directives.map Directive.unplaced) (unplacedEach children) nowhere

def unplacedEach : List Node → List Node
  | [] => []
  | node :: rest => node.unplaced :: unplacedEach rest

def unplacedBranches : List Branch → List Branch
  | [] => []
  | .mk kind condition children _ :: rest =>
    .mk kind (condition.map Code.unplaced) (unplacedEach children) nowhere ::
      unplacedBranches rest

def unplacedSlots : List Slot → List Slot
  | [] => []
  | .mk head children :: rest =>
    .mk head.unplaced (unplacedEach children) :: unplacedSlots rest

end

def Branch.unplaced (branch : Branch) : Branch :=
  .mk branch.kind (branch.condition.map Code.unplaced)
    (branch.children.map Node.unplaced) nowhere

def Slot.unplaced (slot : Slot) : Slot :=
  .mk slot.head.unplaced (slot.children.map Node.unplaced)

/-- A template without the places of its parts. -/
def Tree.unplaced (tree : Tree) : Tree where
  children := tree.children.map Node.unplaced
  span := nowhere

/-- An error without its place. -/
def CompileError.unplaced : CompileError → CompileError
  | .unexpectedToken expected found _ => .unexpectedToken expected found nowhere
  | .invalidLoop expression _ => .invalidLoop expression nowhere
  | .unpairedElse _ => .unpairedElse nowhere
  | .invalidRoot fault _ => .invalidRoot fault nowhere
  | .invalidSlot fault _ => .invalidSlot fault nowhere

theorem unplacedEach_eq_map (nodes : List Node) :
    unplacedEach nodes = nodes.map Node.unplaced := by
  induction nodes with
  | nil => rfl
  | cons node rest induction => exact congrArg (node.unplaced :: ·) induction

theorem unplacedBranches_eq_map (branches : List Branch) :
    unplacedBranches branches = branches.map Branch.unplaced := by
  induction branches with
  | nil => rfl
  | cons branch rest induction =>
      rcases branch with ⟨kind, condition, children, span⟩
      rw [List.map_cons, ← induction, Branch.unplaced, ← unplacedEach_eq_map]
      rfl

theorem unplacedSlots_eq_map (slots : List Slot) :
    unplacedSlots slots = slots.map Slot.unplaced := by
  induction slots with
  | nil => rfl
  | cons slot rest induction =>
      rcases slot with ⟨head, children⟩
      rw [List.map_cons, ← induction, Slot.unplaced, ← unplacedEach_eq_map]
      rfl

/-- An error without its place has the same code and the same text. -/
@[simp] theorem CompileError.code_unplaced (error : CompileError) :
    error.unplaced.code = error.code := by
  cases error with
  | _ => rfl

@[simp] theorem CompileError.message_unplaced (error : CompileError) :
    error.unplaced.message = error.message := by
  cases error with
  | _ => rfl

/-! ## Reading start tags -/

namespace StartTag

theorem takeDirective?_unplaced (name : String) (tag : StartTag) :
    tag.unplaced.takeDirective? name =
      ((tag.takeDirective? name).1.map Directive.unplaced,
        (tag.takeDirective? name).2.unplaced) := by
  rcases tag with ⟨_, _, _, directives, _, _⟩
  simp only [takeDirective?, unplaced, List.find?_map, List.eraseP_map,
    Function.comp_def]
  rfl

theorem hasDirective_unplaced (tag : StartTag) (name : String) :
    tag.unplaced.hasDirective name = tag.hasDirective name := by
  rw [hasDirective, unplaced, List.any_map]
  rfl

theorem attribute?_unplaced (tag : StartTag) (name : String) :
    tag.unplaced.attribute? name = (tag.attribute? name).map Attribute.unplaced := by
  rw [attribute?, unplaced, List.find?_map]
  rfl

theorem prop?_unplaced (tag : StartTag) (name : String) :
    tag.unplaced.prop? name = (tag.prop? name).map Binding.unplaced := by
  rw [prop?, unplaced, List.find?_map]
  rfl

/-- A start tag is made of what each of its attributes says. -/
theorem ofSource_unplaced (name : String) (source : List SourceAttribute) :
    (ofSource name source).unplaced =
      let items := source.map fun item => (TagItem.ofSource item).unplaced
      { name
        isComponent := isComponentTag name
        attributes := items.filterMap fun | .plain a => some a | _ => none
        directives := items.filterMap fun | .directive d => some d | _ => none
        props := items.filterMap fun | .binding b => some b | _ => none
        listeners := items.filterMap fun | .listener l => some l | _ => none } := by
  simp only [ofSource, unplaced, List.map_filterMap, List.filterMap_map]
  congr 1 <;>
  · congr 1
    funext item
    cases kind : TagItem.ofSource item <;> simp [TagItem.unplaced, kind]

theorem directive?_unplaced (tag : StartTag) (name : String) :
    tag.unplaced.directive? name = (tag.directive? name).map Directive.unplaced :=
  congrArg Prod.fst (takeDirective?_unplaced name tag)

theorem stripped_unplaced (tag : StartTag) :
    tag.unplaced.stripped = tag.stripped.unplaced := by
  simp only [stripped, shapingNames, List.foldl_cons, List.foldl_nil,
    takeDirective?_unplaced]

theorem isShaped_unplaced (tag : StartTag) : tag.unplaced.isShaped = tag.isShaped := by
  simp only [isShaped, shapingNames, List.any_cons, hasDirective_unplaced,
    List.any_nil]

theorem branch?_unplaced (tag : StartTag) :
    tag.unplaced.branch? =
      tag.branch?.map fun (kind, condition) =>
        (kind, condition.map Code.unplaced) := by
  simp only [branch?, directive?_unplaced, hasDirective_unplaced]
  cases tag.directive? "if" with
  | some first => rfl
  | none =>
      dsimp only [Option.map_none]
      split
      · rfl
      · cases tag.directive? "else-if" with
        | some next => rfl
        | none => cases tag.directive? "else" <;> rfl

end StartTag

/-- What is made of a result, without the place of an error. -/
def unplacedResult {Given Kept : Type} (unplaced : Given → Kept) :
    Except CompileError Given → Except CompileError Kept
  | .ok given => .ok (unplaced given)
  | .error fault => .error fault.unplaced

theorem Outlet.ofTag_unplaced (tag : StartTag) (span : Span) :
    Outlet.ofTag tag.unplaced nowhere = (Outlet.ofTag tag span).unplaced := by
  have attributes : (tag.attributes.map Attribute.unplaced).filter (·.name != "name") =
      (tag.attributes.filter (·.name != "name")).map Attribute.unplaced := by
    rw [List.filter_map]
    rfl
  have props : (tag.props.map Binding.unplaced).filter (·.name.text != "name") =
      (tag.props.filter (·.name.text != "name")).map Binding.unplaced := by
    rw [List.filter_map]
    rfl
  rw [ofTag, ofTag, unplaced, StartTag.prop?_unplaced, StartTag.attribute?_unplaced]
  congr 1
  cases tag.prop? "name" with
  | some bound => rfl
  | none =>
      cases tag.attribute? "name" with
      | none => rfl
      | some plain =>
          rcases plain with ⟨name, _ | value, own⟩
          · rfl
          · rfl

theorem LoopHead.ofCode?_unplaced (code : Code) :
    ofCode? code.unplaced = (ofCode? code).map unplaced := by
  unfold ofCode?
  have content : code.unplaced.content = code.content := rfl
  rw [content]
  cases splitLoop? (Text.trim code.content.toList) with
  | none => rfl
  | some parts =>
      dsimp only [Option.bind_eq_bind, Option.bind_some]
      split
      · split <;> rfl
      · split <;> rfl
      · split <;> rfl
      · rfl

theorem LoopHead.ofDirective_unplaced (directive : Directive) :
    ofDirective directive.unplaced =
      unplacedResult unplaced (ofDirective directive) := by
  rcases directive with ⟨name, argument, modifiers, _ | code, span⟩
  · rfl
  · have read := ofCode?_unplaced code
    simp only [ofDirective, Directive.unplaced, Option.map_some, read]
    cases ofCode? code <;> rfl

theorem StartTag.loop?_unplaced (tag : StartTag) :
    tag.unplaced.loop? = unplacedResult (Option.map LoopHead.unplaced) tag.loop? := by
  rw [loop?, loop?, directive?_unplaced]
  cases tag.directive? "for" with
  | none => rfl
  | some directive =>
      rw [Option.map_some]
      dsimp only
      rw [LoopHead.ofDirective_unplaced]
      cases LoopHead.ofDirective directive <;> rfl

theorem StartTag.core_unplaced (tag : StartTag) (children : List Node) (span : Span) :
    tag.unplaced.core (children.map Node.unplaced) nowhere =
      (tag.core children span).unplaced := by
  have name : tag.unplaced.name = tag.name := rfl
  simp only [core, isShaped_unplaced, name, hasDirective_unplaced]
  split
  · rw [stripped_unplaced, Node.unplaced, unplacedEach_eq_map]
    rfl
  · split
    · rw [Node.unplaced, unplacedEach_eq_map, Outlet.ofTag_unplaced]
    · split
      · rw [Node.unplaced, unplacedEach_eq_map]
        rfl
      · rw [Node.unplaced, unplacedEach_eq_map]
        rfl

/-- What a start tag makes of its content does not depend on where it stands. -/
theorem Node.ofTag_unplaced (tag : StartTag) (children : List Node) (span : Span) :
    ofTag tag.unplaced (children.map unplaced) nowhere =
      unplacedResult unplaced (ofTag tag children span) := by
  have branch (node : Node) : node.unplaced.inBranch tag.unplaced.branch? nowhere =
      (node.inBranch tag.branch? span).unplaced := by
    rw [StartTag.branch?_unplaced]
    cases tag.branch? with
    | none => rfl
    | some branch => rfl
  rw [ofTag_eq, ofTag_eq, StartTag.loop?_unplaced,
    tag.core_unplaced children span, branch]
  cases tag.loop? with
  | error fault => rfl
  | ok head => cases head <;> rfl

theorem SlotHead.ofDirective_unplaced (directive : Directive) (span : Span) :
    ofDirective directive.unplaced nowhere =
      (ofDirective directive span).unplaced := by
  rcases directive with ⟨name, argument, modifiers, _ | code, own⟩
  · rfl
  · simp only [ofDirective, Directive.unplaced, Option.map_some, unplaced]
    congr 1
    have blank : code.unplaced.isBlank = code.isBlank := rfl
    rw [blank]
    split <;> rfl

/-! ## Forgetting places as a change -/

/-- Every node stays, and its place is forgotten with all places below it. -/
def unplacing : Change where
  stays _ := true
  node := Node.unplaced
  code := Code.unplaced
  tag := StartTag.unplaced
  head := LoopHead.unplaced
  outlet := Outlet.unplaced
  directive := Directive.unplaced
  slotHead := SlotHead.unplaced
  place _ := nowhere

theorem unplacing_each (nodes : List Node) :
    unplacing.each nodes = nodes.map Node.unplaced :=
  congrArg (List.map Node.unplaced) (List.filter_eq_self.mpr fun _ _ => rfl)

theorem unplacing_branch (branch : Branch) :
    unplacing.branch branch = branch.unplaced :=
  congrArg (Branch.mk branch.kind (branch.condition.map Code.unplaced) · nowhere)
    (unplacing_each branch.children)

theorem unplacing_slot (slot : Slot) : unplacing.slot slot = slot.unplaced :=
  congrArg (Slot.mk slot.head.unplaced) (unplacing_each slot.children)

theorem unplacing_tree (tree : Tree) : unplacing.tree tree = tree.unplaced :=
  congrArg (Tree.mk · nowhere) (unplacing_each tree.children)

theorem unplacing_result {Given Kept : Type} (kept : Given → Kept)
    (given : Except CompileError Given) :
    unplacing.result kept given = unplacedResult kept given := by
  cases given with
  | ok => rfl
  | error fault => cases fault <;> rfl

/-- Arranging a template does not look at its places. -/
theorem unplacing_keepsArrangement : unplacing.KeepsArrangement where
  element tag children slots span := by
    rw [unplacing_each, List.map_congr_left fun slot _ => unplacing_slot slot,
      ← unplacedEach_eq_map, ← unplacedSlots_eq_map]
    rfl
  text _ _ := rfl
  interpolation _ _ := rfl
  comment _ _ := rfl
  conditional branches span := by
    rw [List.map_congr_left fun branch _ => unplacing_branch branch,
      ← unplacedBranches_eq_map]
    rfl
  loop head children span := by
    rw [unplacing_each, ← unplacedEach_eq_map]
    rfl
  outlet outlet fallback span := by
    rw [unplacing_each, ← unplacedEach_eq_map]
    rfl
  slotTemplate directives children span := by
    rw [unplacing_each, ← unplacedEach_eq_map]
    rfl
  comments _ leaves := Bool.noConfusion leaves
  merged _ _ := rfl
  takesSlots _ := rfl
  takenSlot := StartTag.takeDirective?_unplaced "slot"
  directiveName _ := rfl
  directiveSpan _ := rfl
  slotHeadOf := SlotHead.ofDirective_unplaced
  slotName _ := rfl
  slotSpan _ := rfl

end VuePrecompiler.Template
