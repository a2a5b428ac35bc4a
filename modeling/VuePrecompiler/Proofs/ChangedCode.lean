import VuePrecompiler.Proofs.ChildItems
import VuePrecompiler.Proofs.Changes

/-!
# Render code of changed templates

A change that leaves the code of all data alone leaves the render code of a
template alone, and changes nothing of a fault but its place.  The generator
takes the first node of a loop and of a branch, so this node has to stay.
-/

namespace VuePrecompiler.Template

open Source Render

namespace Change

/-- The code of the data of a node is the code of the changed data. -/
structure KeepsCode (change : Change) : Prop extends change.KeepsArrangement where
  trimmed : ∀ code, (change.code code).trimmed = code.trimmed
  tagName : ∀ tag, (change.tag tag).name = tag.name
  hasDirective : ∀ tag name,
    (change.tag tag).hasDirective name = tag.hasDirective name
  dataObject : ∀ tag inLoop scopedSlots,
    dataObject? (change.tag tag) inLoop scopedSlots =
      dataObject? tag inLoop scopedSlots
  elementCode : ∀ tag data children,
    elementCode (change.tag tag) data children = elementCode tag data children
  outletCode : ∀ outlet fallback,
    outletCode (change.outlet outlet) fallback = outletCode outlet fallback
  loopCode : ∀ head body, loopCode (change.head head) body = loopCode head body
  slotCode : ∀ head content,
    slotCode (change.slotHead head) content = slotCode head content

/-- The first node of a loop stays, and so does the first one of every branch. -/
def ShowsFirst (change : Change) : Node → Prop
  | .loop _ children _ => ∀ first ∈ children.head?, change.stays first = true
  | .conditional branches _ =>
    ∀ branch ∈ branches, ∀ first ∈ branch.children.head?, change.stays first = true
  | _ => True

/-- Children with their code, behind a change. -/
def pair (change : Change) (child : Node × String) : Node × String :=
  (change.node child.1, child.2)

def pairs (change : Change) (paired : List (Node × String)) : List (Node × String) :=
  (paired.filter fun child => change.stays child.1).map change.pair

def item (change : Change) : ChildItem → ChildItem
  | .run nodes => .run (nodes.map change.node)
  | .single node code => .single (change.node node) code

/-- The code of each node is the same when it is changed. -/
def SameCodes (change : Change) (inLoop : Bool) (nodes : List Node) : Prop :=
  ∀ node ∈ nodes,
    nodeCode inLoop (change.node node) = change.result id (nodeCode inLoop node)

end Change

end VuePrecompiler.Template

namespace VuePrecompiler.Render

open Template Source

/-! ## The classification of children -/

theorem any_congr {Item : Type} {test other : Item → Bool} {items : List Item}
    (same : ∀ item ∈ items, test item = other item) :
    items.any test = items.any other := by
  induction items with
  | nil => rfl
  | cons item rest induction =>
      rw [List.any_cons, List.any_cons, same item List.mem_cons_self,
        induction fun later member => same later (List.mem_cons_of_mem item member)]

/-- No comment is of a kind that is looked for. -/
theorem Classifies.comment {test : Node → Bool} (classifies : Classifies test)
    {node : Node} (comment : isComment node = true) : test node = false := by
  obtain ⟨content, span, rfl⟩ := eq_comment comment
  cases classifies <;> rfl

theorem rootFaultOfEach?_eq (nodes : List Node) :
    rootFaultOfEach? nodes = nodes.findSome? rootFault? := by
  induction nodes with
  | nil => rfl
  | cons node rest induction => rw [rootFaultOfEach?, induction, findSome?_cons_eq_or]

theorem rootFaultOfBranches?_eq (branches : List Branch) :
    rootFaultOfBranches? branches =
      branches.findSome? fun branch => branch.children.findSome? rootFault? := by
  induction branches with
  | nil => rfl
  | cons branch rest induction =>
      rcases branch with ⟨kind, condition, children, span⟩
      rw [rootFaultOfBranches?, induction, rootFaultOfEach?_eq, findSome?_cons_eq_or]
      rfl

section

variable {change : Change} (keeps : change.KeepsCode)
include keeps

/-- Looking for a node of a kind that no comment is of. -/
theorem any_each {test : Node → Bool}
    (silent : ∀ node, isComment node = true → test node = false) {nodes : List Node}
    (same : ∀ node ∈ nodes, test (change.node node) = test node) :
    (change.each nodes).any test = nodes.any test := by
  rw [Change.each, List.any_map, List.any_filter]
  apply any_congr
  intro node member
  rw [Function.comp_apply, same node member]
  cases stays : change.stays node with
  | true => rw [Bool.true_and]
  | false => rw [Bool.false_and, silent node (keeps.comments node stays)]

/-- A changed node is of the same kind. -/
theorem Classifies.changed {test : Node → Bool} (classifies : Classifies test)
    (node : Node) : test (change.node node) = test node := by
  induction node using Node.inside_induct with
  | step node induction =>
      cases node with
      | conditional branches span =>
          rw [keeps.conditional, classifies.through, classifies.through, List.any_map]
          apply any_congr
          intro branch given
          exact any_each keeps (fun _ => classifies.comment) fun child member =>
            induction child (List.mem_flatMap.mpr ⟨branch, given, member⟩)
      | element tag children slots span =>
          rw [keeps.element]
          cases classifies with
          | array => exact congrArg (· == "template") (keeps.tagName tag)
          | component => exact keeps.takesSlots tag
      | text => rw [keeps.text]; cases classifies <;> rfl
      | interpolation => rw [keeps.interpolation]; cases classifies <;> rfl
      | comment => rw [keeps.comment]; cases classifies <;> rfl
      | loop => rw [keeps.loop]; cases classifies <;> rfl
      | outlet => rw [keeps.outlet]; cases classifies <;> rfl
      | slotTemplate => rw [keeps.slotTemplate]; cases classifies <;> rfl

theorem Classifies.any_each {test : Node → Bool} (classifies : Classifies test)
    (nodes : List Node) : (change.each nodes).any test = nodes.any test :=
  Render.any_each keeps (fun _ => classifies.comment) fun node _ =>
    classifies.changed keeps node

theorem anyMayBeComponent_each (nodes : List Node) :
    anyMayBeComponent (change.each nodes) = anyMayBeComponent nodes := by
  rw [anyMayBeComponent_eq, anyMayBeComponent_eq, Classifies.component.any_each keeps]

theorem normalization_each (nodes : List Node) :
    normalization (change.each nodes) = normalization nodes := by
  rw [normalization, normalization, anyMayBeArray_eq, anyMayBeArray_eq,
    Classifies.array.any_each keeps, anyMayBeComponent_each keeps]

theorem rendersFragment_each (nodes : List Node) :
    rendersFragment (change.each nodes) = rendersFragment nodes := by
  apply any_each keeps
  · intro node comment
    obtain ⟨content, span, rfl⟩ := eq_comment comment
    rfl
  · intro node _
    cases node with
    | element tag children slots span =>
        rw [keeps.element]
        exact congrArg (· == "template") (keeps.tagName tag)
    | text => rw [keeps.text]
    | interpolation => rw [keeps.interpolation]
    | comment => rw [keeps.comment]
    | conditional => rw [keeps.conditional]
    | loop => rw [keeps.loop]
    | outlet => rw [keeps.outlet]
    | slotTemplate => rw [keeps.slotTemplate]

/-! ## The items of children -/

theorem textPieces_map (pending : String) (run : List Node) :
    textPieces pending (run.map change.node) = textPieces pending run := by
  induction run generalizing pending with
  | nil => rfl
  | cons node rest induction =>
      rw [List.map_cons]
      cases node with
      | text => rw [keeps.text, textPieces, textPieces, induction]
      | interpolation =>
          rw [keeps.interpolation, textPieces, textPieces, induction, keeps.trimmed]
      | comment => rw [keeps.comment]; exact induction pending
      | element => rw [keeps.element]; exact induction pending
      | conditional => rw [keeps.conditional]; exact induction pending
      | loop => rw [keeps.loop]; exact induction pending
      | outlet => rw [keeps.outlet]; exact induction pending
      | slotTemplate => rw [keeps.slotTemplate]; exact induction pending

namespace ChildItem

theorem isBlank_item (item : ChildItem) :
    (change.item item).isBlank = item.isBlank := by
  cases item with
  | run nodes =>
      rw [Change.item, isBlank, isBlank, List.all_map]
      congr 1
      exact funext fun node => (keeps.reflects node).isBlankNode
  | single => rfl

theorem code_item (item : ChildItem) : (change.item item).code = item.code := by
  have blank := isBlank_item keeps item
  cases item with
  | run nodes =>
      simp only [Change.item, isBlank] at blank
      simp only [Change.item, code, blank, textCode, textPieces_map keeps]
  | single => rfl

theorem group_map (children : List (Node × String)) :
    group (children.map change.pair) = (group children).map change.item := by
  fun_induction group children with
  | case1 => rfl
  | case2 node code rest textual nodes others sameItems induction =>
      rw [sameItems, List.map_cons] at induction
      rw [List.map_cons, Change.pair, group, (keeps.reflects node).isTextual,
        if_pos textual, induction]
      rfl
  | case3 node code rest textual noRun induction =>
      rw [List.map_cons, Change.pair, group, (keeps.reflects node).isTextual,
        if_pos textual, induction]
      cases items : group rest with
      | nil => rfl
      | cons item others =>
          cases item with
          | run nodes => exact absurd items (noRun nodes others)
          | single => rfl
  | case4 node code rest notTextual induction =>
      rw [List.map_cons, Change.pair, group, (keeps.reflects node).isTextual,
        if_neg notTextual, induction]
      rfl

theorem trimEnds_map (items : List ChildItem) :
    trimEnds (items.map change.item) = (trimEnds items).map change.item := by
  have same : isBlank ∘ change.item = isBlank := funext (isBlank_item keeps)
  rw [trimEnds, trimEnds, List.dropWhile_map, same, ← List.map_reverse,
    List.dropWhile_map, same, List.map_reverse]

end ChildItem

theorem childItems_pairs (paired : List (Node × String)) :
    childItems (change.pairs paired) = (childItems paired).map change.item := by
  have shown : (change.pairs paired).filter (fun child => !isComment child.1) =
      (paired.filter fun child => !isComment child.1).map change.pair := by
    rw [Change.pairs, List.filter_map, List.filter_filter]
    congr 1
    apply List.filter_congr
    intro child _
    rw [Function.comp_apply, Change.pair, (keeps.reflects child.1).isComment]
    cases comment : isComment child.1 with
    | true => rfl
    | false => rw [keeps.stays_of_shown comment]; rfl
  rw [childItems, shown, ChildItem.group_map keeps, ChildItem.trimEnds_map keeps]
  rfl

theorem childrenCode?_pairs (ofElement : Bool) (paired : List (Node × String)) :
    childrenCode? ofElement (change.pairs paired) =
      childrenCode? ofElement paired := by
  have items := childItems_pairs keeps paired
  have flattened : normalization ((change.pairs paired).map (·.1)) =
      normalization (paired.map (·.1)) := by
    rw [← normalization_each keeps (paired.map (·.1)), Change.each, List.filter_map,
      List.map_map, Change.pairs, List.map_map]
    rfl
  unfold childItems at items
  unfold childrenCode?
  dsimp only
  rw [items, flattened]
  generalize ChildItem.trimEnds (ChildItem.group (paired.filter _)) = items
  have shown : (items.map change.item).map ChildItem.code =
      items.map ChildItem.code := by
    rw [List.map_map]
    exact List.map_congr_left fun item _ => ChildItem.code_item keeps item
  rw [shown, List.isEmpty_map]
  rcases items with _ | ⟨first, _ | ⟨second, rest⟩⟩
  · rfl
  · cases first with
    | run => rfl
    | single node code =>
        rw [List.map_singleton, Change.item]
        cases node with
        | loop head body span =>
            rw [keeps.loop]
            dsimp only
            rw [rendersFragment_each keeps, anyMayBeComponent_each keeps]
        | element => rw [keeps.element]
        | text => rw [keeps.text]
        | interpolation => rw [keeps.interpolation]
        | comment => rw [keeps.comment]
        | conditional => rw [keeps.conditional]
        | outlet => rw [keeps.outlet]
        | slotTemplate => rw [keeps.slotTemplate]
  · rw [List.map_cons, List.map_cons]
    simp

/-! ## The code of nodes -/

theorem pairedCodes_each {inLoop : Bool} {nodes : List Node}
    (same : change.SameCodes inLoop nodes) :
    pairedCodes inLoop (change.each nodes) =
      change.result change.pairs (pairedCodes inLoop nodes) := by
  induction nodes with
  | nil => rfl
  | cons node rest induction =>
      have later :=
        induction fun other member => same other (List.mem_cons_of_mem node member)
      cases stays : change.stays node with
      | false =>
          obtain ⟨content, span, rfl⟩ := eq_comment (keeps.comments node stays)
          rw [Change.each_cons_of_leaves stays, later, pairedCodes, nodeCode]
          cases pairedCodes inLoop rest with
          | error fault => rfl
          | ok paired =>
              refine congrArg Except.ok ?_
              rw [Change.pairs, Change.pairs,
                List.filter_cons_of_neg (by simp [stays])]
      | true =>
          rw [Change.each_cons_of_stays stays, pairedCodes, pairedCodes, later,
            same node List.mem_cons_self]
          refine change.result_bind fun code => change.result_bind fun paired => ?_
          have kept : change.pairs ((node, code) :: paired) =
              change.pair (node, code) :: change.pairs paired := by
            rw [Change.pairs, List.filter_cons_of_pos (by exact stays)]
            rfl
          exact congrArg Except.ok kept.symm

theorem map_childrenCode_result (ofElement : Bool)
    (paired : Except CompileError (List (Node × String))) :
    childrenCode? ofElement <$> change.result change.pairs paired =
      change.result id (childrenCode? ofElement <$> paired) := by
  cases paired with
  | error fault => rfl
  | ok paired => exact congrArg Except.ok (childrenCode?_pairs keeps ofElement paired)

theorem slotCodes_map {inLoop : Bool} {slots : List Slot}
    (same : change.SameCodes inLoop (slots.flatMap Slot.children)) :
    slotCodes inLoop (slots.map change.slot) =
      change.result id (slotCodes inLoop slots) := by
  induction slots with
  | nil => rfl
  | cons slot rest induction =>
      rcases slot with ⟨head, children⟩
      obtain ⟨here, later⟩ := List.forall_mem_append.mp same
      have inChildren : change.SameCodes inLoop children := here
      have changed : change.slot (.mk head children) =
          .mk (change.slotHead head) (change.each children) := rfl
      rw [List.map_cons, changed, slotCodes, slotCodes,
        pairedCodes_each keeps inChildren, induction later]
      refine change.result_bind fun paired => change.result_bind fun entries => ?_
      rw [childrenCode?_pairs keeps, keeps.slotCode]
      rfl

omit keeps in
theorem firstCode_each {inLoop : Bool} {nodes : List Node}
    (shown : ∀ first ∈ nodes.head?, change.stays first = true)
    (same : change.SameCodes inLoop nodes) :
    firstCode inLoop (change.each nodes) =
      change.result id (firstCode inLoop nodes) := by
  cases nodes with
  | nil => rfl
  | cons node rest =>
      rw [Change.each_cons_of_stays (shown node rfl)]
      exact same node List.mem_cons_self

theorem branchesCode_map {inLoop : Bool} {branches : List Branch}
    (shown : ∀ branch ∈ branches, ∀ first ∈ branch.children.head?,
      change.stays first = true)
    (same : change.SameCodes inLoop (branches.flatMap Branch.children)) :
    branchesCode inLoop (branches.map change.branch) =
      change.result id (branchesCode inLoop branches) := by
  induction branches with
  | nil => rfl
  | cons branch rest induction =>
      obtain ⟨shownHere, shownLater⟩ := List.forall_mem_cons.mp shown
      rcases branch with ⟨kind, condition, children, span⟩
      obtain ⟨here, later⟩ := List.forall_mem_append.mp same
      have inChildren : change.SameCodes inLoop children := here
      have first : firstCode inLoop (change.each children) =
          change.result id (firstCode inLoop children) :=
        firstCode_each shownHere inChildren
      have changed : change.branch (.mk kind condition children span) =
          .mk kind (condition.map change.code) (change.each children)
            (change.place span) := rfl
      rw [List.map_cons, changed, branchesCode, branchesCode, first,
        induction shownLater later]
      refine change.result_bind fun body => ?_
      cases condition with
      | none => rfl
      | some condition =>
          dsimp only [Option.map_some]
          rw [keeps.trimmed]
          split
          · rfl
          · exact change.result_bind fun other => rfl

theorem scopedSlotsCode_map (slots : List Slot) (entries : List String) :
    scopedSlotsCode (slots.map change.slot) entries =
      scopedSlotsCode slots entries := by
  have named (slot : Slot) : (change.slot slot).head.name = slot.head.name :=
    keeps.slotName slot.head
  simp only [scopedSlotsCode, List.any_map, Function.comp_def, named]

/-- The code of a changed node is the same, and so is the reason why it has none. -/
theorem nodeCode_changed {node : Node} (shown : node.Throughout change.ShowsFirst)
    (inLoop : Bool) :
    nodeCode inLoop (change.node node) = change.result id (nodeCode inLoop node) := by
  induction node using Node.inside_induct generalizing inLoop with
  | step node induction =>
      have inside (inLoop : Bool) : change.SameCodes inLoop node.inside :=
        fun child member => induction child member (shown.inside child member) inLoop
      have here := shown.here
      cases node with
      | text content span =>
          have code := textPieces_map keeps "" [.text content span]
          rw [List.map_singleton, keeps.text] at code
          rw [keeps.text, nodeCode, nodeCode, textCode, textCode, code]
          rfl
      | interpolation expression span =>
          have code := textPieces_map keeps "" [.interpolation expression span]
          rw [List.map_singleton, keeps.interpolation] at code
          rw [keeps.interpolation, nodeCode, nodeCode, textCode, textCode, code]
          rfl
      | comment => rw [keeps.comment]; rfl
      | outlet outlet fallback span =>
          have inFallback : change.SameCodes inLoop fallback := inside inLoop
          rw [keeps.outlet, nodeCode, nodeCode, pairedCodes_each keeps inFallback]
          refine change.result_bind fun paired => ?_
          rw [childrenCode?_pairs keeps, keeps.outletCode]
          rfl
      | slotTemplate directives children span =>
          have inChildren : change.SameCodes inLoop children := inside inLoop
          rw [keeps.slotTemplate, nodeCode, nodeCode,
            pairedCodes_each keeps inChildren]
          refine change.result_bind fun paired => ?_
          rw [childrenCode?_pairs keeps]
          rfl
      | loop head children span =>
          have inChildren : change.SameCodes true children := inside true
          rw [keeps.loop, nodeCode, nodeCode, firstCode_each here inChildren]
          refine change.result_bind fun body => ?_
          rw [keeps.loopCode]
          rfl
      | conditional branches span =>
          rw [keeps.conditional, nodeCode, nodeCode]
          exact branchesCode_map keeps here (inside inLoop)
      | element tag children slots span =>
          obtain ⟨childrenSame, inSlots⟩ := List.forall_mem_append.mp (inside inLoop)
          have inChildren : change.SameCodes inLoop children := childrenSame
          rw [keeps.element, nodeCode, nodeCode, keeps.tagName]
          simp only [keeps.hasDirective, slotCodes_map keeps inSlots,
            pairedCodes_each keeps inChildren]
          split
          · refine change.result_bind fun paired => ?_
            rw [childrenCode?_pairs keeps]
            rfl
          · split
            · rfl
            · refine change.result_bind fun entries => ?_
              simp only [List.isEmpty_map, scopedSlotsCode_map keeps, keeps.dataObject,
                keeps.elementCode, id_eq]
              split
              · rfl
              · rw [map_childrenCode_result keeps]
                exact change.result_bind fun content => rfl

/-! ## The root -/

theorem rootFault?_changed (node : Node) :
    rootFault? (change.node node) = (rootFault? node).map (.moved change.place) := by
  induction node using Node.inside_induct with
  | step node induction =>
      cases node with
      | conditional branches span =>
          rw [keeps.conditional, rootFault?, rootFault?, rootFaultOfBranches?_eq,
            rootFaultOfBranches?_eq]
          apply Change.KeepsArrangement.findSome?_map_moved
          intro branch given
          apply keeps.findSome?_each
          · intro other comment
            obtain ⟨content, span, rfl⟩ := eq_comment comment
            rfl
          · intro child member
            exact induction child (List.mem_flatMap.mpr ⟨branch, given, member⟩)
      | element tag children slots span =>
          rw [keeps.element, rootFault?, rootFault?, keeps.tagName]
          split <;> rfl
      | text => rw [keeps.text]; rfl
      | interpolation => rw [keeps.interpolation]; rfl
      | comment => rw [keeps.comment]; rfl
      | loop => rw [keeps.loop]; rfl
      | outlet => rw [keeps.outlet]; rfl
      | slotTemplate => rw [keeps.slotTemplate]; rfl

theorem significant_each (nodes : List Node) :
    ((change.each nodes).filter fun node => !node.isInsignificant) =
      (nodes.filter fun node => !node.isInsignificant).map change.node := by
  rw [Change.each, List.filter_map, List.filter_filter]
  congr 1
  apply List.filter_congr
  intro node _
  rw [Function.comp_apply, (keeps.reflects node).isInsignificant]
  cases comment : isComment node with
  | true => rw [isInsignificant_of_isComment comment]; rfl
  | false => rw [keeps.stays_of_shown comment, Bool.and_true]

theorem root_tree (tree : Tree) :
    root (change.tree tree) = change.result change.node (root tree) := by
  rw [root, root, Change.tree]
  dsimp only
  rw [significant_each keeps]
  generalize tree.children.filter _ = significant
  rcases significant with _ | ⟨first, _ | ⟨extra, rest⟩⟩
  · rfl
  · rw [List.map_singleton]
    dsimp only
    rw [rootFault?_changed keeps]
    cases rootFault? first <;> rfl
  · rw [List.map_cons, List.map_cons]
    dsimp only
    rw [(keeps.reflects extra).span]
    rfl

theorem generate_tree {tree : Tree}
    (shown : ∀ top ∈ tree.children, top.Throughout change.ShowsFirst) :
    generate (change.tree tree) = change.result id (generate tree) := by
  rw [generate, generate, root_tree keeps]
  cases isRoot : root tree with
  | error fault => rfl
  | ok rootNode =>
      have same := nodeCode_changed keeps (shown rootNode (mem_of_root isRoot)) false
      change (nodeCode false (change.node rootNode) >>= _) = _
      rw [same]
      exact change.result_bind fun code => rfl

/-- A changed template has the same render code, or the same fault but for its
place. -/
theorem compiled_changed {tree : Tree}
    (shown : ∀ arranged, tree.arrange = .ok arranged →
      ∀ top ∈ arranged.children, top.Throughout change.ShowsFirst) :
    ((change.tree tree).arrange >>= generate) =
      change.result id (tree.arrange >>= generate) := by
  rw [keeps.arrange_tree]
  cases arranges : tree.arrange with
  | error fault => rfl
  | ok arranged => exact generate_tree keeps (shown arranged arranges)

end

end VuePrecompiler.Render
