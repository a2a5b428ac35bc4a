import VuePrecompiler.Proofs.CodeParts
import VuePrecompiler.Proofs.Listings
import VuePrecompiler.Proofs.TreeShape

/-!
# Render code keeps the content

Every interpolation of a template and the code of every element stand in the
render code, wherever they are: among children, in a branch, in a loop, in a
slot or in fallback content.  A branch without a condition is an exception; it
hides the branches behind it.
-/

namespace VuePrecompiler.Render

open Template Source

/-- The content of a template: its elements other than fragments, and its
interpolations, each with whether a loop encloses it.  An element that takes its
content from a directive shows nothing of what is below it. -/
def content : Listing Bool (Bool × Node) where
  own inLoop node :=
    match node with
    | .element tag _ _ _ => if tag.name == "template" then [] else [(inLoop, node)]
    | .interpolation _ _ => [(inLoop, node)]
    | _ => []
  below inLoop node :=
    match node with
    | .element tag _ _ _ => if takesContent tag then none else some inLoop
    | .loop _ _ _ => some true
    | _ => some inLoop

/-- A piece of content stands in some code: an interpolation as its expression, an
element as the code made for it. -/
def Shows (whole : String) : Bool × Node → Prop
  | (_, .interpolation expression _) =>
    Occurs ("_s(" ++ expression.trimmed ++ ")") whole
  | (inLoop, node) => ∃ part, nodeCode inLoop node = .ok part ∧ Occurs part whole

theorem Shows.trans {part whole : String} {entry : Bool × Node}
    (shows_part : Shows part entry) (occurs : Occurs part whole) :
    Shows whole entry := by
  rcases entry with ⟨inLoop, node⟩
  cases node with
  | interpolation expression span => exact Occurs.trans shows_part occurs
  | _ =>
      obtain ⟨code, generated, inPart⟩ := shows_part
      exact ⟨code, generated, inPart.trans occurs⟩

/-! ## Content of what is arranged -/

theorem takesContent_arranged (tag : StartTag) :
    takesContent tag.arranged = takesContent tag := by
  have kept (name : String) (different : "slot" ≠ name) :
      tag.arranged.hasDirective name = tag.hasDirective name := by
    unfold StartTag.arranged
    split
    · rw [← StartTag.isSome_directive?, ← StartTag.isSome_directive?,
        StartTag.directive?_takeDirective? tag different]
    · rfl
  rw [takesContent, kept "html" (by decide), kept "text" (by decide), takesContent]

theorem name_arranged (tag : StartTag) : tag.arranged.name = tag.name := by
  unfold StartTag.arranged
  split <;> rfl

theorem content_arranges :
    content.Arranges (fun _ => True) fun entry => (entry.1, entry.2.arranged) where
  insignificant := by
    intro _ node insignificant
    cases node with
    | text => rfl
    | comment => rfl
    | _ => contradiction
  joined _ _ _ _ _ _ := rfl
  below_conditional _ _ _ := rfl
  own_slotTemplate _ _ _ _ := rfl
  below_slotTemplate _ _ _ _ := rfl
  own_arranged := by
    intro inLoop node _
    cases node with
    | element tag children slots span =>
        obtain ⟨inner, filled, same⟩ := exists_arranged_element tag children slots span
        have own : ∀ tag children slots,
            content.own inLoop (.element tag children slots span) =
            if tag.name == "template" then []
            else [(inLoop, .element tag children slots span)] :=
          fun _ _ _ => rfl
        rw [same, own, own, name_arranged]
        split
        · rfl
        · rw [List.map_singleton, same]
    | _ => rfl
  below_arranged := by
    intro inLoop node
    cases node with
    | element tag children slots span =>
        obtain ⟨inner, filled, same⟩ := exists_arranged_element tag children slots span
        rw [same]
        dsimp only [content]
        rw [takesContent_arranged]
    | _ => rfl

/-! ## The generator -/

/-- Every branch in front of another one has a condition. -/
def IsConditioned : Node → Prop
  | .conditional branches _ => branches.Pairwise fun before _ =>
      before.condition ≠ none
  | _ => True

/-- The code of a node shows its content. -/
def KeepsContent (node : Node) : Prop :=
  ∀ {inLoop code}, nodeCode inLoop node = .ok code →
    ∀ entry ∈ node.listed content inLoop, Shows code entry

theorem children_show (ofElement : Bool) {inLoop : Bool} {children : List Node}
    {paired : List (Node × String)} (kept : ∀ child ∈ children, KeepsContent child)
    (generated : pairedCodes inLoop children = .ok paired) {entry : Bool × Node}
    (member : entry ∈ children.flatMap (Node.listed content inLoop)) :
    ∃ given, childrenCode? ofElement paired = some given ∧ Shows given entry := by
  obtain ⟨child, inChildren, inChild⟩ := List.mem_flatMap.mp member
  obtain ⟨code, inPaired, generated⟩ := exists_paired generated inChildren
  have shown := kept child inChildren generated entry inChild
  have whole (visible : child.isInsignificant = false)
      (notText : isTextual child = false) :
      ∃ given, childrenCode? ofElement paired = some given ∧ Shows given entry := by
    obtain ⟨given, same, occurs⟩ :=
      exists_childrenCode_of_node ofElement inPaired visible notText
    exact ⟨given, same, shown.trans occurs⟩
  cases child with
  | text => simp [Node.listed_eq, content, Node.inside] at inChild
  | comment => simp [Node.listed_eq, content, Node.inside] at inChild
  | interpolation expression span =>
      obtain rfl : entry = (inLoop, .interpolation expression span) := by
        simpa [Node.listed_eq, content, Node.inside] using inChild
      exact exists_childrenCode_of_interpolation ofElement inPaired
  | _ => exact whole rfl rfl

theorem slots_show {inLoop : Bool} {slots : List Slot} {entries : List String}
    (kept : ∀ child ∈ slots.flatMap Slot.children, KeepsContent child)
    (generated : slotCodes inLoop slots = .ok entries) {entry : Bool × Node}
    (member :
      entry ∈ (slots.flatMap Slot.children).flatMap (Node.listed content inLoop)) :
    ∃ slotEntry ∈ entries, Shows slotEntry entry := by
  induction slots generalizing entries with
  | nil => contradiction
  | cons slot rest induction =>
      rcases slot with ⟨head, children⟩
      rw [List.flatMap_cons] at kept member
      rw [List.flatMap_append] at member
      obtain ⟨paired, ofChildren, generated⟩ := of_bind_eq_ok generated
      obtain ⟨others, ofRest, same⟩ := of_bind_eq_ok generated
      cases same
      rcases List.mem_append.mp member with here | later
      · have keptHere : ∀ child ∈ children, KeepsContent child :=
          fun child inSlot => kept child (List.mem_append_left _ inSlot)
        obtain ⟨given, same, shown⟩ := children_show false keptHere ofChildren here
        refine ⟨_, List.mem_cons_self, shown.trans ?_⟩
        rw [same]
        exact occurs_slotCode head given
      · have keptLater : ∀ child ∈ rest.flatMap Slot.children, KeepsContent child :=
          fun child inRest => kept child (List.mem_append_right _ inRest)
        obtain ⟨slotEntry, inOthers, shown⟩ := induction keptLater ofRest later
        exact ⟨slotEntry, List.mem_cons_of_mem _ inOthers, shown⟩

/-- The code of a conditional holds the code of its first branch, and that of the
others unless the first one is always taken. -/
theorem of_branchesCode_cons {inLoop : Bool} {kind : BranchKind}
    {condition : Option Code} {element : Node} {span : Span} {rest : List Branch}
    {code : String}
    (generated : branchesCode inLoop (.mk kind condition [element] span :: rest) =
      .ok code) :
    ∃ body, nodeCode inLoop element = .ok body ∧ Occurs body code ∧
      (kind = .last ∨ condition = none ∨
        ∃ others, branchesCode inLoop rest = .ok others ∧ Occurs others code) := by
  obtain ⟨body, ofElement, generated⟩ := of_bind_eq_ok generated
  cases condition with
  | none =>
      obtain rfl : body = code := Except.ok.inj generated
      exact ⟨body, ofElement, .refl body, .inr (.inl rfl)⟩
  | some condition =>
      dsimp only at generated
      split at generated
      · next isLast =>
        obtain rfl : body = code := Except.ok.inj generated
        exact ⟨body, ofElement, .refl body, .inl isLast⟩
      · obtain ⟨others, ofRest, same⟩ := of_bind_eq_ok generated
        cases same
        have inCode :
            Occurs body ("(" ++ condition.trimmed ++ ")?" ++ body ++ ":" ++ others) :=
          (((Occurs.refl body).append_left _).append_right _).append_right _
        exact ⟨body, ofElement, inCode,
          .inr (.inr ⟨others, ofRest, (Occurs.refl _).append_left _⟩)⟩

/-- Content of the branches, in the code that chooses between them.  Behind a
branch that is always taken there is no other one. -/
theorem branches_show {inLoop : Bool} {branches : List Branch} {code : String}
    (shaped : ∀ branch ∈ branches, branch.HoldsElement)
    (ordered : branches.Pairwise fun before _ => before.kind ≠ .last)
    (conditioned : branches.Pairwise fun before _ => before.condition ≠ none)
    (kept : ∀ child ∈ branches.flatMap Branch.children, KeepsContent child)
    (generated : branchesCode inLoop branches = .ok code) {entry : Bool × Node}
    (member : entry ∈ (branches.flatMap Branch.children).flatMap
      (Node.listed content inLoop)) :
    Shows code entry := by
  induction branches generalizing code with
  | nil => contradiction
  | cons branch rest induction =>
      obtain ⟨element, holds, _⟩ := shaped branch List.mem_cons_self
      rcases branch with ⟨kind, condition, children, span⟩
      obtain rfl : children = [element] := holds
      obtain ⟨body, ofElement, inCode, others⟩ := of_branchesCode_cons generated
      rw [List.flatMap_cons, List.flatMap_append] at member
      rcases List.mem_append.mp member with here | later
      · have inElement : entry ∈ element.listed content inLoop := by
          simpa [Branch.children] using here
        have keptElement : KeepsContent element := kept element List.mem_cons_self
        exact (keptElement ofElement entry inElement).trans inCode
      · obtain ⟨notLast, orderedRest⟩ := List.pairwise_cons.mp ordered
        obtain ⟨isConditioned, conditionedRest⟩ := List.pairwise_cons.mp conditioned
        -- There is another branch, so this one is neither the last nor without a
        -- condition.
        obtain ⟨child, inRest, _⟩ := List.mem_flatMap.mp later
        obtain ⟨other, given, _⟩ := List.mem_flatMap.mp inRest
        rcases others with isLast | unconditioned | ⟨restCode, ofRest, restInCode⟩
        · exact absurd isLast (notLast other given)
        · exact absurd unconditioned (isConditioned other given)
        · have shapedRest : ∀ branch ∈ rest, branch.HoldsElement :=
            fun branch inRest => shaped branch (List.mem_cons_of_mem _ inRest)
          have keptRest : ∀ child ∈ rest.flatMap Branch.children, KeepsContent child :=
            fun child inRest => kept child (List.mem_append_right _ inRest)
          exact (induction shapedRest orderedRest conditionedRest
            keptRest ofRest later).trans restInCode

/-- Content of an element, in the code of its children or of its slots. -/
theorem element_shows {inLoop : Bool} {tag : StartTag} {children : List Node}
    {slots : List Slot} {span : Span} {code : String} (named : tag.name ≠ "template")
    (kept : ∀ child ∈ (Node.element tag children slots span).inside,
      KeepsContent child)
    (generated : nodeCode inLoop (.element tag children slots span) = .ok code)
    (free : takesContent tag = false) {entry : Bool × Node}
    (member : entry ∈ (Node.element tag children slots span).inside.flatMap
      (Node.listed content inLoop)) :
    Shows code entry := by
  obtain ⟨entries, given, ofSlots, ofChildren, rfl⟩ :=
    of_nodeCode_element named generated
  rw [free] at ofChildren
  obtain ⟨paired, ofPaired, rfl⟩ := ofChildren
  rw [Node.inside, List.flatMap_append] at member
  rcases List.mem_append.mp member with inChildren | inSlots
  · have keptChildren : ∀ child ∈ children, KeepsContent child :=
      fun child inChildren => kept child (List.mem_append_left _ inChildren)
    obtain ⟨given, same, shown⟩ := children_show true keptChildren ofPaired inChildren
    rw [same]
    exact shown.trans (occurs_elementCode_children tag _ given)
  · have keptSlots : ∀ child ∈ slots.flatMap Slot.children, KeepsContent child :=
      fun child inSlots => kept child (List.mem_append_right _ inSlots)
    obtain ⟨slotEntry, inEntries, shown⟩ := slots_show keptSlots ofSlots inSlots
    have some_slots : slots.isEmpty = false := by
      cases slots with
      | nil => contradiction
      | cons => rfl
    obtain ⟨data, same, inData⟩ :=
      exists_dataObject tag inLoop (scopedSlotsCode slots entries)
    rw [some_slots, if_neg Bool.false_ne_true, same]
    exact ((shown.trans (occurs_scopedSlotsCode slots inEntries)).trans inData).trans
      (occurs_elementCode_data tag data _)

theorem fragment_shows {inLoop : Bool} {tag : StartTag} {children : List Node}
    {span : Span} {code : String} (named : tag.name = "template")
    (kept : ∀ child ∈ children, KeepsContent child)
    (generated : nodeCode inLoop (.element tag children [] span) = .ok code)
    {entry : Bool × Node}
    (member : entry ∈ children.flatMap (Node.listed content inLoop)) :
    Shows code entry := by
  rw [nodeCode, if_pos (beq_iff_eq.mpr named)] at generated
  obtain ⟨paired, ofChildren, same⟩ := of_bind_eq_ok generated
  cases same
  obtain ⟨given, same, shown⟩ := children_show false kept ofChildren member
  rw [same]
  exact shown

/-- The code of a node of the right shape shows its content. -/
theorem keepsContent {node : Node}
    (sound : node.Throughout fun node => node.IsShaped ∧ IsConditioned node) :
    KeepsContent node := by
  induction node using Node.inside_induct with
  | step node induction =>
      have kept : ∀ child ∈ node.inside, KeepsContent child :=
        fun child member => induction child member (sound.inside child member)
      obtain ⟨shaped, conditioned⟩ := sound.here
      intro inLoop code generated entry member
      rw [Node.listed_eq] at member
      cases node with
      | text => simp [content, Node.inside] at member
      | comment => simp [content, Node.inside] at member
      | interpolation expression span =>
          obtain rfl : entry = (inLoop, .interpolation expression span) := by
            simpa [content, Node.inside] using member
          cases generated
          exact occurs_textCode (List.mem_singleton_self _)
      | conditional branches span =>
          exact branches_show shaped.1 shaped.2 conditioned kept generated member
      | loop head children span =>
          obtain ⟨body, rfl, _⟩ := shaped
          obtain ⟨bodyCode, ofBody, same⟩ := of_bind_eq_ok generated
          cases same
          have inBody : entry ∈ body.listed content true := by
            simpa [content, Node.inside] using member
          exact (kept body List.mem_cons_self ofBody entry inBody).trans
            (occurs_loopCode head bodyCode)
      | outlet outlet fallback span =>
          obtain ⟨paired, ofFallback, same⟩ := of_bind_eq_ok generated
          cases same
          obtain ⟨given, same, shown⟩ := children_show false kept ofFallback member
          rw [same]
          exact shown.trans (occurs_outletCode outlet given)
      | slotTemplate directives children span =>
          obtain ⟨paired, ofChildren, same⟩ := of_bind_eq_ok generated
          cases same
          obtain ⟨given, same, shown⟩ := children_show false kept ofChildren member
          rw [same]
          exact shown
      | element tag children slots span =>
          have below : entry ∈ (if takesContent tag then none else some inLoop).elim []
              (fun inner => (Node.element tag children slots span).inside.flatMap
                (Node.listed content inner)) →
              takesContent tag = false ∧ entry ∈
                (Node.element tag children slots span).inside.flatMap
                  (Node.listed content inLoop) := by
            intro inBelow
            cases free : takesContent tag with
            | true => rw [free] at inBelow; contradiction
            | false => rw [free] at inBelow; exact ⟨rfl, inBelow⟩
          by_cases named : tag.name = "template"
          · obtain ⟨_, rfl⟩ := shaped named
            have own : content.own inLoop (.element tag children [] span) = [] :=
              if_pos (beq_iff_eq.mpr named)
            rw [own, List.nil_append] at member
            obtain ⟨_, inChildren⟩ := below member
            rw [Node.inside, List.flatMap_nil, List.append_nil] at kept inChildren
            exact fragment_shows named kept generated inChildren
          · have own : content.own inLoop (.element tag children slots span) =
                [(inLoop, .element tag children slots span)] :=
              if_neg (by simpa using named)
            rw [own] at member
            rcases List.mem_cons.mp member with rfl | inBelow
            · exact ⟨code, generated, .refl code⟩
            · obtain ⟨free, inside⟩ := below inBelow
              exact element_shows named kept generated free inside

/-! ## Templates -/

theorem of_compile_eq_ok {source code : String}
    (compiled : compile source = .ok code) :
    ∃ tree rootNode inner, Tree.ofText source = .ok tree ∧ tree.fault? = none ∧
      root tree.arranged = .ok rootNode ∧ nodeCode false rootNode = .ok inner ∧
      code = "with(this)\x7breturn " ++ inner ++ "\x7d" := by
  obtain ⟨tree, read, compiled⟩ := of_bind_eq_ok compiled
  obtain ⟨arranged, arranges, compiled⟩ := of_bind_eq_ok compiled
  obtain ⟨noFault, rfl⟩ := arrange_eq_ok arranges
  obtain ⟨rootNode, isRoot, compiled⟩ := of_bind_eq_ok compiled
  obtain ⟨inner, generated, same⟩ := of_bind_eq_ok compiled
  cases same
  exact ⟨tree, rootNode, inner, read, noFault, isRoot, generated, rfl⟩

/-- The root is the only significant node. -/
theorem eq_root {tree : Template.Tree} {rootNode node : Node}
    (isRoot : root tree = .ok rootNode)
    (member : node ∈ tree.children) (visible : node.isInsignificant = false) :
    rootNode ∈ tree.children ∧ node = rootNode := by
  have kept : node ∈ tree.children.filter fun node => !node.isInsignificant :=
    List.mem_filter.mpr ⟨member, by rw [visible]; rfl⟩
  unfold root at isRoot
  split at isRoot
  · contradiction
  · next only single =>
    rw [single] at kept
    obtain rfl := List.mem_singleton.mp kept
    split at isRoot
    · contradiction
    · cases isRoot
      exact ⟨member, rfl⟩
  · contradiction

def branchConditions : Node → List (List (Option Code))
  | .conditional branches _ => [branches.map Branch.condition]
  | _ => []

/-- The conditions of each conditional in a template. -/
def conditions (tree : Template.Tree) : List (List (Option Code)) :=
  tree.listed (.ofOwn branchConditions) ()

theorem isConditioned_of_contains {tree : Template.Tree}
    (conditioned : ∀ each ∈ conditions tree,
      each.Pairwise fun before _ => before ≠ none)
    {node : Node} (contained : tree.Contains node) : IsConditioned node := by
  cases node with
  | conditional branches span =>
      have listed : branches.map Branch.condition ∈ conditions tree :=
        mem_listed_of_contains contained (List.mem_singleton_self _)
      exact List.pairwise_map.mp (conditioned _ listed)
  | _ => trivial

/-- Compiling keeps all content of a template in which every branch that others
follow has a condition: each interpolation and the code of each arranged element
occur in the render code. -/
theorem compile_shows {source code : String} {tree : Template.Tree}
    (compiled : compile source = .ok code) (read : Tree.ofText source = .ok tree)
    (conditioned : ∀ each ∈ conditions tree.arranged,
      each.Pairwise fun before _ => before ≠ none) :
    ∀ entry ∈ tree.listed content false, Shows code (entry.1, entry.2.arranged) := by
  intro entry member
  obtain ⟨same, rootNode, inner, readSame, _, isRoot, generated, rfl⟩ :=
    of_compile_eq_ok compiled
  obtain rfl : same = tree := Except.ok.inj (readSame.symm.trans read)
  have arranged : (entry.1, entry.2.arranged) ∈ same.arranged.listed content false :=
    (content_arranges.tree_perm_of_all same false).mem_iff.mpr
      (List.mem_map_of_mem member)
  -- Whatever has content is significant, and the root is the only significant node.
  obtain ⟨node, inTree, inNode⟩ := List.mem_flatMap.mp arranged
  have visible : node.isInsignificant = false := by
    by_contra insignificant
    rw [Bool.not_eq_false] at insignificant
    rw [(content_arranges.seesThrough false).insignificant insignificant] at inNode
    contradiction
  obtain ⟨rootInTree, rfl⟩ := eq_root isRoot inTree visible
  have sound : node.Throughout fun node => node.IsShaped ∧ IsConditioned node := by
    refine Node.throughout_of_below fun other below => ?_
    have contained : same.arranged.Contains other := ⟨node, inTree, below⟩
    exact ⟨Tree.arranged_isShaped read contained,
      isConditioned_of_contains conditioned contained⟩
  exact Shows.trans (keepsContent sound generated _ inNode)
    (((Occurs.refl inner).append_left _).append_right _)

/-- Both branches of a conditional. -/
theorem both_branches_shown :
    let source :=
      "<p><b v-if=\"a\">\x7b\x7ba\x7d\x7d</b><i v-else>\x7b\x7bb\x7d\x7d</i></p>"
    let code :=
      "with(this)\x7breturn _c('p',[(a)?_c('b',[_v(_s(a))]):_c('i',[_v(_s(b))])])\x7d"
    compile source = .ok code ∧ ∃ tree, Tree.ofText source = .ok tree ∧
      conditions tree.arranged = [[some ⟨"a", ⟨12, 13⟩⟩, none]] ∧
      ∀ entry ∈ tree.listed content false, Shows code (entry.1, entry.2.arranged) := by
  intro source code
  have compiled : compile source = .ok code := by decide +kernel
  have known : (Tree.ofText source).map (fun tree => conditions tree.arranged) =
      .ok [[some ⟨"a", ⟨12, 13⟩⟩, none]] := by
    decide +kernel
  obtain ⟨tree, _, _, read, _⟩ := of_compile_eq_ok compiled
  rw [read] at known
  have given : conditions tree.arranged = [[some ⟨"a", ⟨12, 13⟩⟩, none]] :=
    Except.ok.inj known
  refine ⟨compiled, tree, read, given, compile_shows compiled read ?_⟩
  rw [given]
  decide

def expression? : Node → Option String
  | .interpolation expression _ => some expression.trimmed
  | _ => none

/-- A branch without a condition hides the branch behind it. -/
theorem branch_without_condition :
    let source := "<p><b v-if>\x7b\x7ba\x7d\x7d</b><i v-else>\x7b\x7bb\x7d\x7d</i></p>"
    let code := "with(this)\x7breturn _c('p',[_c('b',[_v(_s(a))])])\x7d"
    compile source = .ok code ∧ ∃ tree, Tree.ofText source = .ok tree ∧
      ∃ entry ∈ tree.listed content false, expression? entry.2 = some "b" ∧
        ¬ Shows code entry := by
  intro source code
  have compiled : compile source = .ok code := by decide +kernel
  have expressions : (Tree.ofText source).map (fun tree =>
      (tree.listed content false).filterMap fun entry => expression? entry.2) =
        .ok ["a", "b"] := by
    decide +kernel
  obtain ⟨tree, _, _, read, _⟩ := of_compile_eq_ok compiled
  rw [read] at expressions
  have same :
      (tree.listed content false).filterMap (fun entry => expression? entry.2) =
        ["a", "b"] :=
    Except.ok.inj expressions
  have listed : "b" ∈ (tree.listed content false).filterMap fun entry =>
      expression? entry.2 := by
    rw [same]
    decide
  obtain ⟨⟨inLoop, node⟩, member, said⟩ := List.mem_filterMap.mp listed
  refine ⟨compiled, tree, read, (inLoop, node), member, said, ?_⟩
  cases node with
  | interpolation expression span =>
      have named : expression.trimmed = "b" := Option.some.inj said
      have absent : ¬ ("_s(b)".toList <:+: code.toList) := by decide +kernel
      intro shown
      rw [Shows, named] at shown
      exact absent shown
  | _ => contradiction

end VuePrecompiler.Render
