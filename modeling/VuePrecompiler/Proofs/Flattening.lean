import VuePrecompiler.Proofs.ChildItems
import VuePrecompiler.Proofs.TreeShape

/-!
# How far children are flattened

The runtime takes the children of an element as a list of nodes, and flattens
it as far as the element says.  A child that may be an array asks for level
two.  A loop that is the only child renders the list itself; this is meant for
loops over single nodes.  It looks at the node in the loop, but not into the
branches of a conditional there.
-/

namespace VuePrecompiler.Render

open Template Source

/-- A node for which the runtime can get an array. -/
inductive RendersArray : Node → Prop where
  | loop (head : LoopHead) (children : List Node) (span : Span) :
      RendersArray (.loop head children span)
  | outlet (outlet : Outlet) (fallback : List Node) (span : Span) :
      RendersArray (.outlet outlet fallback span)
  | slotTemplate (directives : List Directive) (children : List Node) (span : Span) :
      RendersArray (.slotTemplate directives children span)
  | fragment {tag : StartTag} (children : List Node) (slots : List Slot)
      (span : Span) :
      tag.name = "template" → RendersArray (.element tag children slots span)
  | branch {branches : List Branch} {branch : Branch} {child : Node} (span : Span) :
      branch ∈ branches → child ∈ branch.children → RendersArray child →
      RendersArray (.conditional branches span)

/-- The classification finds just the nodes that render arrays. -/
theorem mayBeArray_iff (node : Node) : mayBeArray node = true ↔ RendersArray node := by
  induction node using Node.inside_induct with
  | step node induction =>
      cases node with
      | text => exact ⟨nofun, nofun⟩
      | interpolation => exact ⟨nofun, nofun⟩
      | comment => exact ⟨nofun, nofun⟩
      | loop head children span =>
          exact ⟨fun _ => .loop head children span, fun _ => rfl⟩
      | outlet outlet fallback span =>
          exact ⟨fun _ => .outlet outlet fallback span, fun _ => rfl⟩
      | slotTemplate directives children span =>
          exact ⟨fun _ => .slotTemplate directives children span, fun _ => rfl⟩
      | element tag children slots span =>
          constructor
          · intro named
            exact .fragment children slots span (eq_of_beq named)
          · intro renders
            cases renders with
            | fragment _ _ _ named => exact beq_iff_eq.mpr named
      | conditional branches span =>
          rw [Classifies.array.through]
          simp only [List.any_eq_true]
          constructor
          · rintro ⟨branch, given, child, inBranch, isArray⟩
            have inside : child ∈ (Node.conditional branches span).inside :=
              List.mem_flatMap.mpr ⟨branch, given, inBranch⟩
            exact .branch span given inBranch ((induction child inside).mp isArray)
          · intro renders
            cases renders with
            | @branch _ branch child _ given inBranch renders =>
                have inside : child ∈ (Node.conditional branches span).inside :=
                  List.mem_flatMap.mpr ⟨branch, given, inBranch⟩
                exact ⟨branch, given, child, inBranch,
                  (induction child inside).mpr renders⟩

theorem normalization_le_two (children : List Node) : normalization children ≤ 2 := by
  unfold normalization
  split
  · exact Nat.le_refl 2
  · split <;> decide

theorem normalization_eq_two_iff (children : List Node) :
    normalization children = 2 ↔ ∃ child ∈ children, RendersArray child := by
  have arrays :
      anyMayBeArray children = true ↔ ∃ child ∈ children, RendersArray child := by
    simp only [anyMayBeArray_eq, List.any_eq_true, mayBeArray_iff]
  rw [← arrays, normalization]
  split
  · next some_array => exact iff_of_true rfl some_array
  · next noArray =>
    refine iff_of_false ?_ noArray
    split <;> decide

theorem isConditional_of_rendersArray {body : Node}
    (single : rendersFragment [body] = false)
    (content : body.IsElement ∨ body.IsConditional) (renders : RendersArray body) :
    body.IsConditional := by
  rcases content with isElement | isConditional
  · cases isElement with
    | mk tag children slots span =>
        cases renders with
        | fragment _ _ _ named => simp [rendersFragment, named] at single
  · exact isConditional

/-- The mark of a level behind a list of children; a list without a
mark has level 0. -/
def levelMark (level : Nat) : String :=
  if level = 0 then "" else "," ++ toString level

theorem levelMark_eq (level : Nat) :
    (if true && level != 0 then "," ++ toString level else "") = levelMark level := by
  rw [Bool.true_and, levelMark]
  cases level with
  | zero => rfl
  | succ _ => rfl

/-- How the children of an element are given to the runtime: not at all if none is
significant or their place is taken, as a list that is flattened twice if and only
if one of them may be an array, or as the loop that is the only significant child.
What that loop renders for an item is an array only if it is a conditional with an
array in a branch. -/
inductive GivesChildren (tag : StartTag) (children : List Node) :
    Option String → Prop where
  | absent :
      (takesContent tag = false → ∀ child ∈ children, child.isInsignificant = true) →
      GivesChildren tag children none
  | listed (entries : List String) {level : Nat} : level ≤ 2 →
      (level = 2 ↔ ∃ child ∈ children, RendersArray child) →
      GivesChildren tag children (some (array entries ++ levelMark level))
  | loop {head : LoopHead} {body : Node} {span : Span} (code : String) {level : Nat} :
      .loop head [body] span ∈ children →
      (∀ child ∈ children, child.isInsignificant = false →
        child = .loop head [body] span) →
      level ≤ 1 → (RendersArray body → body.IsConditional) →
      GivesChildren tag children (some (loopCode head code ++ "," ++ toString level))

theorem childrenCode?_gives (tag : StartTag) {inLoop : Bool} {children : List Node}
    (shaped : ∀ child ∈ children, child.IsShaped) {paired : List (Node × String)}
    (generated : pairedCodes inLoop children = .ok paired) :
    GivesChildren tag children (childrenCode? true paired) := by
  obtain ⟨sameNodes, codes⟩ := of_pairedCodes_eq_ok generated
  have shape := childrenCode?_cases true paired
  generalize childrenCode? true paired = given at shape ⊢
  cases shape with
  | absent noItems =>
      refine .absent fun _ child member => ?_
      rw [← sameNodes] at member
      obtain ⟨pair, inPaired, rfl⟩ := List.mem_map.mp member
      by_contra visible
      obtain ⟨item, inItems, _⟩ :=
        exists_holds_childItems inPaired (Bool.eq_false_iff.mpr visible)
      rw [noItems] at inItems
      contradiction
  | listed =>
      rw [sameNodes, levelMark_eq]
      exact .listed _ (normalization_le_two children)
        (normalization_eq_two_iff children)
  | @loop head body span code onlyLoop single =>
      have inPaired : (Node.loop head body span, code) ∈ paired :=
        mem_of_single_mem_childItems
          (by rw [onlyLoop]; exact List.mem_singleton_self _)
      have inChildren : Node.loop head body span ∈ children := by
        rw [← sameNodes]
        exact List.mem_map_of_mem inPaired
      obtain ⟨only, rfl, content⟩ := shaped _ inChildren
      have alone : ∀ child ∈ children, child.isInsignificant = false →
          child = .loop head [only] span := by
        intro child member visible
        rw [← sameNodes] at member
        obtain ⟨⟨_, childCode⟩, inPaired, rfl⟩ := List.mem_map.mp member
        obtain ⟨item, inItems, holds⟩ := exists_holds_childItems inPaired visible
        rw [onlyLoop] at inItems
        obtain rfl := List.mem_singleton.mp inItems
        cases holds with
        | single => rfl
      obtain ⟨bodyCode, _, made⟩ := of_bind_eq_ok (codes _ inPaired)
      cases made
      have isConditional := isConditional_of_rendersArray single content
      have mark : ∃ level, level ≤ 1 ∧
          (if anyMayBeComponent [only] then ",1" else ",0") =
            "," ++ toString level := by
        cases anyMayBeComponent [only] with
        | true => exact ⟨1, Nat.le_refl 1, by decide⟩
        | false => exact ⟨0, Nat.zero_le 1, by decide⟩
      obtain ⟨level, small, shown⟩ := mark
      rw [if_pos rfl, shown, ← String.append_assoc]
      exact .loop bodyCode inChildren alone small isConditional

/-- Every element of an arranged template gives its children to the
runtime flattened as far as they must be, except for conditionals in a
loop that is the only child. -/
theorem element_givesChildren {source : String} {tree arranged : Tree}
    (read : Tree.ofText source = .ok tree) (arranges : tree.arrange = .ok arranged)
    {tag : StartTag} {children : List Node} {slots : List Slot} {span : Span}
    (contained : arranged.Contains (.element tag children slots span))
    (named : tag.name ≠ "template") {inLoop : Bool} {code : String}
    (generated : nodeCode inLoop (.element tag children slots span) = .ok code) :
    ∃ data given, code = elementCode tag data given ∧
      GivesChildren tag children given := by
  obtain ⟨_, rfl⟩ := arrange_eq_ok arranges
  have shaped : ∀ child ∈ children, child.IsShaped := by
    intro child member
    exact Tree.arranged_isShaped read
      (contained.inside (List.mem_append_left _ member))
  obtain ⟨entries, given, _, ofChildren, same⟩ := of_nodeCode_element named generated
  refine ⟨_, given, same, ?_⟩
  split at ofChildren
  · next taken =>
    subst ofChildren
    refine .absent fun free => ?_
    rw [taken] at free
    contradiction
  · obtain ⟨paired, ofPaired, rfl⟩ := ofChildren
    exact childrenCode?_gives tag shaped ofPaired

/-- A loop beside another element is flattened. -/
theorem list_givesChildren :
    let item : Node := .element (.ofSource "li" []) [] [] ⟨4, 29⟩
    let items : Node :=
      .loop ⟨⟨"xs", ⟨15, 22⟩⟩, ⟨"x", ⟨15, 22⟩⟩, none, none⟩ [item] ⟨4, 29⟩
    let mark : Node := .element (.ofSource "b" []) [] [] ⟨29, 36⟩
    let root : Node := .element (.ofSource "ul" []) [items, mark] [] ⟨0, 41⟩
    let code := "_c('ul',[_l((xs),function(x)\x7breturn _c('li')\x7d),_c('b')],2)"
    nodeCode false root = .ok code ∧
      ∃ data given, code = elementCode (.ofSource "ul" []) data given ∧
        GivesChildren (.ofSource "ul" []) [items, mark] given := by
  intro item items mark root code
  have read : Tree.ofText "<ul><li v-for=\"x in xs\"></li><b></b></ul>" =
      .ok ⟨[root], ⟨0, 41⟩⟩ := by
    with_unfolding_all rfl
  have arranges : Tree.arrange ⟨[root], ⟨0, 41⟩⟩ = .ok ⟨[root], ⟨0, 41⟩⟩ := by
    with_unfolding_all rfl
  have generated : nodeCode false root = .ok code := by
    decide +kernel
  have contained : Tree.Contains ⟨[root], ⟨0, 41⟩⟩ root :=
    ⟨root, List.mem_singleton_self _, .here⟩
  exact ⟨generated, element_givesChildren read arranges contained
    (by decide) generated⟩

set_option maxRecDepth 2048 in
/-- A conditional in a loop hides from the classification that the
loop renders arrays. -/
theorem loop_of_hidden_arrays :
    let shown : Node := .element (.ofSource "template" [])
      [.element (.ofSource "i" []) [] [] ⟨39, 46⟩] [] ⟨5, 57⟩
    let branch : Branch := .mk .first (some ⟨"c", ⟨36, 37⟩⟩) [shown] ⟨5, 57⟩
    let body : Node := .conditional [branch] ⟨5, 57⟩
    let loop : Node :=
      .loop ⟨⟨"b", ⟨22, 28⟩⟩, ⟨"a", ⟨22, 28⟩⟩, none, none⟩ [body] ⟨5, 57⟩
    let root : Node := .element (.ofSource "div" []) [loop] [] ⟨0, 63⟩
    let tree : Tree := ⟨[root], ⟨0, 63⟩⟩
    Tree.ofText "<div><template v-for=\"a in b\" v-if=\"c\"><i></i></template></div>" =
      .ok tree ∧
      tree.arrange = .ok tree ∧ RendersArray body ∧
      nodeCode false root =
        .ok "_c('div',_l((b),function(a)\x7breturn (c)?[_c('i')]:_e()\x7d),0)" := by
  intro shown branch body loop root tree
  have read :
      Tree.ofText
          "<div><template v-for=\"a in b\" v-if=\"c\"><i></i></template></div>" =
        .ok tree := by
    with_unfolding_all rfl
  have arranges : tree.arrange = .ok tree := by
    with_unfolding_all rfl
  have isArray : RendersArray shown := .fragment _ _ _ rfl
  have given : branch ∈ [branch] := List.mem_singleton_self _
  have inBranch : shown ∈ branch.children := List.mem_singleton_self _
  exact ⟨read, arranges, .branch _ given inBranch isArray, by decide +kernel⟩

end VuePrecompiler.Render
