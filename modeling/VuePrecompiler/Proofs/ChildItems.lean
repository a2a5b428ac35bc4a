import Mathlib.Data.List.TakeWhile
import VuePrecompiler.Render.Code
import VuePrecompiler.Proofs.Nesting

/-!
# Children and their items

The code of a list of children is made of items.  A child that is no text is
an item of its own, neighbouring texts share one, and only blank items are
dropped, so every child that says something is found again in an item.
-/

namespace VuePrecompiler.Render

open Template Source

theorem of_pairedCodes_eq_ok {inLoop : Bool} {children : List Node}
    {paired : List (Node × String)}
    (generated : pairedCodes inLoop children = .ok paired) :
    paired.map Prod.fst = children ∧
      ∀ pair ∈ paired, nodeCode inLoop pair.1 = .ok pair.2 := by
  induction children generalizing paired with
  | nil =>
      cases generated
      exact ⟨rfl, by simp⟩
  | cons node rest induction =>
      obtain ⟨code, ofNode, generated⟩ := of_bind_eq_ok generated
      obtain ⟨others, ofRest, same⟩ := of_bind_eq_ok generated
      cases same
      obtain ⟨sameRest, codes⟩ := induction ofRest
      refine ⟨congrArg (node :: ·) sameRest, ?_⟩
      intro pair member
      rcases List.mem_cons.mp member with rfl | member
      · exact ofNode
      · exact codes pair member

theorem exists_paired {inLoop : Bool} {children : List Node}
    {paired : List (Node × String)}
    (generated : pairedCodes inLoop children = .ok paired) {child : Node}
    (member : child ∈ children) :
    ∃ code, (child, code) ∈ paired ∧ nodeCode inLoop child = .ok code := by
  obtain ⟨sameNodes, codes⟩ := of_pairedCodes_eq_ok generated
  rw [← sameNodes] at member
  obtain ⟨⟨_, code⟩, inPaired, rfl⟩ := List.mem_map.mp member
  exact ⟨code, inPaired, codes _ inPaired⟩

namespace ChildItem

/-- An item holds a child: as one of its texts, or as the node it consists of. -/
inductive Holds : ChildItem → Node × String → Prop where
  | textual {nodes : List Node} {node : Node} {code : String} :
      isTextual node = true → node ∈ nodes → Holds (.run nodes) (node, code)
  | single {node : Node} {code : String} :
      isTextual node = false → Holds (.single node code) (node, code)

theorem Holds.cons {nodes : List Node} {child : Node × String} (node : Node)
    (holds : Holds (.run nodes) child) : Holds (.run (node :: nodes)) child := by
  cases holds with
  | textual textual member => exact .textual textual (List.mem_cons_of_mem node member)

theorem exists_holds_group {children : List (Node × String)} {child : Node × String}
    (member : child ∈ children) : ∃ item ∈ group children, item.Holds child := by
  fun_induction group children with
  | case1 => contradiction
  | case2 node code rest textual nodes others sameItems induction =>
      rcases List.mem_cons.mp member with rfl | member
      · exact ⟨_, List.mem_cons_self, .textual textual List.mem_cons_self⟩
      · obtain ⟨item, inItems, holds⟩ := induction member
        rw [sameItems] at inItems
        rcases List.mem_cons.mp inItems with rfl | inItems
        · exact ⟨_, List.mem_cons_self, holds.cons node⟩
        · exact ⟨item, List.mem_cons_of_mem _ inItems, holds⟩
  | case3 node code rest textual _ induction =>
      rcases List.mem_cons.mp member with rfl | member
      · exact ⟨_, List.mem_cons_self, .textual textual List.mem_cons_self⟩
      · obtain ⟨item, inItems, holds⟩ := induction member
        exact ⟨item, List.mem_cons_of_mem _ inItems, holds⟩
  | case4 node code rest notTextual induction =>
      rcases List.mem_cons.mp member with rfl | member
      · exact ⟨_, List.mem_cons_self, .single (Bool.eq_false_iff.mpr notTextual)⟩
      · obtain ⟨item, inItems, holds⟩ := induction member
        exact ⟨item, List.mem_cons_of_mem _ inItems, holds⟩

theorem mem_of_single_mem_group {children : List (Node × String)} {node : Node}
    {code : String} (member : .single node code ∈ group children) :
    (node, code) ∈ children := by
  fun_induction group children with
  | case1 => contradiction
  | case2 first firstCode rest textual nodes others sameItems induction =>
      rcases List.mem_cons.mp member with same | member
      · contradiction
      · refine List.mem_cons_of_mem _ (induction ?_)
        rw [sameItems]
        exact List.mem_cons_of_mem _ member
  | case3 first firstCode rest textual _ induction =>
      rcases List.mem_cons.mp member with same | member
      · contradiction
      · exact List.mem_cons_of_mem _ (induction member)
  | case4 first firstCode rest notTextual induction =>
      rcases List.mem_cons.mp member with same | member
      · cases same
        exact List.mem_cons_self
      · exact List.mem_cons_of_mem _ (induction member)

theorem mem_of_run_mem_group {children : List (Node × String)} {nodes : List Node}
    (member : .run nodes ∈ group children) :
    ∀ node ∈ nodes, node ∈ children.map Prod.fst := by
  fun_induction group children generalizing nodes with
  | case1 => contradiction
  | case2 first code rest textual run others sameItems induction =>
      rw [sameItems] at induction
      rcases List.mem_cons.mp member with same | member
      · cases same
        exact List.forall_mem_cons.mpr ⟨List.mem_cons_self, fun node inRun =>
          List.mem_cons_of_mem _ (induction List.mem_cons_self node inRun)⟩
      · intro node inRun
        exact List.mem_cons_of_mem _
          (induction (List.mem_cons_of_mem _ member) node inRun)
  | case3 first code rest textual _ induction =>
      rcases List.mem_cons.mp member with same | member
      · cases same
        exact List.forall_mem_singleton.mpr List.mem_cons_self
      · exact fun node inRun => List.mem_cons_of_mem _ (induction member node inRun)
  | case4 first code rest notTextual induction =>
      rcases List.mem_cons.mp member with same | member
      · contradiction
      · exact fun node inRun => List.mem_cons_of_mem _ (induction member node inRun)

theorem mem_dropWhile_blank {items : List ChildItem} {item : ChildItem}
    (member : item ∈ items) (visible : item.isBlank = false) :
    item ∈ items.dropWhile isBlank := by
  rw [← List.takeWhile_append_dropWhile (p := isBlank) (l := items),
    List.mem_append] at member
  rcases member with dropped | kept
  · rw [List.mem_takeWhile_imp dropped] at visible
    contradiction
  · exact kept

theorem mem_trimEnds {items : List ChildItem} {item : ChildItem}
    (member : item ∈ items) (visible : item.isBlank = false) :
    item ∈ trimEnds items := by
  -- The end is trimmed as the front of the reversed list.
  have behind := List.mem_reverse.mpr (mem_dropWhile_blank member visible)
  exact List.mem_reverse.mpr (mem_dropWhile_blank behind visible)

theorem mem_of_mem_trimEnds {items : List ChildItem} {item : ChildItem}
    (member : item ∈ trimEnds items) : item ∈ items := by
  have behind := (List.dropWhile_sublist isBlank).subset (List.mem_reverse.mp member)
  exact (List.dropWhile_sublist isBlank).subset (List.mem_reverse.mp behind)

end ChildItem

/-- The items that the code of a list of children is made of. -/
def childItems (children : List (Node × String)) : List ChildItem :=
  ChildItem.trimEnds (ChildItem.group (children.filter fun child =>
    !isComment child.1))

theorem mem_of_single_mem_childItems {children : List (Node × String)} {node : Node}
    {code : String} (member : .single node code ∈ childItems children) :
    (node, code) ∈ children :=
  List.mem_filter.mp
    (ChildItem.mem_of_single_mem_group (ChildItem.mem_of_mem_trimEnds member)) |>.1

theorem mem_of_run_mem_childItems {children : List (Node × String)} {nodes : List Node}
    (member : .run nodes ∈ childItems children) :
    ∀ node ∈ nodes, node ∈ children.map Prod.fst := by
  intro node inRun
  have kept :=
    ChildItem.mem_of_run_mem_group (ChildItem.mem_of_mem_trimEnds member) node inRun
  exact (List.filter_sublist.map Prod.fst).subset kept

/-- Every child that is neither a comment nor blank is held by an item. -/
theorem exists_holds_childItems {children : List (Node × String)}
    {child : Node × String} (member : child ∈ children)
    (visible : child.1.isInsignificant = false) :
    ∃ item ∈ childItems children, item.Holds child := by
  have listed : isComment child.1 = false := by
    rcases child with ⟨node, code⟩
    cases node with
    | comment => contradiction
    | _ => rfl
  have kept : child ∈ children.filter fun child => !isComment child.1 :=
    List.mem_filter.mpr ⟨member, by rw [listed]; rfl⟩
  obtain ⟨item, inItems, holds⟩ := ChildItem.exists_holds_group kept
  refine ⟨item, ChildItem.mem_trimEnds inItems ?_, holds⟩
  cases holds with
  | single => rfl
  | @textual nodes node code textual inNodes =>
      have said : isBlankNode node = false := by
        cases node with
        | text => exact visible
        | _ => rfl
      exact List.all_eq_false.mpr ⟨node,
        inNodes, by rw [said]; exact Bool.false_ne_true⟩

/-! ## The classification of children -/

/-- Looking through a list one by one is looking for any item of it. -/
theorem eq_any {Item : Type} {test : Item → Bool} {anyOf : List Item → Bool}
    (nil : anyOf [] = false)
    (cons : ∀ first rest, anyOf (first :: rest) = (test first || anyOf rest))
    (items : List Item) : anyOf items = items.any test := by
  induction items with
  | nil => rw [nil, List.any_nil]
  | cons first rest induction => rw [cons, induction, List.any_cons]

theorem anyMayBeArray_eq (nodes : List Node) :
    anyMayBeArray nodes = nodes.any mayBeArray :=
  eq_any rfl (fun _ _ => rfl) nodes

theorem anyMayBeComponent_eq (nodes : List Node) :
    anyMayBeComponent nodes = nodes.any mayBeComponent :=
  eq_any rfl (fun _ _ => rfl) nodes

/-- The two tests by which children are classified. -/
inductive Classifies : (Node → Bool) → Prop where
  | array : Classifies mayBeArray
  | component : Classifies mayBeComponent

/-- Both tests look through a conditional at the nodes in its branches. -/
theorem Classifies.through {test : Node → Bool} (classifies : Classifies test)
    (branches : List Branch) (span : Span) :
    test (.conditional branches span) =
      branches.any fun branch => branch.children.any test := by
  cases classifies with
  | array =>
      refine eq_any rfl (fun branch rest => ?_) branches
      rcases branch with ⟨kind, condition, children, span⟩
      exact congrArg (· || branchMayBeArray rest) (anyMayBeArray_eq children)
  | component =>
      refine eq_any rfl (fun branch rest => ?_) branches
      rcases branch with ⟨kind, condition, children, span⟩
      exact congrArg (· || branchMayBeComponent rest) (anyMayBeComponent_eq children)

/-! ## The code of a list of children -/

/-- What the code of a list of children is: nothing, a list, or a loop
that renders the list. For the children of an element a mark says how
far to flatten them. -/
inductive ChildrenCode (ofElement : Bool) (children : List (Node × String)) :
    Option String → Prop where
  | absent : childItems children = [] → ChildrenCode ofElement children none
  | listed : ChildrenCode ofElement children
      (some (array ((childItems children).map ChildItem.code) ++
        if ofElement && normalization (children.map (·.1)) != 0 then
          "," ++ toString (normalization (children.map (·.1))) else ""))
  | loop {head : LoopHead} {body : List Node} {span : Span} {code : String} :
      childItems children = [.single (.loop head body span) code] →
      rendersFragment body = false →
      ChildrenCode ofElement children
        (some (code ++ if ofElement then if anyMayBeComponent body then ",1"
          else ",0" else ""))

theorem childrenCode?_cases (ofElement : Bool) (children : List (Node × String)) :
    ChildrenCode ofElement children (childrenCode? ofElement children) := by
  have list : ChildrenCode ofElement children
      (if (childItems children).isEmpty then none
        else some (array ((childItems children).map ChildItem.code) ++
          if ofElement && normalization (children.map (·.1)) != 0 then
            "," ++ toString (normalization (children.map (·.1))) else "")) := by
    split
    · next noItems => exact .absent (List.isEmpty_iff.mp noItems)
    · exact .listed
  unfold childrenCode?
  dsimp only
  split
  · next head body span code onlyLoop =>
    have onlyLoop : childItems children = [.single (.loop head body span) code] :=
      onlyLoop
    split
    · exact list
    · next single =>
      have looped : ChildrenCode ofElement children
          (some (code ++ if ofElement then if anyMayBeComponent body then ",1"
            else ",0" else "")) :=
        .loop onlyLoop (Bool.eq_false_iff.mpr single)
      cases ofElement with
      | true => exact looped
      | false => simpa using looped
  · exact list

/-! ## The code of an element -/

/-- Whether an element has its content from a directive, and not from its children. -/
def takesContent (tag : StartTag) : Bool :=
  tag.hasDirective "html" || tag.hasDirective "text"

/-- The code of an element is made of the entries of its slots and the code of its
children, unless it takes its content elsewhere. -/
theorem of_nodeCode_element {inLoop : Bool} {tag : StartTag} {children : List Node}
    {slots : List Slot} {span : Span} {code : String} (named : tag.name ≠ "template")
    (generated : nodeCode inLoop (.element tag children slots span) = .ok code) :
    ∃ entries given, slotCodes inLoop slots = .ok entries ∧
      (if takesContent tag then given = none
        else ∃ paired, pairedCodes inLoop children = .ok paired ∧
          given = childrenCode? true paired) ∧
      code = elementCode tag (dataObject? tag inLoop
        (if slots.isEmpty then none else some (scopedSlotsCode slots entries)))
        given := by
  rw [nodeCode, if_neg (by simpa using named)] at generated
  split at generated
  · cases generated
  · obtain ⟨entries, ofSlots, generated⟩ := of_bind_eq_ok generated
    cases content : takesContent tag with
    | true =>
        rw [takesContent] at content
        rw [if_pos content] at generated
        cases generated
        exact ⟨entries, none, ofSlots, rfl, rfl⟩
    | false =>
        rw [takesContent] at content
        rw [content] at generated
        cases ofChildren : pairedCodes inLoop children with
        | error fault =>
            rw [ofChildren] at generated
            cases generated
        | ok paired =>
            rw [ofChildren] at generated
            cases generated
            exact ⟨entries, _, ofSlots, ⟨paired, rfl, rfl⟩, rfl⟩

theorem mem_of_root {tree : Template.Tree} {rootNode : Node}
    (isRoot : root tree = .ok rootNode) : rootNode ∈ tree.children := by
  unfold root at isRoot
  split at isRoot
  · contradiction
  · next only single =>
    split at isRoot
    · contradiction
    · cases isRoot
      have kept : rootNode ∈ tree.children.filter fun node => !node.isInsignificant :=
        single ▸ List.mem_cons_self
      exact (List.mem_filter.mp kept).1
  · contradiction

end VuePrecompiler.Render
