import VuePrecompiler.Proofs.BalancedData
import VuePrecompiler.Proofs.CodeParts
import VuePrecompiler.Proofs.NodesInside

/-!
# Balanced render code

A template is lexical if its elements are, and all other code in it is
balanced: interpolations, conditions, sources and aliases of loops, and the
names and patterns of slots.  The render code of a lexical template is
balanced, whatever its texts, values and comments are, and however its nodes
are nested.
-/

namespace VuePrecompiler.Template

open Javascript

structure LoopHead.IsLexical (head : LoopHead) : Prop where
  source : IsBalanced head.source.content
  value : IsBalanced head.value.text
  key : ∀ pattern ∈ head.key, IsBalanced pattern.text
  index : ∀ pattern ∈ head.index, IsBalanced pattern.text

structure Outlet.IsLexical (outlet : Outlet) : Prop where
  name : ∀ code, outlet.name = .code code → IsBalanced code.content
  attributes : ∀ attr ∈ outlet.attributes, IsNameText attr.name
  props : ∀ binding ∈ outlet.props, binding.IsLexical

/-- A name that is written out may be any text. -/
structure SlotHead.IsLexical (head : SlotHead) : Prop where
  name : ∀ code, head.name = .computed code → IsBalanced code
  props : ∀ pattern ∈ head.props, IsBalanced pattern.text

/-- A node is lexical, whatever the nodes inside it are. -/
def Node.IsLexical : Node → Prop
  | .element tag _ slots _ => tag.IsLexical ∧ ∀ slot ∈ slots, slot.head.IsLexical
  | .interpolation expression _ => IsBalanced expression.content
  | .conditional branches _ =>
    ∀ branch ∈ branches, ∀ condition ∈ branch.condition, IsBalanced condition.content
  | .loop head _ _ => head.IsLexical
  | .outlet shown _ _ => shown.IsLexical
  | .text _ _ => True
  | .comment _ _ => True
  | .slotTemplate _ _ _ => True

end VuePrecompiler.Template

namespace VuePrecompiler.Render

open Template Text Javascript Source

/-! ## Children -/

theorem isBalanced_textPieces {run : List Node}
    (lexical : ∀ node ∈ run, node.IsLexical)
    (pending : String) : ∀ piece ∈ textPieces pending run, IsBalanced piece := by
  fun_induction textPieces pending run with
  | case1 => exact List.forall_mem_nil _
  | case2 => exact List.forall_mem_singleton.mpr (.literal _)
  | case3 pending content span rest induction =>
      exact induction (List.forall_mem_cons.mp lexical).2
  | case4 pending expression span rest induction =>
      obtain ⟨here, behind⟩ := List.forall_mem_cons.mp lexical
      have code : IsBalanced expression.trimmed := IsBalanced.trimmed here
      refine List.forall_mem_append.mpr ⟨?_,
        List.forall_mem_cons.mpr ⟨?_, induction behind⟩⟩
      · split
        · exact List.forall_mem_nil _
        · exact List.forall_mem_singleton.mpr (.literal _)
      · rw [String.append_assoc]
        exact .fixed_append rfl <| .balanced_append code <| .fixed rfl
  | case5 pending node rest notText notInterpolation induction =>
      exact induction (List.forall_mem_cons.mp lexical).2

theorem isBalanced_textCode {run : List Node}
    (lexical : ∀ node ∈ run, node.IsLexical) : IsBalanced (textCode run) := by
  have pieces : IsBalanced (if (textPieces "" run).isEmpty then literal ""
      else "+".intercalate (textPieces "" run)) :=
    .ite (.literal "") (.intercalate (.fixed rfl) (isBalanced_textPieces lexical ""))
  unfold textCode
  dsimp only
  rw [String.append_assoc]
  exact .fixed_append rfl <| .balanced_append pieces <| .fixed rfl

/-- The children of a list, with balanced code for each of them. -/
theorem isBalanced_childrenCode? (ofElement : Bool) {children : List (Node × String)}
    (each : ∀ child ∈ children, child.1.IsLexical ∧ IsBalanced child.2) :
    ∀ code ∈ childrenCode? ofElement children, IsBalanced code := by
  have items : ∀ item ∈ childItems children, IsBalanced item.code := by
    intro item member
    cases item with
    | single node code => exact (each _ (mem_of_single_mem_childItems member)).2
    | run nodes =>
        rw [ChildItem.code]
        split
        · exact .fixed rfl
        · refine isBalanced_textCode fun node inRun => ?_
          obtain ⟨child, given, rfl⟩ :=
            List.mem_map.mp (mem_of_run_mem_childItems member node inRun)
          exact (each child given).1
  have shape := childrenCode?_cases ofElement children
  generalize childrenCode? ofElement children = given at shape ⊢
  intro code same
  cases same
  cases shape with
  | listed =>
      have codes : ∀ code ∈ (childItems children).map ChildItem.code,
          IsBalanced code := by
        intro code member
        obtain ⟨item, inItems, rfl⟩ := List.mem_map.mp member
        exact items item inItems
      exact (isBalanced_array codes).append
        (.ite (.fixed_append rfl (IsBalanced.number _)) .empty)
  | loop onlyLoop _ =>
      rw [onlyLoop] at items
      exact IsBalanced.append (items _ List.mem_cons_self)
        (.ite (.ite (.fixed rfl) (.fixed rfl)) .empty)

/-! ## Nodes -/

theorem isBalanced_elementCode {tag : StartTag} (lexical : tag.IsLexical)
    {data children : Option String} (given : ∀ code ∈ data, IsBalanced code)
    (listed : ∀ code ∈ children, IsBalanced code) :
    IsBalanced (elementCode tag data children) := by
  have named : IsBalanced ((computedTag? tag).getD ("'" ++ tag.name ++ "'")) := by
    cases computed : computedTag? tag with
    | some code => exact isBalanced_computedTag? lexical computed
    | none =>
        rw [Option.getD_none, String.append_assoc]
        exact .fixed_append rfl <| .quotable_append (isQuotable_tagName lexical) <|
          .fixed rfl
  have parts : ∀ code ∈ (computedTag? tag).getD ("'" ++ tag.name ++ "'") ::
      (data.toList ++ children.toList), IsBalanced code := by
    refine List.forall_mem_cons.mpr ⟨named, List.forall_mem_append.mpr ⟨?_, ?_⟩⟩
    · exact fun code member => given code (Option.mem_toList.mp member)
    · exact fun code member => listed code (Option.mem_toList.mp member)
  unfold elementCode
  rw [String.append_assoc]
  exact .fixed_append rfl <| .balanced_append (.intercalate (.fixed rfl) parts) <|
    .fixed rfl

theorem isBalanced_loopCode {head : LoopHead} (lexical : head.IsLexical)
    {body : String} (balanced : IsBalanced body) :
    IsBalanced (loopCode head body) := by
  have aliases :
      ∀ code ∈ (head.value :: (head.key.toList ++ head.index.toList)).map Pattern.text,
        IsBalanced code := by
    intro code member
    obtain ⟨pattern, given, rfl⟩ := List.mem_map.mp member
    rcases List.mem_cons.mp given with rfl | given
    · exact lexical.value
    · rcases List.mem_append.mp given with isKey | isIndex
      · exact lexical.key pattern (Option.mem_toList.mp isKey)
      · exact lexical.index pattern (Option.mem_toList.mp isIndex)
  have source : IsBalanced head.source.trimmed := lexical.source.trimmed
  unfold loopCode
  simp only [String.append_assoc]
  exact .fixed_append rfl <| .balanced_append source <| .fixed_append rfl <|
    .balanced_append (.intercalate (.fixed rfl) aliases) <| .fixed_append rfl <|
    .balanced_append balanced <| .fixed rfl

theorem isBalanced_outletCode {outlet : Outlet} (lexical : outlet.IsLexical)
    {fallback : Option String} (balanced : ∀ code ∈ fallback, IsBalanced code) :
    IsBalanced (outletCode outlet fallback) := by
  unfold outletCode
  lift_lets
  intro name constants bound props content
  have nameBalanced : IsBalanced name := by
    simp only [name]
    split
    · exact .literal _
    · next code named => exact (lexical.name code named).trimmed
  have propsBalanced : ∀ field ∈ props, IsBalanced field := by
    refine List.forall_mem_append.mpr ⟨?_, ?_⟩
    · intro field member
      obtain ⟨attr, given, rfl⟩ := List.mem_map.mp member
      have named := isQuotable_nameText (lexical.attributes attr given)
      exact isBalanced_field (isQuotable_camelize named) (.literal _)
    · intro field member
      obtain ⟨binding, given, found⟩ := List.mem_filterMap.mp member
      obtain ⟨named, value, _⟩ := lexical.props binding given
      split at found
      · next base isFixed =>
        cases found
        rw [isFixed] at named
        exact isBalanced_field (isQuotable_camelize (isQuotable_nameText named))
          value.trimmed
      · cases found
  have contentBalanced : IsBalanced content := by
    cases fallback with
    | some code => exact .fixed_append rfl (balanced code rfl)
    | none => exact IsBalanced.ite .empty (.fixed rfl)
  have propsCode : IsBalanced (if props.isEmpty then "" else "," ++ object props) :=
    .ite .empty (.fixed_append rfl (isBalanced_object propsBalanced))
  simp only [String.append_assoc]
  exact .fixed_append rfl <| .balanced_append nameBalanced <|
    .balanced_append contentBalanced <| .balanced_append propsCode <| .fixed rfl

theorem isBalanced_slotCode {head : SlotHead} (lexical : head.IsLexical)
    {content : Option String} (balanced : ∀ code ∈ content, IsBalanced code) :
    IsBalanced (slotCode head content) := by
  unfold slotCode
  lift_lets
  intro key body
  have keyBalanced : IsBalanced key := by
    simp only [key]
    split
    · exact .literal _
    · next code named => exact lexical.name code named
  have keyField : IsBalanced ("key:" ++ key) := .fixed_append rfl keyBalanced
  have bodyBalanced : IsBalanced body := by
    cases content with
    | none => exact .fixed rfl
    | some code => exact balanced code rfl
  split
  · next pattern given =>
    have parameters := lexical.props pattern given
    refine isBalanced_object (List.forall_mem_cons.mpr ⟨keyField,
      List.forall_mem_singleton.mpr ?_⟩)
    simp only [String.append_assoc]
    exact .fixed_append rfl <| .balanced_append parameters <| .fixed_append rfl <|
      .balanced_append bodyBalanced <| .fixed rfl
  · refine isBalanced_object (List.forall_mem_cons.mpr ⟨keyField,
      List.forall_mem_cons.mpr ⟨?_,
        List.forall_mem_singleton.mpr (.fixed rfl)⟩⟩)
    rw [String.append_assoc]
    exact .fixed_append rfl <| .balanced_append bodyBalanced <| .fixed rfl

theorem isBalanced_scopedSlotsCode (slots : List Slot) {entries : List String}
    (each : ∀ entry ∈ entries, IsBalanced entry) :
    IsBalanced (scopedSlotsCode slots entries) := by
  have mark :
      IsBalanced (if slots.any (·.head.name.isComputed) then ",null,true" else "") :=
    .ite (.fixed rfl) .empty
  unfold scopedSlotsCode
  simp only [String.append_assoc]
  exact .fixed_append rfl <| .balanced_append (isBalanced_array each) <|
    .balanced_append mark <| .fixed rfl

/-! ## Templates -/

/-- Whatever code is made for a node, it is balanced. -/
def MakesBalanced (node : Node) : Prop :=
  ∀ ⦃inLoop : Bool⦄ ⦃code : String⦄, nodeCode inLoop node = .ok code → IsBalanced code

theorem isBalanced_pairedChildren (ofElement : Bool) {inLoop : Bool}
    {children : List Node} {paired : List (Node × String)}
    (lexical : ∀ child ∈ children, child.IsLexical)
    (make : ∀ child ∈ children, MakesBalanced child)
    (generated : pairedCodes inLoop children = .ok paired) :
    ∀ code ∈ childrenCode? ofElement paired, IsBalanced code := by
  obtain ⟨sameNodes, codes⟩ := of_pairedCodes_eq_ok generated
  refine isBalanced_childrenCode? ofElement fun child member => ?_
  have given : child.1 ∈ children := sameNodes ▸ List.mem_map_of_mem member
  exact ⟨lexical child.1 given, make child.1 given (codes child member)⟩

theorem isBalanced_firstCode {inLoop : Bool} {children : List Node} {code : String}
    (make : ∀ child ∈ children, MakesBalanced child)
    (generated : firstCode inLoop children = .ok code) : IsBalanced code := by
  cases children with
  | nil =>
      cases generated
      exact .fixed rfl
  | cons child rest => exact make child List.mem_cons_self generated

theorem isBalanced_branchesCode {inLoop : Bool} {branches : List Branch}
    {code : String} (lexical : ∀ branch ∈ branches, ∀ condition ∈ branch.condition,
      IsBalanced condition.content)
    (make : ∀ child ∈ branches.flatMap Branch.children, MakesBalanced child)
    (generated : branchesCode inLoop branches = .ok code) : IsBalanced code := by
  induction branches generalizing code with
  | nil =>
      cases generated
      exact .fixed rfl
  | cons branch rest induction =>
      rcases branch with ⟨kind, condition, children, span⟩
      obtain ⟨here, behind⟩ := List.forall_mem_cons.mp lexical
      rw [List.flatMap_cons] at make
      obtain ⟨makeHere, makeBehind⟩ := List.forall_mem_append.mp make
      obtain ⟨body, ofFirst, generated⟩ := of_bind_eq_ok generated
      have bodyBalanced := isBalanced_firstCode makeHere ofFirst
      cases condition with
      | none =>
          cases generated
          exact bodyBalanced
      | some condition =>
          dsimp only at generated
          split at generated
          · cases generated
            exact bodyBalanced
          · obtain ⟨others, ofRest, same⟩ := of_bind_eq_ok generated
            cases same
            have asked : IsBalanced condition.trimmed :=
              IsBalanced.trimmed (here condition rfl)
            simp only [String.append_assoc]
            exact .fixed_append rfl <| .balanced_append asked <| .fixed_append rfl <|
              .balanced_append bodyBalanced <| .fixed_append rfl <|
              induction behind makeBehind ofRest

theorem isBalanced_slotCodes {inLoop : Bool} {slots : List Slot}
    {entries : List String} (lexical : ∀ slot ∈ slots, slot.head.IsLexical)
    (inside : ∀ child ∈ slots.flatMap Slot.children, child.IsLexical)
    (make : ∀ child ∈ slots.flatMap Slot.children, MakesBalanced child)
    (generated : slotCodes inLoop slots = .ok entries) :
    ∀ entry ∈ entries, IsBalanced entry := by
  induction slots generalizing entries with
  | nil =>
      cases generated
      exact List.forall_mem_nil _
  | cons slot rest induction =>
      rcases slot with ⟨head, children⟩
      obtain ⟨here, behind⟩ := List.forall_mem_cons.mp lexical
      rw [List.flatMap_cons] at inside make
      obtain ⟨insideHere, insideBehind⟩ := List.forall_mem_append.mp inside
      obtain ⟨makeHere, makeBehind⟩ := List.forall_mem_append.mp make
      obtain ⟨paired, ofChildren, generated⟩ := of_bind_eq_ok generated
      obtain ⟨others, ofRest, same⟩ := of_bind_eq_ok generated
      cases same
      have content := isBalanced_pairedChildren false insideHere makeHere ofChildren
      exact List.forall_mem_cons.mpr
        ⟨isBalanced_slotCode here content,
          induction behind insideBehind makeBehind ofRest⟩

theorem isBalanced_getD {code : Option String} {instead : String}
    (other : IsBalanced instead) (balanced : ∀ given ∈ code, IsBalanced given) :
    IsBalanced (code.getD instead) := by
  cases code with
  | none => exact other
  | some given => exact balanced given rfl

theorem makesBalanced {node : Node} (lexical : node.Throughout Node.IsLexical) :
    MakesBalanced node := by
  induction node using Node.inside_induct with
  | step node induction =>
      have make : ∀ child ∈ node.inside, MakesBalanced child :=
        fun child member => induction child member (lexical.inside child member)
      have inside : ∀ child ∈ node.inside, child.IsLexical :=
        fun child member => (lexical.inside child member).here
      have here := lexical.here
      intro inLoop code generated
      cases node with
      | text content span =>
          cases generated
          exact isBalanced_textCode (List.forall_mem_singleton.mpr here)
      | interpolation expression span =>
          cases generated
          exact isBalanced_textCode (List.forall_mem_singleton.mpr here)
      | comment content span =>
          cases generated
          exact .fixed rfl
      | conditional branches span => exact isBalanced_branchesCode here make generated
      | loop head children span =>
          obtain ⟨body, ofFirst, same⟩ := of_bind_eq_ok generated
          cases same
          exact isBalanced_loopCode here (isBalanced_firstCode make ofFirst)
      | outlet outlet fallback span =>
          obtain ⟨paired, ofFallback, same⟩ := of_bind_eq_ok generated
          cases same
          exact isBalanced_outletCode here
            (isBalanced_pairedChildren false inside make ofFallback)
      | slotTemplate directives children span =>
          obtain ⟨paired, ofChildren, same⟩ := of_bind_eq_ok generated
          cases same
          exact isBalanced_getD (.fixed rfl)
            (isBalanced_pairedChildren false inside make ofChildren)
      | element tag children slots span =>
          obtain ⟨tagLexical, heads⟩ := here
          obtain ⟨insideChildren, insideSlots⟩ := List.forall_mem_append.mp inside
          obtain ⟨makeChildren, makeSlots⟩ := List.forall_mem_append.mp make
          by_cases named : tag.name = "template"
          · rw [nodeCode, if_pos (beq_iff_eq.mpr named)] at generated
            obtain ⟨paired, ofChildren, same⟩ := of_bind_eq_ok generated
            cases same
            exact isBalanced_getD (.fixed rfl)
              (isBalanced_pairedChildren false insideChildren makeChildren ofChildren)
          · obtain ⟨entries, given, ofSlots, ofChildren, rfl⟩ :=
              of_nodeCode_element named generated
            have entriesBalanced :=
              isBalanced_slotCodes heads insideSlots makeSlots ofSlots
            refine isBalanced_elementCode tagLexical
              (isBalanced_dataObject? tagLexical inLoop ?_) ?_
            · intro code isSlots
              split at isSlots
              · cases isSlots
              · cases isSlots
                exact isBalanced_scopedSlotsCode slots entriesBalanced
            · split at ofChildren
              · rw [ofChildren]
                exact fun _ given => absurd given (Option.not_mem_none _)
              · obtain ⟨paired, ofPaired, rfl⟩ := ofChildren
                exact isBalanced_pairedChildren true insideChildren
                  makeChildren ofPaired

/-- The render code of a lexical template is balanced. -/
theorem generate_isBalanced {tree : Template.Tree} {code : String}
    (lexical : ∀ node, tree.Contains node → node.IsLexical)
    (generated : generate tree = .ok code) : IsBalanced code := by
  obtain ⟨rootNode, isRoot, generated⟩ := of_bind_eq_ok generated
  obtain ⟨body, ofRoot, same⟩ := of_bind_eq_ok generated
  cases same
  have throughout : rootNode.Throughout Node.IsLexical :=
    Node.throughout_of_below fun other below =>
      lexical other ⟨rootNode, mem_of_root isRoot, below⟩
  rw [String.append_assoc]
  exact .fixed_append rfl <| .balanced_append (makesBalanced throughout ofRoot) <|
    .fixed rfl

/-- An input with quotes, brackets and a backslash in its texts, bound to a path. -/
theorem balanced_input :
    let span : Span := ⟨0, 0⟩
    let path : Code := ⟨"form['a]'].b[0]", span⟩
    let tag : StartTag := {
      name := "input"
      isComponent := false
      attributes := [⟨"title", some ⟨"(\\\"[", span⟩, span⟩]
      directives := [⟨"model", none, [], some path, span⟩]
      props := []
      listeners := [⟨.fixed "keyup", ⟨"go('\\'')", span⟩, ["enter"], span⟩] }
    let tree : Template.Tree := ⟨[.element tag [.text "it's \x7b" span] [] span], span⟩
    let code := "with(this)\x7breturn _c('input',\x7bdirectives:[\x7bname:\"model\","
      ++ "rawName:\"v-model\",value:(form['a]'].b[0]),expression:\"form['a]'].b[0]\"\x7d],"
      ++ "attrs:\x7b\"title\":\"(\\\\\\\"[\"\x7d,domProps:\x7b\"value\":(form['a]'].b[0])\x7d,"
      ++ "on:\x7b\"input\":function($event)\x7bif($event.target.composing)return;"
      ++ "$set(form['a]'].b, 0, $event.target.value)\x7d,\"keyup\":function($event)"
      ++ "\x7bif(!$event.type.indexOf('key')&&_k($event.keyCode,\"enter\",13,$event.key,\"Enter\"))"
      ++ "return null;return go('\\'')\x7d\x7d\x7d,[_v(\"it's \x7b\")])\x7d"
    (∀ node, tree.Contains node → node.IsLexical) ∧ generate tree = .ok code ∧
      IsBalanced code := by
  intro span path tag tree code
  have isPath : IsAccessPath (trim path.content.toList) := by
    have shape : trim path.content.toList = ("form".toList ++
        '[' :: ("'a]'".toList ++ [']']) ++
        '.' :: ['b']) ++ '[' :: (['0'] ++ [']']) := by
      decide +kernel
    rw [shape]
    have form : IsAccessPath "form".toList :=
      .identifier (List.all_eq_true.mp (by decide +kernel))
    exact .index (.member (.index form (by decide +kernel))
      (List.all_eq_true.mp (by decide))) (by decide +kernel)
  have tagLexical : tag.IsLexical := {
    name := List.all_eq_true.mp (by decide +kernel)
    attributes := List.forall_mem_singleton.mpr (by decide +kernel)
    directives := List.forall_mem_singleton.mpr {
      name := by decide +kernel
      argument := by rintro _ ⟨⟩
      value := fun code same => Option.some.inj same ▸ by decide +kernel
      model := fun _ code same => Option.some.inj same ▸ isPath }
    props := List.forall_mem_nil _
    listeners := List.forall_mem_singleton.mpr {
      name := (by decide +kernel : IsNameText "keyup")
      handler := by decide +kernel } }
  have lexical : ∀ node, tree.Contains node → node.IsLexical := by
    rintro node ⟨top, inTree, below⟩
    obtain rfl := List.mem_singleton.mp inTree
    cases below with
    | here => exact ⟨tagLexical, List.forall_mem_nil _⟩
    | inside member below =>
        obtain rfl := List.mem_singleton.mp member
        cases below with
        | here => trivial
        | inside member _ => cases member
  have generated : generate tree = .ok code := by decide +kernel
  exact ⟨lexical, generated, generate_isBalanced lexical generated⟩

end VuePrecompiler.Render
