import VuePrecompiler.Proofs.LexemeSlices

/-!
# Where nodes stand

What is read of a template stands in it: the span of a node lies in the
source, its parts are quoted inside of it, and the nodes below it stand in it
one behind the other.
-/

namespace VuePrecompiler.Template

open Source Text

/-! ## Parts of start tags -/

/-- An item of a start tag stands in it, with the text of its value inside. -/
structure IsPlacedItem (source : String) (outer span : Span)
    (value : Option (String × Span)) : Prop where
  liesIn : span.LiesIn source
  inside : outer.Within span
  value : ∀ given ∈ value, span.Quotes source given.1 given.2

def Attribute.IsPlaced (source : String) (outer : Span) (item : Attribute) : Prop :=
  IsPlacedItem source outer item.span (item.value.map fun value =>
    (value.text, value.span))

def Binding.IsPlaced (source : String) (outer : Span) (item : Binding) : Prop :=
  IsPlacedItem source outer item.span (some (item.value.content, item.value.span))

def Directive.IsPlaced (source : String) (outer : Span) (item : Directive) : Prop :=
  IsPlacedItem source outer item.span (item.value.map fun code =>
    (code.content, code.span))

/-- Without a value a listener has an empty handler, with the span of the listener. -/
def Listener.IsPlaced (source : String) (outer : Span) (item : Listener) : Prop :=
  IsPlacedItem source outer item.span
    (some (item.handler.content, item.handler.span)) ∨
    IsPlacedItem source outer item.span none ∧ item.handler = ⟨"", item.span⟩

structure StartTag.IsPlaced (source : String) (outer : Span)
    (tag : StartTag) : Prop where
  attributes : ∀ item ∈ tag.attributes, item.IsPlaced source outer
  directives : ∀ item ∈ tag.directives, item.IsPlaced source outer
  props : ∀ item ∈ tag.props, item.IsPlaced source outer
  listeners : ∀ item ∈ tag.listeners, item.IsPlaced source outer

def TagItem.IsPlaced (source : String) (outer : Span) : TagItem → Prop
  | .plain item => item.IsPlaced source outer
  | .directive item => item.IsPlaced source outer
  | .binding item => item.IsPlaced source outer
  | .listener item => item.IsPlaced source outer
  | .nothing => True

section

variable {source : String} {outer : Span}

theorem TagItem.ofSource_isPlaced {item : SourceAttribute}
    (taken : item.IsTaken source outer) :
    (TagItem.ofSource item).IsPlaced source outer := by
  have placed : IsPlacedItem source outer item.span item.value :=
    ⟨taken.liesIn, taken.inside, taken.value⟩
  rcases item with ⟨name, value, span⟩
  have directive (name : String) (argument : Option Name) (modifiers : List String) :
      (Directive.mk name argument modifiers (value.map fun written =>
        ⟨written.1, written.2⟩)
          span).IsPlaced source outer := by
    cases value <;> exact placed
  unfold TagItem.ofSource
  dsimp only
  split
  · cases value with
    | none => trivial
    | some value => exact placed
  · split
    · cases value with
      | none => exact .inr ⟨placed, rfl⟩
      | some value => exact .inl placed
    · split
      · exact directive _ _ _
      · split
        · exact directive _ _ _
        · cases value <;> exact placed

theorem StartTag.ofSource_isPlaced {name : String} {items : List SourceAttribute}
    (taken : ∀ item ∈ items, item.IsTaken source outer) :
    (StartTag.ofSource name items).IsPlaced source outer := by
  have each : ∀ item ∈ items.map TagItem.ofSource, item.IsPlaced source outer := by
    intro item member
    obtain ⟨given, inItems, rfl⟩ := List.mem_map.mp member
    exact TagItem.ofSource_isPlaced (taken given inItems)
  constructor
  all_goals
    intro item member
    obtain ⟨given, inItems, same⟩ := List.mem_filterMap.mp member
    have placed := each given inItems
    split at same
    · cases same
      exact placed
    · contradiction

namespace StartTag.IsPlaced

variable {tag : StartTag} (placed : tag.IsPlaced source outer)
include placed

theorem takeDirective (name : String) :
    (tag.takeDirective? name).2.IsPlaced source outer :=
  { placed with
    directives :=
      fun item member => placed.directives item (List.mem_of_mem_eraseP member) }

theorem stripped : tag.stripped.IsPlaced source outer :=
  (((placed.takeDirective "for").takeDirective "if").takeDirective
    "else-if").takeDirective "else"

theorem directive? {name : String} {directive : Directive}
    (given : tag.directive? name = some directive) : directive.IsPlaced source outer :=
  placed.directives directive (List.mem_of_find?_eq_some given)

end StartTag.IsPlaced

end

/-! ## Parts of nodes -/

/-- The name of an outlet is written out in it, or stands for the missing one. -/
def OutletName.IsPlaced (source : String) (outer : Span) : OutletName → Prop
  | .literal text span =>
    span.LiesIn source ∧ outer.Within span ∧
      (span.slice? source = some text ∨ text = "" ∨ text = "default")
  | .code bound => outer.Quotes source bound.content bound.span

structure Outlet.IsPlaced (source : String) (outer : Span)
    (outlet : Outlet) : Prop where
  name : outlet.name.IsPlaced source outer
  attributes : ∀ item ∈ outlet.attributes, item.IsPlaced source outer
  props : ∀ item ∈ outlet.props, item.IsPlaced source outer

/-- All spans in the head of a loop. -/
def LoopHead.spans (head : LoopHead) : List Span :=
  head.source.span :: (head.value :: (head.key.toList ++ head.index.toList)).map
    Pattern.span

structure Branch.IsPlaced (source : String) (outer : Span)
    (branch : Branch) : Prop where
  liesIn : branch.span.LiesIn source
  inside : outer.Within branch.span
  condition :
    ∀ code ∈ branch.condition, branch.span.Quotes source code.content code.span

/-- The parts of a node other than nodes stand in it. -/
def Node.PartsPlaced (source : String) : Node → Prop
  | .element tag _ slots span => tag.IsPlaced source span ∧ slots = []
  | .text content span => span.slice? source = some content
  | .interpolation expression span =>
    ∃ written, span.Quotes source written expression.span ∧
      expression.content = trimmed written
  | .comment content span => ∃ inner, span.Quotes source content inner
  | .conditional branches span => ∀ branch ∈ branches, branch.IsPlaced source span
  | .loop head _ span => ∀ part ∈ head.spans, part.LiesIn source ∧ span.Within part
  | .outlet given _ span => given.IsPlaced source span
  | .slotTemplate directives _ span => ∀ item ∈ directives, item.IsPlaced source span

/-- Siblings stand one behind the other. -/
def AreInOrder (nodes : List Node) : Prop :=
  nodes.Pairwise fun before later => before.span.stop ≤ later.span.start

/-- A node stands in the source with all that belongs to it. -/
structure Node.IsPlaced (source : String) (node : Node) : Prop where
  liesIn : node.span.LiesIn source
  parts : node.PartsPlaced source
  inside : ∀ child ∈ node.inside, node.span.Within child.span
  ordered : AreInOrder node.inside

section

variable {source : String} {outer : Span} {tag : StartTag}

theorem Outlet.ofTag_isPlaced (whole : outer.LiesIn source)
    (placed : tag.IsPlaced source outer) :
    (Outlet.ofTag tag outer).IsPlaced source outer where
  name := by
    unfold Outlet.ofTag
    dsimp only
    split
    · next _ _ bound given =>
      have inTag := placed.props bound (List.mem_of_find?_eq_some given)
      exact (inTag.value _ rfl).widen inTag.inside
    · next _ _ plain _ given =>
      have inTag := placed.attributes plain (List.mem_of_find?_eq_some given)
      rcases plain with ⟨name, value, span⟩
      cases value with
      | none => exact ⟨inTag.liesIn, inTag.inside, .inr (.inl rfl)⟩
      | some value =>
          have quotes := inTag.value _ rfl
          exact ⟨Span.liesIn_of_slice? quotes.slice, inTag.inside.trans quotes.inside,
            .inl quotes.slice⟩
    · exact ⟨whole, .refl outer, .inr (.inr rfl)⟩
  attributes item member := placed.attributes item (List.mem_filter.mp member).1
  props item member := placed.props item (List.mem_filter.mp member).1

theorem LoopHead.spans_ofDirective {directive : Directive} {head : LoopHead}
    (read : LoopHead.ofDirective directive = .ok head) :
    ∃ code, directive.value = some code ∧ ∀ part ∈ head.spans, part = code.span := by
  unfold LoopHead.ofDirective at read
  split at read
  · contradiction
  · next code given =>
    refine ⟨code, given, ?_⟩
    split at read
    · next found isHead =>
      obtain rfl := Except.ok.inj read
      unfold LoopHead.ofCode? at isHead
      obtain ⟨⟨aliases, written⟩, _, isHead⟩ := Option.bind_eq_some_iff.mp isHead
      dsimp only at isHead
      split at isHead
      all_goals first
        | contradiction
        | (split at isHead
           · contradiction
           · obtain rfl := Option.some.inj isHead
             simp [LoopHead.spans])
    · contradiction

/-- Nodes stand in a part of the source, one behind the other, with
everything below them. -/
structure ArePlaced (source : String) (outer : Span) (nodes : List Node) : Prop where
  each : ∀ node ∈ nodes, node.Throughout (Node.IsPlaced source)
  inside : ∀ node ∈ nodes, outer.Within node.span
  ordered : AreInOrder nodes

namespace ArePlaced

theorem nil : ArePlaced source outer [] :=
  ⟨by simp, by simp, .nil⟩

theorem cons {node : Node} {nodes : List Node} {middle : Nat}
    (placed : node.Throughout (Node.IsPlaced source))
    (first : Span.Within ⟨outer.start, middle⟩ node.span)
    (ordered : outer.start ≤ middle) (ends : middle ≤ outer.stop)
    (later : ArePlaced source ⟨middle, outer.stop⟩ nodes) :
    ArePlaced source outer (node :: nodes) where
  each := List.forall_mem_cons.mpr ⟨placed, later.each⟩
  inside := List.forall_mem_cons.mpr ⟨⟨first.start, Nat.le_trans first.stop ends⟩,
    fun other member => ⟨Nat.le_trans ordered (later.inside other member).start,
      (later.inside other member).stop⟩⟩
  ordered := .cons (fun other member =>
    Nat.le_trans first.stop (later.inside other member).start) later.ordered

theorem widen {wide : Span} {nodes : List Node} (placed : ArePlaced source outer nodes)
    (inside : wide.Within outer) : ArePlaced source wide nodes :=
  { placed with inside := fun node member => inside.trans (placed.inside node member) }

end ArePlaced

theorem Node.IsPlaced.of_child {node child : Node} (liesIn : node.span.LiesIn source)
    (parts : node.PartsPlaced source) (inside : node.inside = [child])
    (same : child.span = node.span) : node.IsPlaced source where
  liesIn
  parts
  inside := by
    rw [inside, List.forall_mem_singleton, same]
    exact .refl _
  ordered := by
    rw [inside]
    exact List.pairwise_singleton _ _

theorem StartTag.core_isPlaced {children : List Node} (whole : outer.LiesIn source)
    (placed : tag.IsPlaced source outer) (content : ArePlaced source outer children) :
    (tag.core children outer).IsPlaced source where
  liesIn := StartTag.span_core ▸ whole
  parts :=
    tag.core_cases children outer ⟨placed.stripped, rfl⟩
      (Outlet.ofTag_isPlaced whole placed) fun _ => placed.directives
  inside := by
    rw [StartTag.inside_core, StartTag.span_core]
    exact content.inside
  ordered := by
    rw [StartTag.inside_core]
    exact content.ordered

theorem StartTag.IsPlaced.branch? (placed : tag.IsPlaced source outer)
    {kind : BranchKind} {condition : Option Code}
    (asked : tag.branch? = some (kind, condition)) :
    ∀ code ∈ condition, outer.Quotes source code.content code.span := by
  have value {name : String} {directive : Directive}
      (given : tag.directive? name = some directive) :
      ∀ code ∈ directive.value, outer.Quotes source code.content code.span := by
    intro code isValue
    have inTag := placed.directive? given
    exact (inTag.value (code.content, code.span)
      (Option.mem_map_of_mem _ isValue)).widen inTag.inside
  unfold StartTag.branch? at asked
  split at asked
  · next given =>
    cases asked
    exact value given
  · split at asked
    · contradiction
    · split at asked
      · next given =>
        cases asked
        exact value given
      · obtain ⟨_, _, same⟩ := Option.map_eq_some_iff.mp asked
        cases same
        simp

theorem StartTag.IsPlaced.loop? (placed : tag.IsPlaced source outer) {head : LoopHead}
    (asked : tag.loop? = .ok (some head)) :
    ∀ part ∈ head.spans, part.LiesIn source ∧ outer.Within part := by
  unfold StartTag.loop? at asked
  split at asked
  · next directive given =>
    obtain ⟨found, read, same⟩ := of_map_eq_ok asked
    cases same
    obtain ⟨code, isValue, spans⟩ := LoopHead.spans_ofDirective read
    have inTag := placed.directive? given
    have quotes :=
      inTag.value (code.content, code.span) (Option.mem_map_of_mem _ isValue)
    intro part member
    rw [spans part member]
    exact ⟨Span.liesIn_of_slice? quotes.slice, inTag.inside.trans quotes.inside⟩
  · cases asked

/-- The node of a start tag stands where the tag and its content do. -/
theorem ofTag_isPlaced {children : List Node} {node : Node}
    (made : Node.ofTag tag children outer = .ok node) (whole : outer.LiesIn source)
    (placed : tag.IsPlaced source outer) (content : ArePlaced source outer children) :
    node.Throughout (Node.IsPlaced source) := by
  refine throughout_ofTag made (StartTag.core_isPlaced whole placed content) ?_
    ?_ content.each
  · intro kind condition asked
    refine .of_child whole ?_ rfl StartTag.span_core
    intro branch member
    obtain rfl := List.mem_singleton.mp member
    exact ⟨whole, .refl outer, placed.branch? asked⟩
  · intro head body asked same
    exact .of_child whole (placed.loop? asked) rfl same

theorem span_ofTag {children : List Node} {node : Node}
    (made : Node.ofTag tag children outer = .ok node) : node.span = outer := by
  obtain ⟨head, asked, rfl⟩ := of_ofTag_eq_ok made
  cases head with
  | some head => rfl
  | none =>
      cases tag.branch? with
      | some branch => rfl
      | none => exact StartTag.span_core

/-- A node that is a lexeme by itself stands where the lexeme does. -/
theorem Lexeme.leaf_isPlaced {lexeme : Lexeme} (whole : lexeme.span.LiesIn source)
    (taken : lexeme.token.IsTaken source lexeme.span) {node : Node}
    (isLeaf : lexeme.leaf? = some node) : node.Throughout (Node.IsPlaced source) := by
  have nothing : node.inside = [] := (Lexeme.isLeaf_of_leaf? isLeaf).inside
  have same := Lexeme.span_of_leaf? isLeaf
  have parts : node.PartsPlaced source := by
    rcases lexeme with ⟨token, span⟩
    cases token with
    | comment content =>
        cases isLeaf
        exact ⟨_, taken⟩
    | text content =>
        cases isLeaf
        exact taken.slice
    | interpolation content inner =>
        cases isLeaf
        exact ⟨content, taken, rfl⟩
    | _ => contradiction
  have alone : node.IsPlaced source := by
    refine ⟨same ▸ whole, parts, ?_, ?_⟩
    all_goals rw [nothing]
    · simp
    · exact .nil
  apply Node.Throughout.intro alone
  simp [nothing]

/-- What is read between two cursors stands between them. -/
theorem Reads.arePlaced {cursor after : Cursor} {nodes : List Node}
    (reads : Reads cursor nodes after) (stands : cursor.StandsIn source) :
    ArePlaced source ⟨cursor.offset, after.offset⟩ nodes := by
  induction reads with
  | stop => exact .nil
  | @single cursor after nodes _ _ later induction =>
      have step := Token.reaches_next cursor
      have placed := induction (stands.next step)
      cases isLeaf : (Lexeme.at cursor).leaf? with
      | none => exact placed.widen ⟨step.le, Nat.le_refl _⟩
      | some node =>
          have leaf :=
            Lexeme.leaf_isPlaced (stands.liesIn step) (Token.next_taken stands) isLeaf
          exact .cons leaf (Lexeme.span_of_leaf? isLeaf ▸ .refl _) step.le
            later.reaches.le placed
  | @element cursor closing behind after name attributes selfClosing children node
      nodes _ isTag _ inner ends made outer content later =>
      have step := Token.reaches_next cursor
      have inside := inner.reaches.trans ends.reaches
      have front := step.trans inside
      have taken := Token.next_taken stands
      rw [isTag] at taken
      have placed : (StartTag.ofSource name attributes).IsPlaced source
          ⟨cursor.offset, behind.offset⟩ := by
        refine StartTag.ofSource_isPlaced fun item member => ?_
        exact (taken.2 item member).widen ⟨Nat.le_refl _, inside.le⟩
      have held := (content (stands.next step)).widen
        (Cursor.Reaches.within step ends.reaches)
      have element := ofTag_isPlaced made (stands.liesIn front) placed held
      exact .cons element (span_ofTag made ▸ .refl _) front.le outer.reaches.le
        (later (stands.next front))

end

end VuePrecompiler.Template
