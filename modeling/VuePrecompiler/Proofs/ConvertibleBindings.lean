import VuePrecompiler.Binding.Found
import VuePrecompiler.Proofs.SpannedTrees

/-!
# Convertible bindings lie apart

A marked binding can stand inside of another one, but not everywhere in it:
a convertible value is a call of `require` with literals, which has no binding
in it, and a binding in the object of an assigned property ends before the
name of the property, where the outer replacement begins.  So the replaced
spans of convertible bindings lie in the text and never overlap, however the
bindings are nested.
-/

namespace VuePrecompiler.Binding

open Text Source Javascript

namespace Found

/-- Whether the value of a binding is a call of `require` that can be converted. -/
def isConvertible (found : Found) : Bool :=
  found.require.isSome

/-- Two replaced spans have no byte in common. -/
def Apart (left right : Found) : Prop :=
  left.replaced.overlaps right.replaced = false

theorem apart_of_stop_le {left right : Found}
    (ordered : left.replaced.stop ≤ right.replaced.start ∨
      right.replaced.stop ≤ left.replaced.start) : left.Apart right := by
  rcases ordered with inFront | behind
  · exact Span.overlaps_eq_false_of_le inFront
  · rw [Apart, Span.overlaps_comm]
    exact Span.overlaps_eq_false_of_le behind

/-- The replaced span of a binding covers characters of a text, and lies
in an outer span. -/
structure Within (text : List Char) (outer : Span) (found : Found) : Prop where
  covers : coversIn text found.replaced = true
  start : outer.start ≤ found.replaced.start
  stop : found.replaced.stop ≤ outer.stop

theorem Within.mono {text : List Char} {inner outer : Span} {found : Found}
    (within : found.Within text inner) (start : outer.start ≤ inner.start)
    (stop : inner.stop ≤ outer.stop) : found.Within text outer :=
  ⟨within.covers, Nat.le_trans start within.start, Nat.le_trans within.stop stop⟩

end Found

/-! ## Where the name of a binding stands -/

theorem targetStart?_eq_some {target : Tree} {start : Nat}
    (named : targetStart? target = some start) :
    (∃ binding span children,
      target = .node (.identifier "template" binding) span children ∧
      start = span.start) ∨
    (∃ isOptional span object nameSpan children,
      target = .node (.member isOptional) span
        [object, .node (.propertyName "template") nameSpan children] ∧
      start = nameSpan.start) := by
  unfold targetStart? at named
  split at named
  · next binding span children =>
    exact Or.inl ⟨binding, span, children, rfl, (Option.some.inj named).symm⟩
  · next isOptional span object nameSpan children =>
    split at named
    · contradiction
    · exact Or.inr ⟨isOptional, span, object, nameSpan, children, rfl,
        (Option.some.inj named).symm⟩
  · contradiction

theorem keyStart?_eq_some {key : Tree} {start : Nat}
    (named : keyStart? key = some start) :
    key.kind.isLeaf = true ∧ key.kind ≠ .absent ∧ start = key.span.start := by
  unfold keyStart? at named
  split at named
  · next name kindEq =>
    split at named
    · exact ⟨by rw [kindEq]; rfl, by simp [kindEq], (Option.some.inj named).symm⟩
    · contradiction
  · next raw kindEq =>
    split at named
    · exact ⟨by rw [kindEq]; rfl, by simp [kindEq], (Option.some.inj named).symm⟩
    · contradiction
  · contradiction

theorem literal?_isLeaf {tree : Tree} {literal : StringLiteral}
    (read : literal? tree = some literal) : tree.kind.isLeaf = true := by
  unfold literal? at read
  split at read
  · next raw kindEq => rw [kindEq]; rfl
  · contradiction

/-- A convertible value is a call, the parts of which are all leaves. -/
theorem RequireCall.ofTree?_eq_some {value : Tree} {call : RequireCall}
    (read : RequireCall.ofTree? value = some call) :
    ∃ span children, value = .node (.call false) span children ∧
      ∀ child ∈ children, child.kind.isLeaf = true := by
  unfold RequireCall.ofTree? at read
  split at read
  · next span binding calleeSpan calleeChildren items =>
    refine ⟨span, _, rfl, ?_⟩
    intro child member
    rcases List.mem_cons.mp member with rfl | inItems
    · rfl
    · split at read
      · next specifier =>
        obtain ⟨literal, literalRead, _⟩ := Option.map_eq_some_iff.mp read
        rw [List.mem_singleton.mp inItems]
        exact literal?_isLeaf literalRead
      · next specifier qualifier =>
        simp only [Option.bind_eq_bind, Option.bind_eq_some_iff] at read
        obtain ⟨first, firstRead, second, secondRead, _⟩ := read
        rcases List.mem_cons.mp inItems with rfl | last
        · exact literal?_isLeaf firstRead
        · rw [List.mem_singleton.mp last]
          exact literal?_isLeaf secondRead
      · contradiction
  · contradiction

/-- The name of a binding starts at a cut inside of the tree that names it. -/
structure StartsIn (text : List Char) (tree : Tree) (start : Nat) : Prop where
  present : tree.isAbsent = false
  cut : IsCut text start
  after : tree.span.start ≤ start
  upTo : start ≤ tree.span.stop

theorem startsIn_self {text : List Char} {kind : Kind} {span : Span}
    {children : List Tree} (spanned : Tree.SpannedNode text kind span children)
    (present : kind ≠ .absent) :
    StartsIn text (.node kind span children) span.start := by
  obtain ⟨whole, startCut, _⟩ := coversIn_iff.mp (spanned.covers present)
  exact ⟨Tree.isAbsent_eq_false present, startCut, Nat.le_refl _, whole⟩

theorem startsIn_target {text : List Char} {target : Tree} {start : Nat}
    (spanned : target.isSpannedIn text = true)
    (named : targetStart? target = some start) : StartsIn text target start := by
  rcases targetStart?_eq_some named with ⟨binding, span, children, rfl, rfl⟩ |
    ⟨isOptional, span, object, nameSpan, children, rfl, rfl⟩
  · exact startsIn_self (Tree.isSpannedIn_node_iff.mp spanned) (by simp)
  · have member := Tree.isSpannedIn_node_iff.mp spanned
    have name := startsIn_self (Tree.isSpannedIn_node_iff.mp (member.spanned
      (.node (.propertyName "template") nameSpan children) (by simp))) (by simp)
    obtain ⟨startInside, stopInside⟩ := (Tree.liesIn_iff name.present).mp
      (member.within (.node (.propertyName "template") nameSpan children) (by simp))
    exact ⟨rfl, name.cut, startInside, Nat.le_trans name.upTo stopInside⟩

theorem startsIn_key {text : List Char} {key : Tree} {start : Nat}
    (spanned : key.isSpannedIn text = true) (named : keyStart? key = some start) :
    StartsIn text key start := by
  obtain ⟨_, present, rfl⟩ := keyStart?_eq_some named
  cases key with
  | node kind span children =>
      exact startsIn_self (Tree.isSpannedIn_node_iff.mp spanned) present

/-! ## The bindings in a tree -/

namespace Found

variable {marked : Nat → Bool} {text : List Char}

/-- A binding consists of a name and a value; the node is an
assignment or a property. -/
theorem ofNode?_eq_some {kind : Kind} {span : Span} {children : List Tree}
    {found : Found} (own : ofNode? marked kind span children = some found) :
    ∃ form name value start, children = [name, value] ∧
      found = binding form start value ∧
      (kind = .assign "=" ∧ targetStart? name = some start ∨
        kind = .property ∧ keyStart? name = some start) := by
  unfold ofNode? at own
  split at own
  · next target value =>
    obtain ⟨start, named, isMarked⟩ := Option.bind_eq_some_iff.mp own
    split at isMarked
    · exact ⟨.assignment, target, value, start, rfl, (Option.some.inj isMarked).symm,
        Or.inl ⟨rfl, named⟩⟩
    · contradiction
  · next key value =>
    obtain ⟨start, named, isMarked⟩ := Option.bind_eq_some_iff.mp own
    split at isMarked
    · exact ⟨.property, key, value, start, rfl, (Option.some.inj isMarked).symm,
        Or.inr ⟨rfl, named⟩⟩
    · contradiction
  · contradiction

theorem inTree_leaf {tree : Tree} (spanned : tree.isSpannedIn text = true)
    (leaf : tree.kind.isLeaf = true) : inTree marked tree = [] := by
  cases tree with
  | node kind span children =>
      have none_below : children = [] :=
        (Tree.isSpannedIn_node_iff.mp spanned).leaf leaf
      subst none_below
      have notOwn : ofNode? marked kind span [] = none := by
        cases own : ofNode? marked kind span [] with
        | none => rfl
        | some found =>
            obtain ⟨_, _, _, _, parts, _⟩ := ofNode?_eq_some own
            contradiction
      simp [inTree, inEach, notOwn]

theorem inEach_leaves {trees : List Tree}
    (spanned : ∀ tree ∈ trees, tree.isSpannedIn text = true)
    (leaves : ∀ tree ∈ trees, tree.kind.isLeaf = true) : inEach marked trees = [] := by
  induction trees with
  | nil => rfl
  | cons first rest induction =>
      rw [inEach, inTree_leaf (spanned first (by simp)) (leaves first (by simp)),
        induction (fun tree member => spanned tree (by simp [member]))
          (fun tree member => leaves tree (by simp [member])), List.append_nil]

/-- There are no bindings in a value that can be converted. -/
theorem inTree_value {value : Tree} {call : RequireCall}
    (spanned : value.isSpannedIn text = true)
    (read : RequireCall.ofTree? value = some call) : inTree marked value = [] := by
  obtain ⟨span, children, rfl, leaves⟩ := RequireCall.ofTree?_eq_some read
  have node := Tree.isSpannedIn_node_iff.mp spanned
  rw [inTree, inEach_leaves node.spanned leaves]
  rfl

/-- The parts of a convertible binding follow one another. -/
theorem binding_placed {kind : Kind} {span : Span} {name value : Tree} {start : Nat}
    {call : RequireCall} (node : Tree.SpannedNode text kind span [name, value])
    (inOrder : kind.isOrdered = true) (starts : StartsIn text name start)
    (read : RequireCall.ofTree? value = some call) :
    coversIn text ⟨start, value.span.stop⟩ = true ∧ span.start ≤ start ∧
      value.span.stop ≤ span.stop ∧ name.span.stop ≤ value.span.start := by
  obtain ⟨valueSpan, children, rfl, _⟩ := RequireCall.ofTree?_eq_some read
  have valuePresent :
      (Javascript.Tree.node (.call false) valueSpan children).isAbsent = false := rfl
  have valueNode := Tree.isSpannedIn_node_iff.mp
    (node.spanned (.node (.call false) valueSpan children) (by simp))
  obtain ⟨valueWhole, _, valueStop⟩ := coversIn_iff.mp (valueNode.covers (by simp))
  obtain ⟨nameInside, _⟩ :=
    (Tree.liesIn_iff starts.present).mp (node.within name (by simp))
  obtain ⟨_, valueInside⟩ := (Tree.liesIn_iff valuePresent).mp
    (node.within (.node (.call false) valueSpan children) (by simp))
  have ordered : name.span.stop ≤ valueSpan.start := by
    have apart :=
      (List.pairwise_cons.mp node.apart).1 (.node (.call false) valueSpan children)
        (by simp)
    rw [inOrder, Tree.endsBefore_iff starts.present valuePresent] at apart
    exact apart.resolve_right (by simp)
  have upToName := starts.upTo
  refine ⟨coversIn_iff.mpr ⟨?_, starts.cut, valueStop⟩, ?_, valueInside, ordered⟩
  · exact Nat.le_trans upToName (Nat.le_trans ordered valueWhole)
  · exact Nat.le_trans nameInside starts.after

theorem isAbsent_of_mem_inTree {tree : Tree} {found : Found}
    (spanned : tree.isSpannedIn text = true) (member : found ∈ inTree marked tree) :
    tree.isAbsent = false := by
  refine Tree.isAbsent_eq_false ?_
  intro absent
  rw [inTree_leaf spanned (by rw [absent]; rfl)] at member
  contradiction

/-- What a convertible binding of a node consists of. -/
theorem own_convertible {kind : Kind} {span : Span} {children : List Tree}
    {found : Found} (own : ofNode? marked kind span children = some found)
    (convertible : found.isConvertible = true) :
    ∃ name value start call, children = [name, value] ∧
      found.replaced = ⟨start, value.span.stop⟩ ∧
      RequireCall.ofTree? value = some call ∧
      kind.isOrdered = true ∧
      (targetStart? name = some start ∨ keyStart? name = some start) := by
  obtain ⟨form, name, value, start, rfl, rfl, named⟩ := ofNode?_eq_some own
  obtain ⟨call, read⟩ := Option.isSome_iff_exists.mp convertible
  refine ⟨name, value, start, call, rfl, rfl, read, ?_, ?_⟩
  · rcases named with ⟨rfl, _⟩ | ⟨rfl, _⟩ <;> rfl
  · exact named.imp And.right And.right

theorem startsIn_name {name : Tree} {start : Nat}
    (spanned : name.isSpannedIn text = true)
    (named : targetStart? name = some start ∨ keyStart? name = some start) :
    StartsIn text name start := by
  rcases named with target | key
  · exact startsIn_target spanned target
  · exact startsIn_key spanned key

theorem own_within {kind : Kind} {span : Span} {children : List Tree} {found : Found}
    (node : Tree.SpannedNode text kind span children)
    (own : ofNode? marked kind span children = some found)
    (convertible : found.isConvertible = true) : found.Within text span := by
  obtain ⟨name, value, start, call, rfl, replaced, read, inOrder, named⟩ :=
    own_convertible own convertible
  obtain ⟨covers, startInside, stopInside, _⟩ := binding_placed node inOrder
    (startsIn_name (node.spanned name (by simp)) named) read
  constructor
  · rw [replaced]
    exact covers
  · rw [replaced]
    exact startInside
  · rw [replaced]
    exact stopInside

mutual

/-- Convertible bindings replace stretches of the tree that they are found in. -/
theorem inTree_within (tree : Tree) (spanned : tree.isSpannedIn text = true)
    {found : Found} (member : found ∈ inTree marked tree)
    (convertible : found.isConvertible = true) : found.Within text tree.span := by
  cases tree with
  | node kind span children =>
      have node := Tree.isSpannedIn_node_iff.mp spanned
      rw [inTree, List.mem_append, Option.mem_toList] at member
      rcases member with own | below
      · exact own_within node own convertible
      · obtain ⟨child, childMember, present, within⟩ :=
          inEach_within children node.spanned below convertible
        obtain ⟨startInside, stopInside⟩ :=
          (Tree.liesIn_iff present).mp (node.within child childMember)
        exact within.mono startInside stopInside

/-- List counterpart of `inTree_within`. -/
theorem inEach_within (trees : List Tree)
    (spanned : ∀ tree ∈ trees, tree.isSpannedIn text = true) {found : Found}
    (member : found ∈ inEach marked trees) (convertible : found.isConvertible = true) :
    ∃ tree ∈ trees, tree.isAbsent = false ∧ found.Within text tree.span := by
  cases trees with
  | nil => simp [inEach] at member
  | cons first rest =>
      rw [inEach, List.mem_append] at member
      have firstSpanned := spanned first List.mem_cons_self
      rcases member with inFirst | inRest
      · exact ⟨first, List.mem_cons_self, isAbsent_of_mem_inTree firstSpanned inFirst,
          inTree_within first firstSpanned inFirst convertible⟩
      · obtain ⟨tree, treeMember, present, within⟩ := inEach_within rest
          (fun tree member => spanned tree (List.mem_cons_of_mem _ member))
          inRest convertible
        exact ⟨tree, List.mem_cons_of_mem _ treeMember, present, within⟩

end

/-- A convertible binding in the target of another one stands before its name. -/
theorem stop_le_targetStart {target : Tree} {start : Nat} {found : Found}
    (spanned : target.isSpannedIn text = true)
    (named : targetStart? target = some start)
    (member : found ∈ inTree marked target)
    (convertible : found.isConvertible = true) : found.replaced.stop ≤ start := by
  rcases targetStart?_eq_some named with ⟨binding, span, children, rfl, rfl⟩ |
    ⟨isOptional, span, object, nameSpan, children, rfl, rfl⟩
  · rw [inTree_leaf spanned rfl] at member
    contradiction
  · have node := Tree.isSpannedIn_node_iff.mp spanned
    have nameSpanned :=
      node.spanned (.node (.propertyName "template") nameSpan children) (by simp)
    have objectSpanned := node.spanned object (by simp)
    have inObject : found ∈ inTree marked object := by
      rw [inTree, inEach, inEach, inTree_leaf nameSpanned rfl] at member
      simpa [ofNode?, inEach] using member
    have within := inTree_within object objectSpanned inObject convertible
    have apart := (List.pairwise_cons.mp node.apart).1
      (.node (.propertyName "template") nameSpan children) (by simp)
    rw [Tree.endsBefore_iff (isAbsent_of_mem_inTree
      objectSpanned inObject) rfl] at apart
    exact Nat.le_trans within.stop (apart.resolve_right (by simp [Kind.isOrdered]))

/-- The convertible bindings below a binding stand before its name. -/
theorem stop_le_own_start {kind : Kind} {span : Span} {children : List Tree}
    {own below : Found} (node : Tree.SpannedNode text kind span children)
    (isOwn : ofNode? marked kind span children = some own)
    (ownConvertible : own.isConvertible = true)
    (isBelow : below ∈ inEach marked children)
    (belowConvertible : below.isConvertible = true) :
    below.replaced.stop ≤ own.replaced.start := by
  obtain ⟨name, value, start, call, rfl, replaced, read, _, named⟩ :=
    own_convertible isOwn ownConvertible
  have nameSpanned := node.spanned name (by simp)
  have inName : below ∈ inTree marked name := by
    rw [inEach, inEach, inTree_value (node.spanned value (by simp)) read] at isBelow
    simpa [inEach] using isBelow
  rw [replaced]
  rcases named with target | key
  · exact stop_le_targetStart nameSpanned target inName belowConvertible
  · rw [inTree_leaf nameSpanned (keyStart?_eq_some key).1] at inName
    contradiction

mutual

/-- No two convertible bindings in a tree replace a common byte. -/
theorem inTree_apart (tree : Tree) (spanned : tree.isSpannedIn text = true) :
    ((inTree marked tree).filter isConvertible).Pairwise Apart := by
  cases tree with
  | node kind span children =>
      have node := Tree.isSpannedIn_node_iff.mp spanned
      rw [inTree, List.filter_append, List.pairwise_append]
      refine ⟨?_, inEach_apart children node.spanned node.apart, ?_⟩
      · refine List.Pairwise.filter _ ?_
        cases ofNode? marked kind span children <;> simp
      · intro own isOwn below isBelow
        obtain ⟨isOwn, ownConvertible⟩ := List.mem_filter.mp isOwn
        obtain ⟨isBelow, belowConvertible⟩ := List.mem_filter.mp isBelow
        exact apart_of_stop_le (Or.inr (stop_le_own_start node
          (Option.mem_toList.mp isOwn) ownConvertible isBelow belowConvertible))

/-- List counterpart of `inTree_apart`. -/
theorem inEach_apart (trees : List Tree) {inOrder : Bool}
    (spanned : ∀ tree ∈ trees, tree.isSpannedIn text = true)
    (apart : trees.Pairwise fun left right =>
      left.endsBefore right = true ∨ inOrder = false ∧ right.endsBefore left = true) :
    ((inEach marked trees).filter isConvertible).Pairwise Apart := by
  cases trees with
  | nil => simp [inEach]
  | cons first rest =>
      obtain ⟨fromFirst, fromRest⟩ := List.pairwise_cons.mp apart
      have firstSpanned := spanned first List.mem_cons_self
      have restSpanned : ∀ tree ∈ rest, tree.isSpannedIn text = true :=
        fun tree member =>
          spanned tree (List.mem_cons_of_mem _ member)
      rw [inEach, List.filter_append, List.pairwise_append]
      refine ⟨inTree_apart first firstSpanned,
        inEach_apart rest restSpanned fromRest, ?_⟩
      intro left inFirst right inRest
      obtain ⟨inFirst, leftConvertible⟩ := List.mem_filter.mp inFirst
      obtain ⟨inRest, rightConvertible⟩ := List.mem_filter.mp inRest
      have leftWithin := inTree_within first firstSpanned inFirst leftConvertible
      have leftPresent := isAbsent_of_mem_inTree firstSpanned inFirst
      obtain ⟨tree, treeMember, rightPresent, rightWithin⟩ :=
        inEach_within rest restSpanned inRest rightConvertible
      have ordered := fromFirst tree treeMember
      rw [Tree.endsBefore_iff leftPresent rightPresent,
        Tree.endsBefore_iff rightPresent leftPresent] at ordered
      refine apart_of_stop_le (ordered.imp ?_ ?_)
      · intro inFront
        exact Nat.le_trans leftWithin.stop (Nat.le_trans inFront rightWithin.start)
      · rintro ⟨_, behind⟩
        exact Nat.le_trans rightWithin.stop (Nat.le_trans behind leftWithin.start)

end

end Found

/-! ## The quotes of a binding -/

theorem quote_of_literal? {tree : Tree} {literal : StringLiteral}
    (read : literal? tree = some literal) :
    literal.quote = '\'' ∨ literal.quote = '"' := by
  unfold literal? StringLiteral.ofSource? at read
  split at read
  · split at read
    · contradiction
    · split at read
      · next quotes =>
        obtain rfl := Option.some.inj read
        rw [Bool.and_eq_true, Bool.or_eq_true, decide_eq_true_eq,
          decide_eq_true_eq] at quotes
        exact quotes.1
      · contradiction
  · contradiction

/-- The specifier of a convertible value is a literal. -/
theorem RequireCall.quote_of_ofTree? {value : Tree} {call : RequireCall}
    (read : RequireCall.ofTree? value = some call) :
    call.specifier.quote = '\'' ∨ call.specifier.quote = '"' := by
  unfold RequireCall.ofTree? at read
  split at read
  · split at read
    · obtain ⟨literal, literalRead, rfl⟩ := Option.map_eq_some_iff.mp read
      exact quote_of_literal? literalRead
    · simp only [Option.bind_eq_bind, Option.bind_eq_some_iff] at read
      obtain ⟨first, firstRead, second, _, same⟩ := read
      obtain rfl := Option.some.inj same
      exact quote_of_literal? firstRead
    · contradiction
  · contradiction

namespace Found

variable {marked : Nat → Bool}

mutual

/-- What a binding requires is read off its value. -/
theorem require_of_mem_inTree (tree : Tree) {found : Found}
    (member : found ∈ inTree marked tree) :
    ∃ value, found.require = RequireCall.ofTree? value := by
  cases tree with
  | node kind span children =>
      rw [inTree, List.mem_append, Option.mem_toList] at member
      rcases member with own | below
      · obtain ⟨_, _, value, _, _, rfl, _⟩ := ofNode?_eq_some own
        exact ⟨value, rfl⟩
      · exact require_of_mem_inEach children below

/-- List counterpart of `require_of_mem_inTree`. -/
theorem require_of_mem_inEach (trees : List Tree) {found : Found}
    (member : found ∈ inEach marked trees) :
    ∃ value, found.require = RequireCall.ofTree? value := by
  cases trees with
  | nil => simp [inEach] at member
  | cons first rest =>
      rw [inEach, List.mem_append] at member
      rcases member with inFirst | inRest
      · exact require_of_mem_inTree first inFirst
      · exact require_of_mem_inEach rest inRest

end

end Found

end VuePrecompiler.Binding
