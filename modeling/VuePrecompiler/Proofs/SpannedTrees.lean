import VuePrecompiler.Javascript.Tree
import VuePrecompiler.Proofs.Splicing

/-!
# Spans in syntax trees

A parser gives every node the bytes of the text that it was read from.  Hence
the parts of a node lie in it and apart from each other, and names and literals
have no parts.  `Tree.isSpannedIn` checks this of a tree and a text.  Only where
something is named, the name has to come in front of what it is given.
-/

namespace VuePrecompiler.Javascript

open Text Source

/-- Whether a span covers whole characters of a text. -/
def coversIn (text : List Char) (span : Span) : Bool :=
  span.start ≤ span.stop && (splitAtByte? span.start text).isSome
    && (splitAtByte? span.stop text).isSome

namespace Kind

/-- Whether the nodes of a kind have no parts: names, literals, and
what is left out. -/
def isLeaf : Kind → Bool
  | .absent => true
  | .identifier _ _ => true
  | .propertyName _ => true
  | .privateName _ => true
  | .string _ => true
  | .number _ => true
  | .bigint _ => true
  | .regexp _ _ => true
  | .boolean _ => true
  | .null => true
  | .this => true
  | .super => true
  | .importMeta => true
  | .newTarget => true
  | _ => false

/-- Whether the nodes of a kind have two parts that follow one another: a target
or a key and its value, or an object and the name of a property of it. -/
def isOrdered : Kind → Bool
  | .assign _ => true
  | .property => true
  | .member _ => true
  | _ => false

end Kind

namespace Tree

/-- Whether a tree lies in a span; what is left out lies anywhere. -/
def liesIn (outer : Span) (tree : Tree) : Bool :=
  tree.isAbsent || outer.start ≤ tree.span.start && tree.span.stop ≤ outer.stop

/-- Whether one tree ends before another begins, if neither is left out. -/
def endsBefore (left right : Tree) : Bool :=
  left.isAbsent || right.isAbsent || left.span.stop ≤ right.span.start

/-- Whether some trees lie apart from each other, and in this order if `inOrder`. -/
def areApart (inOrder : Bool) : List Tree → Bool
  | [] => true
  | first :: rest =>
    rest.all (fun later => first.endsBefore later || !inOrder &&
      later.endsBefore first) && areApart inOrder rest

mutual

/-- Whether the spans of a tree are such as a parser gives to the nodes of a text. -/
def isSpannedIn (text : List Char) : Tree → Bool
  | .node kind span children =>
    (kind == .absent || coversIn text span)
      && (!kind.isLeaf || children.isEmpty)
      && children.all (liesIn span)
      && areApart kind.isOrdered children
      && areSpannedIn text children

/-- Whether all of some trees are spanned in a text. -/
def areSpannedIn (text : List Char) : List Tree → Bool
  | [] => true
  | first :: rest => first.isSpannedIn text && areSpannedIn text rest

end

theorem liesIn_iff {outer : Span} {tree : Tree} (present : tree.isAbsent = false) :
    tree.liesIn outer = true ↔
      outer.start ≤ tree.span.start ∧ tree.span.stop ≤ outer.stop := by
  simp [liesIn, present]

theorem endsBefore_iff {left right : Tree} (leftPresent : left.isAbsent = false)
    (rightPresent : right.isAbsent = false) :
    left.endsBefore right = true ↔ left.span.stop ≤ right.span.start := by
  simp [endsBefore, leftPresent, rightPresent]

theorem isAbsent_eq_false {tree : Tree} (present : tree.kind ≠ .absent) :
    tree.isAbsent = false := by
  simpa [isAbsent] using present

theorem areSpannedIn_iff {text : List Char} {trees : List Tree} :
    areSpannedIn text trees = true ↔ ∀ tree ∈ trees, tree.isSpannedIn text = true := by
  induction trees with
  | nil => simp [areSpannedIn]
  | cons first rest induction => simp [areSpannedIn, induction]

theorem areApart_iff {inOrder : Bool} {trees : List Tree} :
    areApart inOrder trees = true ↔
      trees.Pairwise fun left right =>
        left.endsBefore right = true ∨ inOrder = false ∧
          right.endsBefore left = true := by
  induction trees with
  | nil => simp [areApart]
  | cons first rest induction => simp [areApart, induction]

/-- What the spans of a node promise. -/
structure SpannedNode (text : List Char) (kind : Kind) (span : Span)
    (children : List Tree) : Prop where
  covers : kind ≠ .absent → coversIn text span = true
  leaf : kind.isLeaf = true → children = []
  within : ∀ child ∈ children, child.liesIn span = true
  apart : children.Pairwise fun left right =>
    left.endsBefore right = true ∨ kind.isOrdered = false ∧
      right.endsBefore left = true
  spanned : ∀ child ∈ children, child.isSpannedIn text = true

theorem isSpannedIn_node_iff {text : List Char} {kind : Kind} {span : Span}
    {children : List Tree} :
    (node kind span children).isSpannedIn text = true ↔
      SpannedNode text kind span children := by
  have whole : (node kind span children).isSpannedIn text = true ↔
      ((((kind = .absent ∨ coversIn text span = true) ∧
        (kind.isLeaf = false ∨ children = [])) ∧
        ∀ child ∈ children, child.liesIn span = true) ∧
        areApart kind.isOrdered children = true) ∧
        areSpannedIn text children = true := by
    simp [isSpannedIn]
  rw [whole, areApart_iff, areSpannedIn_iff]
  constructor
  · rintro ⟨⟨⟨⟨covers, leaf⟩, within⟩, apart⟩, spanned⟩
    refine ⟨fun present => covers.resolve_left present, ?_, within, apart, spanned⟩
    intro isLeaf
    exact leaf.resolve_left (by simp [isLeaf])
  · rintro ⟨covers, leaf, within, apart, spanned⟩
    refine ⟨⟨⟨⟨?_, ?_⟩, within⟩, apart⟩, spanned⟩
    · by_cases absent : kind = .absent
      · exact Or.inl absent
      · exact Or.inr (covers absent)
    · cases isLeaf : kind.isLeaf with
      | false => exact Or.inl rfl
      | true => exact Or.inr (leaf isLeaf)

end Tree

theorem coversIn_iff {text : List Char} {span : Span} :
    coversIn text span = true ↔
      span.start ≤ span.stop ∧ IsCut text span.start ∧ IsCut text span.stop := by
  simp only [coversIn, Bool.and_eq_true, decide_eq_true_eq, isSome_splitAtByte?_iff,
    and_assoc]

end VuePrecompiler.Javascript
