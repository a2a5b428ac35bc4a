import Mathlib.Data.List.Nodup
import VuePrecompiler.Proofs.Listings

/-!
# The pieces of a template

A template is made of pieces, and each piece is held by the nearest piece
around it.  Conditionals are no pieces, but their branches are, so joining a
chain moves no piece; and slot content is held by its slot, whether that is
still a `<template v-slot>` or has become a slot of its component.

No two pieces of a kind start at the same position, slots apart: a component
can name several.
-/

namespace VuePrecompiler.Template

open Source Text

/-- What a node, a branch or a slot says, apart from the nodes that it holds. -/
inductive Piece where
  | element (tag : StartTag) (span : Span)
  | text (content : String) (span : Span)
  | interpolation (expression : Code) (span : Span)
  | comment (content : String) (span : Span)
  | branch (kind : BranchKind) (condition : Option Code) (span : Span)
  | loop (head : LoopHead) (span : Span)
  | outlet (outlet : Outlet) (span : Span)
  | slot (head : SlotHead)
deriving DecidableEq, Repr

inductive PieceKind where
  | element
  | text
  | interpolation
  | comment
  | branch
  | loop
  | outlet
  | slot
deriving DecidableEq, Repr

namespace Piece

def kind : Piece → PieceKind
  | .element _ _ => .element
  | .text _ _ => .text
  | .interpolation _ _ => .interpolation
  | .comment _ _ => .comment
  | .branch _ _ _ => .branch
  | .loop _ _ => .loop
  | .outlet _ _ => .outlet
  | .slot _ => .slot

def span : Piece → Span
  | .element _ span => span
  | .text _ span => span
  | .interpolation _ span => span
  | .comment _ span => span
  | .branch _ _ span => span
  | .loop _ span => span
  | .outlet _ span => span
  | .slot head => head.span

/-- Whether a piece is a comment or blank text. -/
def isInsignificant : Piece → Bool
  | .comment _ _ => true
  | .text content _ => isBlankText content
  | _ => false

/-- The kind of a piece and where it stands. -/
def place (piece : Piece) : PieceKind × Span :=
  (piece.kind, piece.span)

end Piece

/-- A piece, and the nearest piece around it. -/
structure Held where
  holder : Option Piece
  piece : Piece
deriving DecidableEq, Repr

/-- The directives of a tag that name slots. -/
def StartTag.slotDirectives (tag : StartTag) : List Directive :=
  tag.directives.filter (·.name == "slot")

/-- The tag without the directives that name slots. -/
def StartTag.withoutSlots (tag : StartTag) : StartTag :=
  { tag with directives := tag.directives.filter (·.name != "slot") }

/-- An element without its content and its slots. -/
def StartTag.piece (tag : StartTag) (span : Span) : Piece :=
  .element tag.withoutSlots span

/-- The slot that `v-slot` on a component names holds what is in the component. -/
def StartTag.contentHolder (tag : StartTag) (span : Span) : Piece :=
  match tag.directive? "slot" with
  | some own =>
    if tag.takesSlots then .slot (.ofDirective own span) else tag.piece span
  | none => tag.piece span

/-- The slots that a tag names. -/
def StartTag.slotPieces (tag : StartTag) (span : Span) : List Held :=
  tag.slotDirectives.map fun directive =>
    ⟨tag.piece span, .slot (.ofDirective directive span)⟩

mutual

/-- The pieces of a node that is held by a piece, or by none. -/
def Node.pieces (holder : Option Piece) : Node → List Held
  | .element tag children slots span =>
    ⟨holder, tag.piece span⟩ :: (tag.slotPieces span ++
      (piecesEach (tag.contentHolder span) children ++
        slotsPieces (tag.piece span) slots))
  | .text content span => [⟨holder, .text content span⟩]
  | .interpolation expression span => [⟨holder, .interpolation expression span⟩]
  | .comment content span => [⟨holder, .comment content span⟩]
  | .conditional branches _ => branchesPieces holder branches
  | .loop head children span =>
    ⟨holder, .loop head span⟩ :: piecesEach (some (.loop head span)) children
  | .outlet outlet fallback span =>
    ⟨holder, .outlet outlet span⟩ :: piecesEach (some (.outlet outlet span)) fallback
  | .slotTemplate directives children span =>
    match directives.find? (·.name == "slot") with
    | some directive =>
      ⟨holder, .slot (.ofDirective directive span)⟩ ::
        piecesEach (some (.slot (.ofDirective directive span))) children
    | none => piecesEach holder children

def piecesEach (holder : Option Piece) : List Node → List Held
  | [] => []
  | node :: rest => node.pieces holder ++ piecesEach holder rest

def branchesPieces (holder : Option Piece) : List Branch → List Held
  | [] => []
  | .mk kind condition children span :: rest =>
    (⟨holder, .branch kind condition span⟩ ::
      piecesEach (some (.branch kind condition span)) children) ++
        branchesPieces holder rest

def slotsPieces (holder : Option Piece) : List Slot → List Held
  | [] => []
  | .mk head children :: rest =>
    (⟨holder, .slot head⟩ :: piecesEach (some (.slot head)) children) ++
      slotsPieces holder rest

end

/-- The pieces of a template. -/
def Tree.pieces (tree : Tree) : List Held :=
  tree.children.flatMap (Node.pieces none)

def Branch.piece (branch : Branch) : Piece :=
  .branch branch.kind branch.condition branch.span

def Branch.pieces (holder : Option Piece) (branch : Branch) : List Held :=
  ⟨holder, branch.piece⟩ :: branch.children.flatMap (Node.pieces branch.piece)

def Slot.pieces (holder : Option Piece) (slot : Slot) : List Held :=
  ⟨holder, .slot slot.head⟩ ::
    slot.children.flatMap (Node.pieces (some (.slot slot.head)))

theorem piecesEach_eq_flatMap (holder : Option Piece) (nodes : List Node) :
    piecesEach holder nodes = nodes.flatMap (Node.pieces holder) := by
  induction nodes with
  | nil => rfl
  | cons node rest induction => exact congrArg (node.pieces holder ++ ·) induction

theorem branchesPieces_eq_flatMap (holder : Option Piece) (branches : List Branch) :
    branchesPieces holder branches = branches.flatMap (Branch.pieces holder) := by
  induction branches with
  | nil => rfl
  | cons branch rest induction =>
      rcases branch with ⟨kind, condition, children, span⟩
      rw [List.flatMap_cons, ← induction, Branch.pieces, ← piecesEach_eq_flatMap]
      rfl

theorem slotsPieces_eq_flatMap (holder : Option Piece) (slots : List Slot) :
    slotsPieces holder slots = slots.flatMap (Slot.pieces holder) := by
  induction slots with
  | nil => rfl
  | cons slot rest induction =>
      rcases slot with ⟨head, children⟩
      rw [List.flatMap_cons, ← induction, Slot.pieces, ← piecesEach_eq_flatMap]
      rfl

/-! ## Pieces of the nodes -/

section

variable (holder : Option Piece)

theorem pieces_element (tag : StartTag) (children : List Node) (slots : List Slot)
    (span : Span) :
    (Node.element tag children slots span).pieces holder =
      ⟨holder, tag.piece span⟩ :: (tag.slotPieces span ++
        (children.flatMap (Node.pieces (tag.contentHolder span)) ++
          slots.flatMap (Slot.pieces (tag.piece span)))) := by
  rw [← piecesEach_eq_flatMap, ← slotsPieces_eq_flatMap]
  rfl

theorem pieces_conditional (branches : List Branch) (span : Span) :
    (Node.conditional branches span).pieces holder =
      branches.flatMap (Branch.pieces holder) :=
  branchesPieces_eq_flatMap holder branches

theorem pieces_loop (head : LoopHead) (children : List Node) (span : Span) :
    (Node.loop head children span).pieces holder =
      ⟨holder, .loop head span⟩ ::
        children.flatMap (Node.pieces (some (.loop head span))) := by
  rw [← piecesEach_eq_flatMap]
  rfl

theorem pieces_outlet (outlet : Outlet) (fallback : List Node) (span : Span) :
    (Node.outlet outlet fallback span).pieces holder =
      ⟨holder, .outlet outlet span⟩ ::
        fallback.flatMap (Node.pieces (some (.outlet outlet span))) := by
  rw [← piecesEach_eq_flatMap]
  rfl

/-- Slot content has the pieces of the slot that it becomes. -/
theorem pieces_of_slot? {node : Node} {slot : Slot} (gives : node.slot? = some slot) :
    node.pieces holder = slot.pieces holder := by
  cases node with
  | slotTemplate directives children span =>
      obtain ⟨directive, given, rfl⟩ := Option.map_eq_some_iff.mp gives
      rw [Node.pieces, given]
      exact congrArg (_ :: ·) (piecesEach_eq_flatMap _ children)
  | _ => contradiction

theorem pieces_insignificant {node : Node}
    (insignificant : node.isInsignificant = true) :
    ∃ piece : Piece, node.pieces holder = [⟨holder, piece⟩] ∧
      piece.isInsignificant = true ∧
      piece.span = node.span := by
  cases node with
  | text content span => exact ⟨.text content span, rfl, insignificant, rfl⟩
  | comment content span => exact ⟨.comment content span, rfl, rfl, rfl⟩
  | _ => contradiction

end

/-! ## Where pieces start -/

/-- The kind of a piece that is no slot, and the position where it starts. -/
def Piece.key? (piece : Piece) : Option (PieceKind × Nat) :=
  match piece with
  | .slot _ => none
  | _ => some (piece.kind, piece.span.start)

def keysOf (pieces : List Held) : List (PieceKind × Nat) :=
  pieces.filterMap fun held => held.piece.key?

theorem keysOf_cons (holder : Option Piece) (piece : Piece) (rest : List Held) :
    keysOf (⟨holder, piece⟩ :: rest) = piece.key?.toList ++ keysOf rest := by
  rw [keysOf, List.filterMap_cons]
  cases piece.key? <;> rfl

/-- The keys of a node do not depend on what holds it. -/
def Node.keys (node : Node) : List (PieceKind × Nat) :=
  keysOf (node.pieces none)

theorem keysOf_pieces (holder : Option Piece) (node : Node) :
    keysOf (node.pieces holder) = node.keys := by
  induction node using Node.inside_induct with
  | step node induction =>
      rw [Node.keys]
      cases node with
      | text => rfl
      | interpolation => rfl
      | comment => rfl
      | element tag children slots span =>
          rw [pieces_element, pieces_element, keysOf_cons, keysOf_cons]
      | loop head children span =>
          rw [pieces_loop, pieces_loop, keysOf_cons, keysOf_cons]
      | outlet outlet fallback span =>
          rw [pieces_outlet, pieces_outlet, keysOf_cons, keysOf_cons]
      | conditional branches span =>
          rw [pieces_conditional, pieces_conditional, keysOf, keysOf,
            List.filterMap_flatMap, List.filterMap_flatMap]
          exact List.flatMap_congr fun branch _ => rfl
      | slotTemplate directives children span =>
          rw [Node.pieces, Node.pieces]
          cases directives.find? (·.name == "slot") with
          | some directive => rfl
          | none =>
              dsimp only
              rw [piecesEach_eq_flatMap, piecesEach_eq_flatMap, keysOf, keysOf,
                List.filterMap_flatMap, List.filterMap_flatMap]
              exact List.flatMap_congr induction

theorem keysOf_each (holder : Option Piece) (nodes : List Node) :
    keysOf (nodes.flatMap (Node.pieces holder)) = nodes.flatMap Node.keys := by
  rw [keysOf, List.filterMap_flatMap]
  exact List.flatMap_congr fun node _ => keysOf_pieces holder node

section

variable (children : List Node) (span : Span)

theorem keys_element (tag : StartTag) :
    (Node.element tag children [] span).keys =
      (.element, span.start) :: children.flatMap Node.keys := by
  have noKeys : keysOf (tag.slotPieces span) = [] := by
    rw [keysOf, StartTag.slotPieces, List.filterMap_map]
    exact List.filterMap_eq_nil_iff.mpr fun directive _ => rfl
  rw [Node.keys, pieces_element, keysOf_cons, List.flatMap_nil, List.append_nil,
    keysOf, List.filterMap_append]
  exact congrArg (_ :: ·) (congrArg₂ (· ++ ·) noKeys (keysOf_each _ children))

theorem keys_outlet (outlet : Outlet) :
    (Node.outlet outlet children span).keys =
      (.outlet, span.start) :: children.flatMap Node.keys := by
  rw [Node.keys, pieces_outlet, keysOf_cons, keysOf_each]
  rfl

theorem keys_slotTemplate (directives : List Directive) :
    (Node.slotTemplate directives children span).keys =
      children.flatMap Node.keys := by
  rw [Node.keys, Node.pieces]
  cases directives.find? (·.name == "slot") with
  | none =>
      dsimp only
      rw [piecesEach_eq_flatMap, keysOf_each]
  | some directive =>
      dsimp only
      rw [piecesEach_eq_flatMap, keysOf_cons, keysOf_each]
      rfl

theorem keys_loop (head : LoopHead) (body : Node) :
    (Node.loop head [body] span).keys = (.loop, span.start) :: body.keys := by
  rw [Node.keys, pieces_loop, keysOf_cons, keysOf_each, List.flatMap_singleton]
  rfl

theorem keys_ofBranch (kind : BranchKind) (condition : Option Code) (node : Node) :
    (Node.ofBranch kind condition node span).keys = (.branch, span.start) ::
      node.keys := by
  rw [Node.keys, Node.ofBranch, pieces_conditional, List.flatMap_singleton,
    Branch.pieces, keysOf_cons, keysOf_each]
  exact congrArg (_ :: ·) (List.flatMap_singleton _ _)

end

/-! ## Pieces of what is read -/

namespace StartTag

/-- The kind of the node that a tag makes of its content, if that is a piece
other than a slot. -/
def coreKinds (tag : StartTag) : List PieceKind :=
  if tag.isShaped then [.element]
  else if tag.name == "slot" then [.outlet]
  else if tag.name == "template" && tag.hasDirective "slot" then []
  else [.element]

/-- The kinds of the pieces that a tag asks for, slots apart. -/
def pieceKinds (tag : StartTag) : List PieceKind :=
  (if tag.loop?.toOption.join.isSome then [.loop] else []) ++
    ((if tag.branch?.isSome then [.branch] else []) ++ tag.coreKinds)

theorem pieceKinds_nodup (tag : StartTag) : tag.pieceKinds.Nodup := by
  unfold pieceKinds coreKinds
  repeat' split
  all_goals decide

theorem keys_core (tag : StartTag) (children : List Node) (span : Span) :
    (tag.core children span).keys =
      tag.coreKinds.map (·, span.start) ++ children.flatMap Node.keys := by
  unfold core coreKinds
  split
  · exact keys_element children span _
  · split
    · exact keys_outlet children span _
    · split
      · exact keys_slotTemplate children span _
      · exact keys_element children span _

end StartTag

theorem keys_ofTag {tag : StartTag} {children : List Node} {span : Span} {node : Node}
    (made : Node.ofTag tag children span = .ok node) :
    node.keys = tag.pieceKinds.map (·, span.start) ++ children.flatMap Node.keys := by
  obtain ⟨head, asked, rfl⟩ := of_ofTag_eq_ok made
  have inBranch : ((tag.core children span).inBranch tag.branch? span).keys =
      ((if tag.branch?.isSome then [PieceKind.branch] else []) ++ tag.coreKinds).map
        (·, span.start) ++
        children.flatMap Node.keys := by
    cases tag.branch? with
    | none => exact tag.keys_core children span
    | some branch =>
        rw [Node.inBranch, keys_ofBranch, StartTag.keys_core]
        rfl
  rw [StartTag.pieceKinds, asked]
  cases head with
  | none => exact inBranch
  | some head =>
      rw [Node.inLoop, keys_loop, inBranch]
      rfl

namespace Lexeme

/-- The kinds of the pieces that a lexeme is read as, slots apart. -/
def pieceKinds (lexeme : Lexeme) : List PieceKind :=
  match lexeme.token with
  | .startTag name attributes _ => (StartTag.ofSource name attributes).pieceKinds
  | .comment _ => [.comment]
  | .text _ => [.text]
  | .interpolation _ _ => [.interpolation]
  | _ => []

def keys (lexeme : Lexeme) : List (PieceKind × Nat) :=
  lexeme.pieceKinds.map (·, lexeme.span.start)

theorem keys_nodup (lexeme : Lexeme) : lexeme.keys.Nodup := by
  refine List.Nodup.map (fun _ _ same => congrArg Prod.fst same) ?_
  unfold pieceKinds
  split
  · exact StartTag.pieceKinds_nodup _
  all_goals decide

end Lexeme

theorem keys_listsLexemes : ListsLexemes Node.keys Lexeme.keys := by
  refine ⟨?_, ?_, keys_ofTag⟩
  · intro lexeme isPassed
    rcases lexeme with ⟨token, span⟩
    cases token with
    | endTag => rfl
    | declaration => rfl
    | _ => contradiction
  · intro lexeme node isLeaf
    rcases lexeme with ⟨token, span⟩
    cases token with
    | comment => cases isLeaf; rfl
    | text => cases isLeaf; rfl
    | interpolation => cases isLeaf; rfl
    | _ => contradiction

/-- No two pieces of a kind start at the same position, slots apart. -/
theorem keysOf_nodup {source : String} {tree : Tree}
    (read : Tree.ofText source = .ok tree) : (keysOf tree.pieces).Nodup := by
  rw [Tree.pieces, keysOf_each, (ofText_nested read).flatMap_eq keys_listsLexemes,
    List.nodup_flatMap]
  refine ⟨fun lexeme _ => lexeme.keys_nodup, ?_⟩
  refine (lexemes_increasing (Cursor.start source)).2.imp ?_
  intro first second before key inFirst inSecond
  obtain ⟨_, _, rfl⟩ := List.mem_map.mp inFirst
  obtain ⟨_, _, same⟩ := List.mem_map.mp inSecond
  exact Nat.ne_of_gt before (congrArg Prod.snd same)

theorem key?_of_place {piece other : Piece} (same : other.place = piece.place)
    (noSlot : piece.kind ≠ .slot) :
    other.key? = some (piece.kind, piece.span.start) := by
  obtain ⟨kind, span⟩ := Prod.mk.inj same
  rw [← kind] at noSlot ⊢
  rw [← span]
  cases other with
  | slot => contradiction
  | _ => rfl

/-- A piece that is no slot is the only one at its place. -/
theorem filter_place {pieces : List Held} (distinct : (keysOf pieces).Nodup)
    {held : Held} (member : held ∈ pieces) (noSlot : held.piece.kind ≠ .slot) :
    pieces.filter (fun other => other.piece.place = held.piece.place) = [held] := by
  have listed : ∀ {others : List Held} {other : Held}, other ∈ others →
      other.piece.place = held.piece.place →
        (held.piece.kind, held.piece.span.start) ∈ keysOf others :=
    fun inOthers same => List.mem_filterMap.mpr ⟨_, inOthers,
      key?_of_place same noSlot⟩
  induction pieces with
  | nil => contradiction
  | cons first rest induction =>
      rw [keysOf_cons, List.nodup_append] at distinct
      obtain ⟨_, distinctRest, apart⟩ := distinct
      by_cases here : first.piece.place = held.piece.place
      · have key := key?_of_place here noSlot
        have notLater : ∀ other ∈ rest, other.piece.place ≠ held.piece.place := by
          intro other inRest same
          exact apart _ (by rw [key]; exact List.mem_singleton_self _) _
            (listed inRest same) rfl
        have none_later :
            rest.filter (fun other => other.piece.place = held.piece.place) = [] :=
          List.filter_eq_nil_iff.mpr fun other inRest => by
            simpa using notLater other inRest
        rcases List.mem_cons.mp member with rfl | inRest
        · rw [List.filter_cons_of_pos (by simp), none_later]
        · exact absurd rfl (notLater held inRest)
      · rw [List.filter_cons_of_neg (by simpa using here)]
        rcases List.mem_cons.mp member with rfl | inRest
        · exact absurd rfl here
        · exact induction distinctRest inRest

end VuePrecompiler.Template
