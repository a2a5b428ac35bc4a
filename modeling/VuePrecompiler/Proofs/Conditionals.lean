import Mathlib.Data.List.Nodup
import VuePrecompiler.Proofs.Faults
import VuePrecompiler.Proofs.Listings
import VuePrecompiler.Proofs.TreeShape
import VuePrecompiler.Render.Code

/-!
# Conditionals keep their branches

A start tag with a condition becomes a branch around its element, and all
branches are found again in an arranged template, joined to chains.  A branch
that continues no chain is reported.  Beside `v-for` only `v-if` is heard:
`v-else-if` and `v-else` are taken off the tag there, and no branch is made.
-/

namespace VuePrecompiler.Template

open Source

/-! ## The conditions of a tag -/

/-- The branch that a directive asks for. -/
def Directive.branch? (directive : Directive) : Option (BranchKind × Option Code) :=
  if directive.name = "if" then some (.first, directive.value)
  else if directive.name = "else-if" then some (.elseIf, directive.value)
  else if directive.name = "else" then some (.last, none)
  else none

def StartTag.conditions (tag : StartTag) : List (BranchKind × Option Code) :=
  tag.directives.filterMap Directive.branch?

theorem branch?_if {directive : Directive} (named : directive.name = "if") :
    directive.branch? = some (.first, directive.value) := by
  rw [Directive.branch?, if_pos named]

theorem branch?_elseIf {directive : Directive} (named : directive.name = "else-if") :
    directive.branch? = some (.elseIf, directive.value) := by
  rw [Directive.branch?, if_neg (by rw [named]; decide), if_pos named]

theorem branch?_else {directive : Directive} (named : directive.name = "else") :
    directive.branch? = some (.last, none) := by
  rw [Directive.branch?, if_neg (by rw [named]; decide),
    if_neg (by rw [named]; decide), if_pos named]

theorem branch?_cases {directive : Directive} {branch : BranchKind × Option Code}
    (asks : directive.branch? = some branch) :
    (directive.name = "if" ∧ branch.1 = .first) ∨
      (directive.name = "else-if" ∧ branch.1 = .elseIf) ∨
      (directive.name = "else" ∧ branch.1 = .last) := by
  unfold Directive.branch? at asks
  split at asks
  · next named =>
    cases asks
    exact .inl ⟨named, rfl⟩
  · split at asks
    · next named =>
      cases asks
      exact .inr (.inl ⟨named, rfl⟩)
    · split at asks
      · next named =>
        cases asks
        exact .inr (.inr ⟨named, rfl⟩)
      · contradiction

section

variable {tag : StartTag} {branch : BranchKind × Option Code} {name : String}
  {asked : Directive → BranchKind × Option Code} (only : tag.conditions = [branch])
  (asks : ∀ {directive : Directive}, directive.name = name →
    directive.branch? = some (asked directive))
include only asks

theorem asked_eq {directive : Directive}
    (given : tag.directive? name = some directive) : asked directive = branch := by
  have named : directive.name = name := by
    have found := List.find?_some given
    exact eq_of_beq found
  have member : asked directive ∈ tag.conditions :=
    List.mem_filterMap.mpr ⟨directive, List.mem_of_find?_eq_some given, asks named⟩
  rw [only] at member
  exact List.mem_singleton.mp member

/-- No directive asks for a branch of another kind than the only one. -/
theorem directive?_eq_none_of_kind
    (other : ∀ directive, (asked directive).1 ≠ branch.1) :
    tag.directive? name = none := by
  cases given : tag.directive? name with
  | none => rfl
  | some directive =>
      exact absurd (congrArg Prod.fst (asked_eq only asks given)) (other directive)

theorem directive?_map_asked {directive : Directive}
    (inTag : directive ∈ tag.directives)
    (named : directive.name = name) :
    (tag.directive? name).map asked = some branch := by
  cases given : tag.directive? name with
  | none =>
      rw [StartTag.directive?, List.find?_eq_none] at given
      exact absurd (beq_iff_eq.mpr named) (given directive inTag)
  | some directive => exact congrArg some (asked_eq only asks given)

end

/-- A tag with one condition asks for its branch, unless it is
overheard beside a loop. -/
theorem branch?_of_conditions {tag : StartTag} {branch : BranchKind × Option Code}
    (only : tag.conditions = [branch])
    (heard : tag.hasDirective "for" = true → branch.1 = .first) :
    tag.branch? = some branch := by
  have member : branch ∈ tag.conditions := only ▸ List.mem_singleton_self branch
  obtain ⟨directive, inTag, asks⟩ := List.mem_filterMap.mp member
  rw [StartTag.branch?]
  rcases branch?_cases asks with ⟨named, _⟩ | later
  · have found := directive?_map_asked only branch?_if inTag named
    cases first : tag.directive? "if" with
    | none => rw [first] at found; contradiction
    | some condition => rw [first] at found; exact found
  · -- Only the first kind is heard beside a loop, so the tag has no loop.
    have kind : branch.1 ≠ .first := by
      rcases later with ⟨_, kind⟩ | ⟨_, kind⟩ <;> rw [kind] <;> decide
    have noLoop : ¬ tag.hasDirective "for" = true := fun loops => kind (heard loops)
    rw [directive?_eq_none_of_kind only branch?_if fun _ => kind.symm]
    dsimp only
    rw [if_neg noLoop]
    rcases later with ⟨named, _⟩ | ⟨named, kind⟩
    · have found := directive?_map_asked only branch?_elseIf inTag named
      cases next : tag.directive? "else-if" with
      | none => rw [next] at found; contradiction
      | some condition => rw [next] at found; exact found
    · have notElseIf : BranchKind.elseIf ≠ branch.1 := by
        rw [kind]
        decide
      rw [directive?_eq_none_of_kind only branch?_elseIf fun _ => notElseIf]
      exact directive?_map_asked only branch?_else inTag named

/-! ## Branches of what is read -/

/-- A branch with the elements in it, each with its tag and where it starts. -/
structure PlacedBranch where
  kind : BranchKind
  condition : Option Code
  content : List (Option OpenedTag)
deriving DecidableEq, Repr

/-- The tag of an element, and where it starts. -/
def Node.opened? : Node → Option OpenedTag
  | .element tag _ _ span => some ⟨tag, span.start⟩
  | _ => none

def Branch.placed (branch : Branch) : PlacedBranch :=
  ⟨branch.kind, branch.condition, branch.children.map Node.opened?⟩

def Node.branches : Node → List PlacedBranch
  | .conditional branches _ => branches.map Branch.placed
  | _ => []

/-- The branches of all conditionals in a template. -/
def Tree.branches (tree : Tree) : List PlacedBranch :=
  tree.listed (.ofOwn Node.branches) ()

/-- A branch around the element of a start tag. -/
def OpenedTag.inBranch (opened : OpenedTag) (branch : BranchKind × Option Code) :
    PlacedBranch :=
  ⟨branch.1, branch.2, [some ⟨opened.tag.stripped, opened.start⟩]⟩

/-- The branch that a start tag becomes, if it asks for one. -/
def OpenedTag.branch? (opened : OpenedTag) : Option PlacedBranch :=
  opened.tag.branch?.map opened.inBranch

theorem branches_core (tag : StartTag) (children : List Node) (span : Span) :
    (tag.core children span).branches = [] :=
  tag.core_cases children span rfl rfl fun _ => rfl

theorem branches_listsTags :
    ListsTags Node.branches fun opened => opened.branch?.toList := by
  constructor
  · intro node isLeaf
    cases isLeaf <;> rfl
  · intro tag children start stop node made
    rw [listed_ofTag (fun _ _ _ => rfl) made, branches_core, List.nil_append]
    cases asked : tag.branch? with
    | none => rw [OpenedTag.branch?, asked]; rfl
    | some branch =>
        have shaped := isShaped_of_branch? asked
        rw [OpenedTag.branch?, asked]
        simp only [StartTag.core, if_pos shaped]
        rfl

theorem branches_ofText {source : String} {tree : Tree}
    (read : Tree.ofText source = .ok tree) :
    tree.branches = (startTags source).filterMap OpenedTag.branch? := by
  rw [List.filterMap_eq_flatMap_toList]
  exact branches_listsTags.ofText read

/-! ## Branches of what is arranged -/

def PlacedBranch.arranged (branch : PlacedBranch) : PlacedBranch :=
  { branch with
    content :=
      branch.content.map (·.map fun opened => ⟨opened.tag.arranged, opened.start⟩) }

theorem placed_arranged {branch : Branch} (holds : branch.HoldsElement) :
    branch.arranged.placed = branch.placed.arranged := by
  obtain ⟨_, content, ⟨tag, children, slots, span⟩⟩ := holds
  obtain ⟨inner, filled, same⟩ := exists_arranged_element tag children slots span
  have arranged :
      branch.arranged.children = [.element tag.arranged inner filled span] := by
    rw [Branch.children_arranged, content, List.map_singleton,
      joinChains_singleton, same]
  rw [Branch.placed, Branch.placed, arranged, content]
  rfl

theorem branches_arranges :
    (Listing.ofOwn Node.branches).Arranges Node.IsShaped PlacedBranch.arranged where
  insignificant := by
    intro _ node insignificant
    cases node with
    | text => rfl
    | comment => rfl
    | _ => contradiction
  joined _ _ _ _ _ _ := List.map_append
  below_conditional _ _ _ := rfl
  own_slotTemplate _ _ _ _ := rfl
  below_slotTemplate _ _ _ _ := rfl
  own_arranged := by
    intro _ node shaped
    cases node with
    | element tag children slots span =>
        obtain ⟨inner, filled, same⟩ := exists_arranged_element tag children slots span
        rw [same]
        rfl
    | conditional branches span =>
        rw [Node.arranged, arrangedBranches_eq_map]
        simp only [Listing.ofOwn, Node.branches, List.map_map]
        exact List.map_congr_left fun branch given =>
          placed_arranged (shaped.1 branch given)
    | _ => rfl
  below_arranged _ _ := rfl

/-- The branches of an arranged template are those that the start tags of
its source ask for. -/
theorem branches_perm {source : String} {tree : Tree}
    (read : Tree.ofText source = .ok tree) : tree.arranged.branches.Perm
      (((startTags source).filterMap OpenedTag.branch?).map
        PlacedBranch.arranged) := by
  rw [← branches_ofText read]
  exact branches_arranges.tree_perm (ofText_nested read).throughout ()

theorem branches_nodup (source : String) :
    (((startTags source).filterMap OpenedTag.branch?).map
      PlacedBranch.arranged).Nodup := by
  rw [List.map_filterMap]
  refine List.Pairwise.filterMap _ ?_ (startTags_increasing source)
  intro first second before branch made other madeOther same
  rw [OpenedTag.branch?, Option.map_map, Option.map_eq_some_iff] at made madeOther
  obtain ⟨asked, _, rfl⟩ := made
  obtain ⟨askedOther, _, rfl⟩ := madeOther
  -- Equal branches hold the same element, at one position.
  have content := congrArg PlacedBranch.content same
  simp [OpenedTag.inBranch, PlacedBranch.arranged] at content
  omega

/-- Every start tag with one condition becomes one branch in the arranged
template, of its kind, with its condition and with its element; beside a loop only
`v-if` does.  A branch that continues no chain is reported instead, unless the
slot content of a component is found misplaced first. -/
theorem arrange_branches {source : String} {tree : Tree}
    (read : Tree.ofText source = .ok tree) :
    (∀ arranged, tree.arrange = .ok arranged →
      (∀ stray, ¬ tree.HasStray stray) ∧
      arranged.branches.Perm
        (((startTags source).filterMap OpenedTag.branch?).map PlacedBranch.arranged) ∧
      ∀ opened ∈ startTags source, ∀ branch, opened.tag.conditions = [branch] →
        (opened.tag.hasDirective "for" = true → branch.1 = .first) →
          arranged.branches.count (opened.inBranch branch).arranged = 1) ∧
    ∀ fault, tree.arrange = .error fault →
      (∃ stray, tree.HasStray stray ∧ fault = .unpairedElse stray.span) ∨
        tree.MisplacesSlots fault := by
  have reports := tree.fault?_reports
  constructor
  · intro arranged arranges
    obtain ⟨noFault, rfl⟩ := arrange_eq_ok arranges
    rw [noFault] at reports
    refine ⟨fun stray isStray => reports _ (.inl ⟨stray, isStray, rfl⟩),
      branches_perm read, ?_⟩
    intro opened inSource branch only heard
    have asked : opened.branch? = some (opened.inBranch branch) :=
      congrArg (Option.map opened.inBranch) (branch?_of_conditions only heard)
    have given : (opened.inBranch branch).arranged ∈
        ((startTags source).filterMap OpenedTag.branch?).map PlacedBranch.arranged :=
      List.mem_map_of_mem (List.mem_filterMap.mpr ⟨opened, inSource, asked⟩)
    rw [(branches_perm read).count_eq]
    exact List.count_eq_one_of_mem (branches_nodup source) given
  · intro fault fails
    unfold Tree.arrange at fails
    split at fails
    · next found =>
      cases fails
      rw [found] at reports
      exact reports
    · contradiction

/-- A condition and its alternative. -/
theorem pair_of_branches :
    let source := "<div><p v-if=\"a\"></p><b v-else></b></div>"
    let condition : Code := ⟨"a", ⟨14, 15⟩⟩
    let first : OpenedTag := ⟨{ StartTag.ofSource "p" [] with
      directives := [⟨"if", none, [], some condition, ⟨8, 16⟩⟩] }, 5⟩
    let last : OpenedTag := ⟨{ StartTag.ofSource "b" [] with
      directives := [⟨"else", none, [], none, ⟨24, 30⟩⟩] }, 21⟩
    ∃ tree arranged, Tree.ofText source = .ok tree ∧ tree.arrange = .ok arranged ∧
      arranged.branches.count (first.inBranch (.first, some condition)).arranged = 1 ∧
      arranged.branches.count (last.inBranch (.last, none)).arranged = 1 := by
  intro source condition first last
  have accepted : (Tree.ofText source >>= Tree.arrange).isOk = true := by
    decide +kernel
  have opened : first ∈ startTags source ∧ last ∈ startTags source := by
    decide +kernel
  obtain ⟨arranged, done⟩ := exists_of_isOk accepted
  obtain ⟨tree, read, arranges⟩ := of_bind_eq_ok done
  have once := ((arrange_branches read).1 arranged arranges).2.2
  have first_once :=
    once first opened.1 (.first, some condition) (by decide) (by decide)
  have last_once := once last opened.2 (.last, none) (by decide) (by decide)
  exact ⟨tree, arranged, read, arranges, first_once, last_once⟩

/-- A `v-else` beside a loop is neither a branch nor reported. -/
theorem else_beside_loop :
    let source := "<div><p v-for=\"x in xs\" v-else></p></div>"
    (∃ opened ∈ startTags source, opened.tag.conditions = [(.last, none)]) ∧
      (Tree.ofText source >>= Tree.arrange).map Tree.branches = .ok [] ∧
      Render.compile source =
        .ok "with(this)\x7breturn _c('div',_l((xs),function(x)\x7breturn _c('p')\x7d),0)\x7d" := by
  decide +kernel

end VuePrecompiler.Template
