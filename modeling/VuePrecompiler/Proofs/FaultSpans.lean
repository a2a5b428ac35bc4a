import VuePrecompiler.Proofs.ChildItems
import VuePrecompiler.Proofs.Faults
import VuePrecompiler.Proofs.PlacedNodes
import VuePrecompiler.Proofs.ReadingSteps
import VuePrecompiler.Proofs.TreeShape

/-!
# Spans are faithful

Every node of a template stands in its source with all its parts, and the
top-level nodes cover the source but for what reading skips.  Whatever pass
refuses a template, the error has the span of something that stands in it.
-/

namespace VuePrecompiler.Template

open Source Text

/-! ## Templates without gaps

The top-level nodes of a template cover it but for end tags that close
nothing and for declarations.
-/

/-- An end tag or a declaration in front of a rest.  One without
`>` runs to the end. -/
structure IsSkipped (construct rest : List Char) : Prop where
  marked :
    ∃ mark body ending, construct = '<' :: mark :: (body ++ ending) ∧ '>' ∉ body ∧
    (mark = '/' ∨ mark = '!' ∧ ¬ ['-', '-'] <+: body) ∧
    (ending = ['>'] ∨ ending = [] ∧ rest = [])

/-- From a position on, a text is made up of the texts of nodes and
of what is skipped. -/
inductive Tiled : Nat → List Char → List Node → Prop where
  | nil (position : Nat) : Tiled position [] []
  | skipped {position : Nat} {construct rest : List Char} {nodes : List Node} :
      IsSkipped construct rest → Tiled (position + byteLength construct) rest nodes →
        Tiled position (construct ++ rest) nodes
  | node {position : Nat} {taken rest : List Char} {node : Node} {nodes : List Node} :
      taken ≠ [] → node.span = .ofText position (String.ofList taken) →
        Tiled (position + byteLength taken) rest nodes →
          Tiled position (taken ++ rest) (node :: nodes)

theorem Token.passes_skipTag (cursor : Cursor) :
    ∃ body ending, '>' ∉ body ∧ cursor.Passes (body ++ ending) (skipTag cursor) ∧
      (ending = ['>'] ∨ ending = [] ∧ (skipTag cursor).rest = []) := by
  have front := cursor.passes_takeUntil ['>']
  have plain : '>' ∉ (cursor.takeUntil ['>']).1 := by
    intro member
    rw [Cursor.takeUntil_fst, breakOn_singleton] at member
    simpa using List.mem_takeWhile_imp member
  refine ⟨(cursor.takeUntil ['>']).1, ?_⟩
  unfold skipTag Cursor.eat
  split
  · next rest found =>
    refine ⟨['>'], plain, front.append ?_, .inl rfl⟩
    exact ⟨of_afterPrefix?_eq_some found, rfl⟩
  · next missing =>
    refine ⟨[], plain, front.append ⟨rfl, rfl⟩, .inr ⟨rfl, ?_⟩⟩
    rw [Cursor.rest_takeUntil, breakOn_singleton] at missing ⊢
    cases left : cursor.rest.dropWhile (· != '>') with
    | nil => rfl
    | cons c rest =>
        have stops := List.head?_dropWhile_not (· != '>') cursor.rest
        rw [left] at stops missing
        have same : c = '>' := by simpa using stops
        subst same
        simp [afterPrefix?] at missing

/-- A tag that is passed behind its first two characters is skipped. -/
theorem Token.skipTag_isSkipped {cursor : Cursor} {mark : Char} {tail : List Char}
    (shape : cursor.rest = '<' :: mark :: tail)
    (marked : mark = '/' ∨ mark = '!' ∧ ¬ ['-', '-'] <+: tail) :
    ∃ construct, cursor.Passes construct (skipTag (cursor.skip 2)) ∧
      IsSkipped construct (skipTag (cursor.skip 2)).rest := by
  have front : cursor.Passes ['<', mark] (cursor.skip 2) :=
    @Cursor.passes_skip 2 ['<', mark] tail cursor shape rfl
  obtain ⟨body, ending, plain, passes, ends⟩ := passes_skipTag (cursor.skip 2)
  have whole := front.append passes
  refine ⟨_, whole, ⟨mark, body, ending, rfl, plain, ?_, ends⟩⟩
  apply marked.imp id
  rintro ⟨rfl, notComment⟩
  refine ⟨rfl, fun begins => notComment ?_⟩
  have behind : tail = body ++ (ending ++ (skipTag (cursor.skip 2)).rest) := by
    have same := shape.symm.trans whole.1
    rw [List.append_assoc] at same
    simpa using same
  rw [behind]
  exact begins.trans (List.prefix_append _ _)

theorem Token.next_isSkipped {cursor : Cursor}
    (isPassed : (Lexeme.at cursor).isPassed = true) :
    ∃ construct, cursor.Passes construct (next cursor).2 ∧
      IsSkipped construct (next cursor).2.rest := by
  rcases produced : next cursor with ⟨token, after⟩
  simp only [Lexeme.isPassed, Lexeme.at, produced] at isPassed
  unfold next at produced
  split at produced
  · next tail shape =>
    cases produced
    exact skipTag_isSkipped shape (.inl rfl)
  · cases produced
    contradiction
  · next tail notComment shape =>
    cases produced
    refine skipTag_isSkipped shape (.inr ⟨rfl, ?_⟩)
    rintro ⟨rest, rfl⟩
    exact notComment rest rfl
  · next c tail noSlash noComment noBang shape =>
    split at produced
    · next letter =>
      rw [tagAt_of_letter shape letter] at produced
      unfold startTagAt at produced
      dsimp only at produced
      split at produced
      all_goals
        cases produced
        contradiction
    · cases produced
      contradiction
  · cases produced
    contradiction
  · cases produced
    contradiction

theorem isPassed_of_none {lexeme : Lexeme} (readable : lexeme.fault? = none)
    (single : lexeme.opened? = none) (noLeaf : lexeme.leaf? = none) :
    lexeme.isPassed = true := by
  rcases lexeme with ⟨token, span⟩
  cases token with
  | endTag => rfl
  | declaration => rfl
  | _ => contradiction

/-- What is read up to the end of a text tiles it. -/
theorem Reads.tiled {cursor after : Cursor} {nodes : List Node}
    (reads : Reads cursor nodes after)
    (ended : after.rest = []) : Tiled cursor.offset cursor.rest nodes := by
  have node {here behind : Cursor} {node : Node} {others : List Node}
      (more : here.rest ≠ []) (step : (Token.next here).2.Reaches behind)
      (same : node.span = ⟨here.offset, behind.offset⟩)
      (rest : Tiled behind.offset behind.rest others) :
      Tiled here.offset here.rest (node :: others) := by
    have front : here.Reaches behind := (Token.reaches_next here).trans step
    have advances : here.offset < behind.offset :=
      Nat.lt_of_lt_of_le ((Token.reaches_next here).offset_lt (Token.length_next more))
        step.le
    obtain ⟨taken, passes⟩ := front
    rw [Cursor.Passes.span_eq passes] at same
    rw [passes.2] at rest advances
    rw [passes.1]
    refine .node ?_ same rest
    rintro rfl
    exact absurd advances (Nat.lt_irrefl _)
  induction reads with
  | stop cursor =>
      rw [ended]
      exact .nil _
  | @single cursor after nodes more single later induction =>
      cases isLeaf : (Lexeme.at cursor).leaf? with
      | none =>
          obtain ⟨construct, passes, skipped⟩ :=
            Token.next_isSkipped (isPassed_of_none (Lexeme.readable_at _)
              single isLeaf)
          have rest := induction ended
          rw [passes.2] at rest
          rw [passes.1]
          exact .skipped skipped rest
      | some leaf =>
          exact node more (.refl _) (Lexeme.span_of_leaf? isLeaf) (induction ended)
  | @element cursor closing behind after name attributes selfClosing children element
      nodes more _ _ inner ends made outer content later =>
      exact node more (inner.reaches.trans ends.reaches)
        (span_ofTag made) (later ended)

end VuePrecompiler.Template

namespace VuePrecompiler.Source

open Text

theorem Span.LiesIn.merge {source : String} {left right : Span}
    (first : left.LiesIn source) (second : right.LiesIn source) :
    (left.merge right).LiesIn source where
  ordered := by
    have firstOrder := first.ordered
    have secondOrder := second.ordered
    simp only [Span.merge]
    omega
  bounded := Nat.max_le.mpr ⟨first.bounded, second.bounded⟩
  start := by
    simp only [Span.merge, Nat.min_def]
    split
    · exact first.start
    · exact second.start
  stop := by
    simp only [Span.merge, Nat.max_def]
    split
    · exact second.stop
    · exact first.stop

end VuePrecompiler.Source

namespace VuePrecompiler.Template

open Source Text Render

/-! ## Arranging -/

theorem IsStray.mem {siblings : List Node} {stray : Node}
    (isStray : IsStray siblings stray) : stray ∈ siblings := by
  obtain ⟨before, after, rfl, _⟩ := isStray
  simp

theorem Node.mem_inside_of_siblings {node : Node} {siblings : List Node}
    (given : siblings ∈ node.siblingLists) :
    ∀ sibling ∈ siblings, sibling ∈ node.inside := by
  intro sibling member
  cases node with
  | element tag children slots span =>
      apply List.mem_append.mpr
      rcases List.mem_cons.mp given with rfl | inSlots
      · left
        split at member
        · exact (List.mem_filter.mp member).1
        · exact member
      · right
        obtain ⟨slot, isSlot, rfl⟩ := List.mem_map.mp inSlots
        exact List.mem_flatMap.mpr ⟨slot, isSlot, member⟩
  | conditional branches span =>
      obtain ⟨branch, isBranch, rfl⟩ := List.mem_map.mp given
      exact List.mem_flatMap.mpr ⟨branch, isBranch, member⟩
  | loop head children span =>
      obtain rfl := List.mem_singleton.mp given
      exact member
  | outlet outlet fallback span =>
      obtain rfl := List.mem_singleton.mp given
      exact member
  | slotTemplate directives children span =>
      obtain rfl := List.mem_singleton.mp given
      exact member
  | _ => contradiction

theorem Tree.HasStray.contains {tree : Tree} {stray : Node}
    (hasStray : tree.HasStray stray) : tree.Contains stray := by
  rcases hasStray with isStray | ⟨node, contained, siblings, given, isStray⟩
  · exact ⟨stray, isStray.mem, .here⟩
  · exact contained.inside (Node.mem_inside_of_siblings given stray isStray.mem)

theorem span_of_duplicateSlot? {taken : List String} {slots : List Slot}
    {fault : CompileError} (found : duplicateSlot? taken slots = some fault) :
    ∃ slot ∈ slots, fault.span = slot.head.span := by
  induction slots generalizing taken with
  | nil => contradiction
  | cons slot rest induction =>
      rw [duplicateSlot?] at found
      split at found
      · cases found
        exact ⟨slot, List.mem_cons_self, rfl⟩
      · obtain ⟨other, member, same⟩ := induction found
        exact ⟨other, List.mem_cons_of_mem slot member, same⟩

theorem Node.span_of_slot? {node : Node} {slot : Slot}
    (gives : node.slot? = some slot) : slot.head.span = node.span := by
  cases node with
  | slotTemplate directives children span =>
      obtain ⟨directive, _, rfl⟩ := Option.map_eq_some_iff.mp gives
      rfl
  | _ => contradiction

/-- Misplaced slot content is reported at a template for it, or at a directive
of the component. -/
theorem span_of_slotFault? {tag : StartTag} {children : List Node}
    {fault : CompileError} (found : slotFault? tag children = some fault) :
    (∃ child ∈ children, fault.span = child.span) ∨
      ∃ directive ∈ tag.directives, fault.span = directive.span := by
  rcases Option.or_eq_some_iff.mp found with duplicate | ⟨_, mixed⟩
  · obtain ⟨slot, isSlot, same⟩ := span_of_duplicateSlot? duplicate
    obtain ⟨child, member, gives⟩ := List.mem_filterMap.mp isSlot
    exact .inl ⟨child, member, same.trans (Node.span_of_slot? gives)⟩
  · split at mixed
    · next own given =>
      split at mixed
      · contradiction
      · cases mixed
        exact .inr ⟨own, List.mem_of_find?_eq_some given, rfl⟩
    · contradiction

theorem Tree.span_of_fault? {source : String} {tree : Tree}
    (placed : ∀ node, tree.Contains node → node.IsPlaced source) {fault : CompileError}
    (found : tree.fault? = some fault) : fault.span.LiesIn source := by
  have reports := tree.fault?_reports
  rw [found] at reports
  rcases reports with ⟨stray, hasStray, rfl⟩ | ⟨node, contained, misplaced⟩
  · exact (placed stray hasStray.contains).liesIn
  · cases node with
    | element tag children slots span =>
        rw [Node.misplaced?] at misplaced
        split at misplaced
        · rcases span_of_slotFault? misplaced with
            ⟨child, member, same⟩ | ⟨own, member, same⟩
          · rw [same]
            exact (placed child (contained.inside
              (List.mem_append_left _ member))).liesIn
          · rw [same]
            exact ((placed _ contained).parts.1.directives own member).liesIn
        · contradiction
    | _ => contradiction

theorem Node.span_arranged (node : Node) : node.arranged.span = node.span := by
  cases node with
  | element tag children slots span =>
      obtain ⟨inner, filled, same⟩ := exists_arranged_element tag children slots span
      rw [same]
      rfl
  | _ => rw [Node.arranged] <;> rfl

theorem Tree.liesIn_arranged {source : String} {tree : Tree}
    (placed : ∀ node, tree.Contains node → node.IsPlaced source) {node : Node}
    (contained : tree.arranged.Contains node) : node.span.LiesIn source := by
  have before : ∀ top ∈ tree.children, top.Throughout fun node =>
      node.span.LiesIn source := by
    intro top member
    apply Node.throughout_of_below
    intro other below
    exact (placed other ⟨top, member, below⟩).liesIn
  obtain ⟨top, member, below⟩ := contained
  have throughout := @Tree.throughout_arranged (fun node => node.span.LiesIn source)
    (fun _ _ _ _ _ first second => first.merge second) _ (fun node liesIn => ?_) _
    before top member
  · exact throughout.of_below below
  · rw [Node.span_arranged]
    exact liesIn

/-! ## Generating -/

theorem pairedCodes_fault {inLoop : Bool} {nodes : List Node} {fault : CompileError}
    (failed : pairedCodes inLoop nodes = .error fault) :
    ∃ node ∈ nodes, nodeCode inLoop node = .error fault := by
  induction nodes with
  | nil => contradiction
  | cons node rest induction =>
      rcases of_bind_eq_error failed with here | ⟨code, _, failed⟩
      · exact ⟨node, List.mem_cons_self, here⟩
      · rcases of_bind_eq_error failed with later | ⟨others, _, failed⟩
        · obtain ⟨other, member, isFault⟩ := induction later
          exact ⟨other, List.mem_cons_of_mem node member, isFault⟩
        · contradiction

theorem firstCode_fault {inLoop : Bool} {nodes : List Node} {fault : CompileError}
    (failed : firstCode inLoop nodes = .error fault) :
    ∃ node ∈ nodes, nodeCode inLoop node = .error fault := by
  cases nodes with
  | nil => contradiction
  | cons node rest => exact ⟨node, List.mem_cons_self, failed⟩

theorem branchesCode_fault {inLoop : Bool} {branches : List Branch}
    {fault : CompileError} (failed : branchesCode inLoop branches = .error fault) :
    ∃ node ∈ branches.flatMap Branch.children, nodeCode inLoop node =
      .error fault := by
  induction branches with
  | nil => contradiction
  | cons branch rest induction =>
      rcases branch with ⟨kind, condition, children, span⟩
      rw [List.flatMap_cons]
      rcases of_bind_eq_error failed with here | ⟨body, _, failed⟩
      · obtain ⟨node, member, isFault⟩ := firstCode_fault here
        exact ⟨node, List.mem_append_left _ member, isFault⟩
      · cases condition with
        | none => contradiction
        | some condition =>
            dsimp only at failed
            split at failed
            · contradiction
            · rcases of_bind_eq_error failed with later | ⟨others, _, failed⟩
              · obtain ⟨node, member, isFault⟩ := induction later
                exact ⟨node, List.mem_append_right _ member, isFault⟩
              · contradiction

theorem slotCodes_fault {inLoop : Bool} {slots : List Slot} {fault : CompileError}
    (failed : slotCodes inLoop slots = .error fault) :
    ∃ node ∈ slots.flatMap Slot.children, nodeCode inLoop node = .error fault := by
  induction slots with
  | nil => contradiction
  | cons slot rest induction =>
      rcases slot with ⟨head, children⟩
      rw [List.flatMap_cons]
      rcases of_bind_eq_error failed with here | ⟨content, _, failed⟩
      · obtain ⟨node, member, isFault⟩ := pairedCodes_fault here
        exact ⟨node, List.mem_append_left _ member, isFault⟩
      · rcases of_bind_eq_error failed with later | ⟨others, _, failed⟩
        · obtain ⟨node, member, isFault⟩ := induction later
          exact ⟨node, List.mem_append_right _ member, isFault⟩
        · contradiction

/-- Generating fails only at an element with `v-slot`. -/
theorem nodeCode_fault {inLoop : Bool} {node : Node} {fault : CompileError}
    (failed : nodeCode inLoop node = .error fault) :
    ∃ other : Node, other.Below node ∧ fault = .invalidSlot .misplaced other.span := by
  induction node using Node.inside_induct generalizing inLoop with
  | step node induction =>
      have below {inside : Bool} (isFault : ∃ child ∈ node.inside,
          nodeCode inside child = .error fault) :
          ∃ other : Node, other.Below node ∧
            fault = .invalidSlot .misplaced other.span := by
        obtain ⟨child, member, failed⟩ := isFault
        obtain ⟨other, below, same⟩ := induction child member failed
        exact ⟨other, .inside member below, same⟩
      cases node with
      | text => contradiction
      | interpolation => contradiction
      | comment => contradiction
      | conditional branches span => exact below (branchesCode_fault failed)
      | loop head children span =>
          rcases of_bind_eq_error failed with failed | ⟨_, _, failed⟩
          · exact below (firstCode_fault failed)
          · contradiction
      | outlet outlet fallback span =>
          rcases of_bind_eq_error failed with failed | ⟨_, _, failed⟩
          · exact below (pairedCodes_fault failed)
          · contradiction
      | slotTemplate directives children span =>
          rcases of_bind_eq_error failed with failed | ⟨_, _, failed⟩
          · exact below (pairedCodes_fault failed)
          · contradiction
      | element tag children slots span =>
          have inChildren (failed : pairedCodes inLoop children = .error fault) :
              ∃ child ∈ (Node.element tag children slots span).inside,
                nodeCode inLoop child = .error fault := by
            obtain ⟨child, member, isFault⟩ := pairedCodes_fault failed
            exact ⟨child, List.mem_append_left _ member, isFault⟩
          rw [nodeCode] at failed
          split at failed
          · rcases of_bind_eq_error failed with failed | ⟨_, _, failed⟩
            · exact below (inChildren failed)
            · contradiction
          · split at failed
            · cases failed
              exact ⟨_, .here, rfl⟩
            · rcases of_bind_eq_error failed with failed | ⟨entries, _, failed⟩
              · obtain ⟨child, member, isFault⟩ := slotCodes_fault failed
                exact below ⟨child, List.mem_append_right _ member, isFault⟩
              · dsimp only at failed
                split at failed
                · contradiction
                · rcases of_bind_eq_error failed with failed | ⟨_, _, failed⟩
                  · exact below (inChildren (of_map_eq_error failed))
                  · contradiction

theorem rootFaultOfEach?_fault {nodes : List Node} {fault : CompileError}
    (found : rootFaultOfEach? nodes = some fault) :
    ∃ node ∈ nodes, rootFault? node = some fault := by
  induction nodes with
  | nil => contradiction
  | cons node rest induction =>
      rcases Option.or_eq_some_iff.mp found with here | ⟨_, later⟩
      · exact ⟨node, List.mem_cons_self, here⟩
      · obtain ⟨other, member, isFault⟩ := induction later
        exact ⟨other, List.mem_cons_of_mem node member, isFault⟩

theorem rootFaultOfBranches?_fault {branches : List Branch} {fault : CompileError}
    (found : rootFaultOfBranches? branches = some fault) :
    ∃ node ∈ branches.flatMap Branch.children, rootFault? node = some fault := by
  induction branches with
  | nil => contradiction
  | cons branch rest induction =>
      rcases branch with ⟨kind, condition, children, span⟩
      rw [List.flatMap_cons]
      rcases Option.or_eq_some_iff.mp found with here | ⟨_, later⟩
      · obtain ⟨node, member, isFault⟩ := rootFaultOfEach?_fault here
        exact ⟨node, List.mem_append_left _ member, isFault⟩
      · obtain ⟨node, member, isFault⟩ := induction later
        exact ⟨node, List.mem_append_right _ member, isFault⟩

theorem span_of_rootFault? {node : Node} {fault : CompileError}
    (found : rootFault? node = some fault) :
    ∃ other : Node, other.Below node ∧ fault.span = other.span := by
  induction node using Node.inside_induct with
  | step node induction =>
      cases node with
      | comment => contradiction
      | conditional branches span =>
          obtain ⟨child, member, isFault⟩ := rootFaultOfBranches?_fault found
          obtain ⟨other, below, same⟩ := induction child member isFault
          exact ⟨other, .inside member below, same⟩
      | element tag children slots span =>
          rw [rootFault?] at found
          split at found
          · cases found
            exact ⟨_, .here, rfl⟩
          · contradiction
      | _ =>
          cases found
          exact ⟨_, .here, rfl⟩

/-- An error of generating has the span of the template or of a node in it. -/
theorem span_of_generate {tree : Tree} {fault : CompileError}
    (failed : generate tree = .error fault) :
    fault.span = tree.span ∨ ∃ node, tree.Contains node ∧ fault.span = node.span := by
  have kept {node : Node} (member : node ∈ tree.children.filter fun node =>
      !node.isInsignificant) :
      node ∈ tree.children :=
    (List.mem_filter.mp member).1
  rcases of_bind_eq_error failed with noRoot | ⟨rootNode, isRoot, failed⟩
  · unfold root at noRoot
    split at noRoot
    · cases noRoot
      exact .inl rfl
    · next only single =>
      split at noRoot
      · next found =>
        cases noRoot
        obtain ⟨other, below, same⟩ := span_of_rootFault? found
        exact .inr ⟨other, ⟨only, kept (single ▸ List.mem_cons_self), below⟩, same⟩
      · contradiction
    · next first extra others several =>
      cases noRoot
      have inTree : extra ∈ tree.children := kept (by simp [several])
      exact .inr ⟨extra, ⟨extra, inTree, .here⟩, rfl⟩
  · rcases of_bind_eq_error failed with failed | ⟨_, _, failed⟩
    · obtain ⟨other, below, rfl⟩ := nodeCode_fault failed
      exact .inr ⟨other, ⟨rootNode, mem_of_root isRoot, below⟩, rfl⟩
    · contradiction

/-! ## Templates -/

/-- A template stands in its source with everything in it. -/
structure Tree.IsPlaced (source : String) (tree : Tree) : Prop where
  whole : tree.span = ⟨0, source.utf8ByteSize⟩
  nodes : ∀ node, tree.Contains node → node.IsPlaced source
  ordered : AreInOrder tree.children
  tiled : Tiled 0 source.toList tree.children

theorem Tree.isPlaced {source : String} {tree : Tree}
    (read : Tree.ofText source = .ok tree) : tree.IsPlaced source := by
  obtain ⟨after, reads, ended, whole⟩ := ofText_reads read
  have placed := reads.arePlaced (Cursor.StandsIn.start source)
  refine ⟨whole, ?_, placed.ordered, reads.tiled ended⟩
  rintro node ⟨top, inTree, below⟩
  exact (placed.each top inTree).of_below below

theorem Tree.liesIn_of_ofText_fault {source : String} {fault : CompileError}
    (failed : Tree.ofText source = .error fault) : fault.span.LiesIn source := by
  obtain ⟨here, reaches, name, attributes, selfClosing, isTag, unread⟩ :=
    ofText_fault failed
  have stands : here.StandsIn source := reaches
  have taken := Token.next_taken stands
  rw [isTag] at taken
  have placed := @StartTag.ofSource_isPlaced _ _ name _ taken.2
  obtain ⟨directive, given, isFault⟩ := StartTag.of_loop?_eq_error unread
  have inTag := placed.directive? given
  rcases isFault with ⟨_, rfl⟩ | ⟨code, isValue, _, rfl⟩
  · exact inTag.liesIn
  · have quotes :=
      inTag.value (code.content, code.span) (Option.mem_map_of_mem _ isValue)
    exact Span.liesIn_of_slice? quotes.slice

theorem Tree.liesIn_of_compile_fault {source : String} {fault : CompileError}
    (failed : compile source = .error fault) : fault.span.LiesIn source := by
  rcases of_bind_eq_error failed with unread | ⟨tree, read, failed⟩
  · exact Tree.liesIn_of_ofText_fault unread
  have placed := Tree.isPlaced read
  rcases of_bind_eq_error failed with notArranged | ⟨arranged, arranges, failed⟩
  · unfold Tree.arrange at notArranged
    split at notArranged
    · next found =>
      cases notArranged
      exact Tree.span_of_fault? placed.nodes found
    · contradiction
  · obtain ⟨_, rfl⟩ := arrange_eq_ok arranges
    rcases span_of_generate failed with same | ⟨node, contained, same⟩
    · rw [same]
      have whole : tree.arranged.span = ⟨0, source.utf8ByteSize⟩ := placed.whole
      rw [whole]
      exact .whole source
    · rw [same]
      exact Tree.liesIn_arranged placed.nodes contained

/-- The spans of a template are those of the source, and so are the spans of errors. -/
theorem spans_faithful (source : String) :
    (∀ tree, Tree.ofText source = .ok tree → tree.IsPlaced source) ∧
      ∀ fault, compile source = .error fault → fault.span.LiesIn source :=
  ⟨fun _ read => Tree.isPlaced read,
    fun _ failed => Tree.liesIn_of_compile_fault failed⟩

/-- A text with an umlaut, a stray end tag and an element without one; and a
loop without source. -/
theorem spans_faithful_unclosed :
    (∃ tree, Tree.ofText "ä</i><p>{{ b }}" = .ok tree ∧
      tree.IsPlaced "ä</i><p>{{ b }}") ∧
      compile "ä<p v-for='a'>" = .error (.invalidLoop "a" ⟨12, 13⟩) ∧
      Span.LiesIn "ä<p v-for='a'>" ⟨12, 13⟩ := by
  have read : (Tree.ofText "ä</i><p>{{ b }}").isOk = true := by
    with_unfolding_all decide
  have failed : compile "ä<p v-for='a'>" = .error (.invalidLoop "a" ⟨12, 13⟩) := by
    with_unfolding_all rfl
  obtain ⟨tree, isTree⟩ := exists_of_isOk read
  exact ⟨⟨tree, isTree, (spans_faithful _).1 tree isTree⟩, failed,
    (spans_faithful _).2 _ failed⟩

end VuePrecompiler.Template
