import VuePrecompiler.Template.Reading
import VuePrecompiler.Proofs.LexemePlaces
import VuePrecompiler.Proofs.Results

/-!
# How start tags nest

A template is a list of lexemes.  `Nested` says which nodes such a list stands
for: a comment, a text or an interpolation is a node, a start tag makes a node
of what follows it, and end tags and declarations are passed.  Whatever is
read is nested in this way, so facts about all parsed templates are proved by
induction on it.
-/

namespace VuePrecompiler.Template

open Source Text

/-! ## The node of a start tag -/

namespace StartTag

def directive? (tag : StartTag) (name : String) : Option Directive :=
  tag.directives.find? (·.name == name)

/-- The directives that shape the tree. -/
def shapingNames : List String := ["for", "if", "else-if", "else"]

/-- The tag without the directives that shape the tree, each taken off once. -/
def stripped (tag : StartTag) : StartTag :=
  shapingNames.foldl (fun tag name => (tag.takeDirective? name).2) tag

def isShaped (tag : StartTag) : Bool :=
  shapingNames.any tag.hasDirective

/-- The branch that a tag asks for; of several directives the earliest kind wins,
and only `v-if` can stand beside `v-for`. -/
def branch? (tag : StartTag) : Option (BranchKind × Option Code) :=
  match tag.directive? "if" with
  | some first => some (.first, first.value)
  | none =>
    if tag.hasDirective "for" then none
    else
      match tag.directive? "else-if" with
      | some next => some (.elseIf, next.value)
      | none => (tag.directive? "else").map fun _ => (.last, none)

/-- What a tag makes of its content, inside of the loop and the
condition it asks for. -/
def core (tag : StartTag) (children : List Node) (span : Span) : Node :=
  if tag.isShaped then .element tag.stripped children [] span
  else if tag.name == "slot" then .outlet (Outlet.ofTag tag span) children span
  else if tag.name == "template" && tag.hasDirective "slot" then
    .slotTemplate tag.directives children span
  else .element tag children [] span

theorem isSome_directive? (tag : StartTag) (name : String) :
    (tag.directive? name).isSome = tag.hasDirective name := by
  rw [directive?, hasDirective, List.isSome_find?]

/-- Taking one directive off leaves the first directive of any other name. -/
theorem directive?_takeDirective? (tag : StartTag) {taken name : String}
    (different : taken ≠ name) :
    (tag.takeDirective? taken).2.directive? name = tag.directive? name := by
  rcases tag with ⟨_, _, _, directives, _, _⟩
  simp only [directive?, takeDirective?]
  induction directives with
  | nil => rfl
  | cons first rest induction =>
      by_cases here : first.name = taken
      · simp [here, different]
      · rw [List.eraseP_cons_of_neg (by simpa using here), List.find?_cons,
          List.find?_cons,
          induction]

theorem takeDirective?_of_absent {tag : StartTag} {name : String}
    (absent : tag.hasDirective name = false) : (tag.takeDirective? name).2 = tag := by
  rcases tag with ⟨_, _, _, directives, _, _⟩
  have kept : directives.eraseP (·.name == name) = directives :=
    List.eraseP_of_forall_not (by simpa [hasDirective] using absent)
  simp only [takeDirective?, kept]

theorem stripped_of_not_isShaped {tag : StartTag} (plain : tag.isShaped = false) :
    tag.stripped = tag := by
  simp only [isShaped, shapingNames, List.any_cons, List.any_nil, Bool.or_false,
    Bool.or_eq_false_iff] at plain
  obtain ⟨noFor, noIf, noElseIf, noElse⟩ := plain
  simp only [stripped, shapingNames, List.foldl_cons, List.foldl_nil,
    takeDirective?_of_absent noFor, takeDirective?_of_absent noIf,
    takeDirective?_of_absent noElseIf, takeDirective?_of_absent noElse]

/-- A tag makes an element, an outlet or slot content of its children. -/
@[elab_as_elim]
theorem core_cases {motive : Node → Prop} (tag : StartTag) (children : List Node)
    (span : Span) (element : motive (.element tag.stripped children [] span))
    (outlet : motive (.outlet (Outlet.ofTag tag span) children span))
    (content : tag.hasDirective "slot" = true →
      motive (.slotTemplate tag.directives children span)) :
    motive (tag.core children span) := by
  unfold core
  split
  · exact element
  · next plain =>
    split
    · exact outlet
    · split
      · next given =>
        rw [Bool.and_eq_true] at given
        exact content given.2
      · rw [← stripped_of_not_isShaped (Bool.eq_false_iff.mpr plain)]
        exact element

end StartTag

/-- A node in the branch of a conditional, if one is asked for. -/
def Node.inBranch (node : Node) (branch : Option (BranchKind × Option Code))
    (span : Span) : Node :=
  match branch with
  | some (kind, condition) => Node.ofBranch kind condition node span
  | none => node

/-- A node in a loop, if one is asked for. -/
def Node.inLoop (node : Node) (head : Option LoopHead) (span : Span) : Node :=
  match head with
  | some head => .loop head [node] span
  | none => node

def StartTag.loop? (tag : StartTag) : Except CompileError (Option LoopHead) :=
  match tag.directive? "for" with
  | some directive => (LoopHead.ofDirective directive).map some
  | none => .ok none

theorem isShaped_of_directive? {tag : StartTag} {name : String}
    (shaping : name ∈ StartTag.shapingNames) (given : tag.directive? name ≠ none) :
    tag.isShaped = true := by
  refine List.any_eq_true.mpr ⟨name, shaping, ?_⟩
  rw [← StartTag.isSome_directive?, Option.isSome_iff_ne_none]
  exact given

namespace StartTag

/-- Each of the four directives is the first of its name on the tag,
and none is left. -/
theorem taken_each (tag : StartTag) :
    let looped := (tag.takeDirective? "for").2
    let first := looped.takeDirective? "if"
    let next := first.2.takeDirective? "else-if"
    let last := next.2.takeDirective? "else"
    first.1 = tag.directive? "if" ∧ next.1 = tag.directive? "else-if" ∧
      last.1 = tag.directive? "else" ∧ last.2 = tag.stripped := by
  intro looped first next last
  refine ⟨directive?_takeDirective? tag (by decide), ?_, ?_, rfl⟩
  · calc next.1 = looped.directive? "else-if" :=
      directive?_takeDirective? looped (by decide)
        _ = tag.directive? "else-if" := directive?_takeDirective? tag (by decide)
  · calc last.1 = first.2.directive? "else" :=
      directive?_takeDirective? first.2 (by decide)
        _ = looped.directive? "else" := directive?_takeDirective? looped (by decide)
        _ = tag.directive? "else" := directive?_takeDirective? tag (by decide)

theorem core_of_shaped {tag : StartTag} {name : String} {directive : Directive}
    (shaping : name ∈ shapingNames) (given : tag.directive? name = some directive)
    (children : List Node) (span : Span) :
    tag.core children span = .element tag.stripped children [] span := by
  have shaped : tag.isShaped = true :=
    isShaped_of_directive? shaping (given ▸ Option.some_ne_none directive)
  rw [core, if_pos shaped]

theorem not_isShaped {tag : StartTag}
    (plain : ∀ name ∈ shapingNames, tag.directive? name = none) :
    tag.isShaped = false := by
  rw [isShaped, List.any_eq_false]
  intro name shaping
  rw [← isSome_directive?, plain name shaping]
  exact Bool.false_ne_true

end StartTag

/-- The node of a start tag in three layers: a loop around a condition around what
the tag makes of its content. -/
theorem ofTag_eq (tag : StartTag) (children : List Node) (span : Span) :
    Node.ofTag tag children span = tag.loop?.map fun head =>
      ((tag.core children span).inBranch tag.branch? span).inLoop head span := by
  obtain ⟨first, next, last, stripped⟩ := tag.taken_each
  have repeated : (tag.takeDirective? "for").1 = tag.directive? "for" := rfl
  have repeats := StartTag.isSome_directive? tag "for"
  simp only [Node.ofTag, repeated, first, next, last, stripped, StartTag.loop?,
    StartTag.branch?, ← repeats]
  cases hasFor : tag.directive? "for" with
  | some repetition =>
      rw [StartTag.core_of_shaped (by decide) hasFor]
      dsimp only
      cases LoopHead.ofDirective repetition with
      | error fault => rfl
      | ok head => cases tag.directive? "if" <;> rfl
  | none =>
      cases hasIf : tag.directive? "if" with
      | some condition => rw [StartTag.core_of_shaped (by decide) hasIf]; rfl
      | none =>
          cases hasElseIf : tag.directive? "else-if" with
          | some condition => rw [StartTag.core_of_shaped (by decide) hasElseIf]; rfl
          | none =>
              cases hasElse : tag.directive? "else" with
              | some directive => rw [StartTag.core_of_shaped (by decide) hasElse]; rfl
              | none =>
                  -- Without these four directives the name of the tag decides.
                  have plain : tag.isShaped = false := by
                    refine StartTag.not_isShaped fun name shaping => ?_
                    simp only [StartTag.shapingNames, List.mem_cons, List.not_mem_nil,
                      or_false] at shaping
                    rcases shaping with rfl | rfl | rfl | rfl <;> assumption
                  rw [StartTag.stripped_of_not_isShaped plain]
                  simp only [StartTag.core, plain, Bool.false_eq_true, ↓reduceIte]
                  split
                  · rfl
                  · split <;> rfl

theorem of_ofTag_eq_ok {tag : StartTag} {children : List Node} {span : Span}
    {node : Node} (made : Node.ofTag tag children span = .ok node) :
    ∃ head, tag.loop? = .ok head ∧
      node = ((tag.core children span).inBranch tag.branch? span).inLoop
        head span := by
  rw [ofTag_eq] at made
  cases asked : tag.loop? with
  | error fault =>
      rw [asked] at made
      contradiction
  | ok head =>
      rw [asked] at made
      exact ⟨head, rfl, (Except.ok.inj made).symm⟩

/-! ## Lexemes -/

/-- The node that a lexeme is by itself. -/
def Lexeme.leaf? (lexeme : Lexeme) : Option Node :=
  match lexeme.token with
  | .comment content => some (.comment content lexeme.span)
  | .text content => some (.text content lexeme.span)
  | .interpolation content inner =>
    some (.interpolation ⟨trimmed content, inner⟩ lexeme.span)
  | _ => none

/-- The error of a lexeme that cannot be read. -/
def Lexeme.fault? (lexeme : Lexeme) : Option CompileError :=
  match lexeme.token with
  | .nameless found => some (.unexpectedToken "tag name" found lexeme.span)
  | _ => none

/-- A node with nothing below it, which is no start tag. -/
inductive Node.IsLeaf : Node → Prop where
  | text (content : String) (span : Span) : Node.IsLeaf (.text content span)
  | interpolation (expression : Code) (span : Span) :
      Node.IsLeaf (.interpolation expression span)
  | comment (content : String) (span : Span) : Node.IsLeaf (.comment content span)

theorem Lexeme.isLeaf_of_leaf? {lexeme : Lexeme} {node : Node}
    (isLeaf : lexeme.leaf? = some node) : node.IsLeaf := by
  rcases lexeme with ⟨token, span⟩
  cases token with
  | comment => cases isLeaf; exact .comment _ _
  | text => cases isLeaf; exact .text _ _
  | interpolation => cases isLeaf; exact .interpolation _ _
  | _ => contradiction

/-- Whether a lexeme adds nothing to the tree. -/
def Lexeme.isPassed (lexeme : Lexeme) : Bool :=
  match lexeme.token with
  | .endTag _ => true
  | .declaration => true
  | _ => false

/-- The nodes that a list of lexemes stands for.  The end tag of an element is
passed like one that closes nothing. -/
inductive Nested : List Lexeme → List Node → Prop where
  | nil : Nested [] []
  | passed {lexeme : Lexeme} {rest : List Lexeme} {nodes : List Node} :
      lexeme.isPassed = true → Nested rest nodes → Nested (lexeme :: rest) nodes
  | leaf {lexeme : Lexeme} {rest : List Lexeme} {node : Node} {nodes : List Node} :
      lexeme.leaf? = some node → Nested rest nodes →
        Nested (lexeme :: rest) (node :: nodes)
  | tag {name : String} {attributes : List SourceAttribute} {selfClosing : Bool}
      {span : Span} {stop : Nat} {inner rest : List Lexeme} {children : List Node}
      {node : Node} {nodes : List Node} :
      Nested inner children →
      Node.ofTag (StartTag.ofSource name attributes) children ⟨span.start, stop⟩ =
        .ok node →
      Nested rest nodes →
      Nested (⟨.startTag name attributes selfClosing, span⟩ :: (inner ++ rest))
        (node :: nodes)

theorem Nested.append {left right : List Lexeme} {nodes others : List Node}
    (first : Nested left nodes) (second : Nested right others) :
    Nested (left ++ right) (nodes ++ others) := by
  induction first with
  | nil => exact second
  | passed isPassed _ induction => exact .passed isPassed induction
  | leaf isLeaf _ induction => exact .leaf isLeaf induction
  | tag inner made _ _ induction =>
      rw [List.cons_append, List.append_assoc]
      exact .tag inner made induction

/-- Where reading stops: at the end, or in front of the end tag of an open element. -/
def StopsReading (opened : List String) (rest : List Lexeme) : Prop :=
  rest = [] ∨ ∃ name span after,
    rest = ⟨.endTag name, span⟩ :: after ∧ opened.any (sameTag name) = true

/-- Lexemes are read as nodes up to a rest. -/
def ReadsNested (opened : List String) (given : List Lexeme) (nodes : List Node)
    (rest : List Lexeme) : Prop :=
  StopsReading opened rest ∧ ∃ taken, given = taken ++ rest ∧ Nested taken nodes

theorem ReadsNested.passed {opened : List String} {lexeme : Lexeme}
    {given rest : List Lexeme} {nodes : List Node} (isPassed : lexeme.isPassed = true)
    (reads : ReadsNested opened given nodes rest) :
    ReadsNested opened (lexeme :: given) nodes rest := by
  obtain ⟨stops, taken, rfl, nested⟩ := reads
  exact ⟨stops, lexeme :: taken, rfl, .passed isPassed nested⟩

theorem ReadsNested.leaf {opened : List String} {lexeme : Lexeme}
    {given rest : List Lexeme} {node : Node} {nodes : List Node}
    (isLeaf : lexeme.leaf? = some node) (reads : ReadsNested opened given nodes rest) :
    ReadsNested opened (lexeme :: given) (node :: nodes) rest := by
  obtain ⟨stops, taken, rfl, nested⟩ := reads
  exact ⟨stops, lexeme :: taken, rfl, .leaf isLeaf nested⟩

theorem ReadsNested.tag {opened : List String} {name : String}
    {attributes : List SourceAttribute} {selfClosing : Bool} {span : Span} {stop : Nat}
    {given inner closing behind rest : List Lexeme} {children : List Node}
    {node : Node} {nodes : List Node} (shape : given = inner ++ (closing ++ behind))
    (content : Nested inner children)
    (made : Node.ofTag (StartTag.ofSource name attributes) children
      ⟨span.start, stop⟩ = .ok node)
    (passed : Nested closing []) (reads : ReadsNested opened behind nodes rest) :
    ReadsNested opened (⟨.startTag name attributes selfClosing, span⟩ :: given)
      (node :: nodes) rest := by
  obtain ⟨stops, taken, rfl, nested⟩ := reads
  refine ⟨stops, ⟨.startTag name attributes selfClosing, span⟩ :: (inner ++
    (closing ++ taken)), ?_, .tag content made (passed.append nested)⟩
  simp only [shape, List.cons_append, List.append_assoc]

theorem Reading.close_nested {given : List Lexeme} (name : String)
    (content : Reading given) :
    (content.close name).nodes = content.nodes ∧
      ∃ closing, content.rest = closing ++ (content.close name).rest ∧
        Nested closing [] := by
  unfold Reading.close
  split
  · next closing span after shape =>
    split
    · exact ⟨rfl, [⟨.endTag closing, span⟩], shape, .passed rfl .nil⟩
    · exact ⟨rfl, [], rfl, .nil⟩
  · exact ⟨rfl, [], rfl, .nil⟩

/-- Whatever is read is nested. -/
theorem readNodes_nested (opened : List String) (position : Nat) (given : List Lexeme)
    {reading : Reading given} (read : readNodes opened position given = .ok reading) :
    ReadsNested opened given reading.nodes reading.rest := by
  match given with
  | [] =>
      rw [readNodes] at read
      cases read
      exact ⟨.inl rfl, [], rfl, .nil⟩
  | ⟨.endTag name, span⟩ :: rest =>
      rw [readNodes] at read
      dsimp only at read
      split at read
      · next closes =>
        cases read
        exact ⟨.inr ⟨name, span, rest, rfl, closes⟩, [], rfl, .nil⟩
      · obtain ⟨more, readMore, same⟩ := of_bind_eq_ok read
        cases same
        exact (readNodes_nested opened span.stop rest readMore).passed rfl
  | ⟨.declaration, span⟩ :: rest =>
      rw [readNodes] at read
      obtain ⟨more, readMore, same⟩ := of_bind_eq_ok read
      cases same
      exact (readNodes_nested opened span.stop rest readMore).passed rfl
  | ⟨.comment content, span⟩ :: rest =>
      rw [readNodes] at read
      obtain ⟨more, readMore, same⟩ := of_bind_eq_ok read
      cases same
      exact (readNodes_nested opened span.stop rest readMore).leaf rfl
  | ⟨.text content, span⟩ :: rest =>
      rw [readNodes] at read
      obtain ⟨more, readMore, same⟩ := of_bind_eq_ok read
      cases same
      exact (readNodes_nested opened span.stop rest readMore).leaf rfl
  | ⟨.interpolation content inner, span⟩ :: rest =>
      rw [readNodes] at read
      obtain ⟨more, readMore, same⟩ := of_bind_eq_ok read
      cases same
      exact (readNodes_nested opened span.stop rest readMore).leaf rfl
  | ⟨.nameless found, span⟩ :: rest =>
      rw [readNodes] at read
      contradiction
  | ⟨.startTag name attributes selfClosing, span⟩ :: rest =>
      rw [readNodes] at read
      dsimp only at read
      split at read
      · obtain ⟨node, made, read⟩ := of_bind_eq_ok read
        obtain ⟨more, readMore, same⟩ := of_bind_eq_ok read
        cases same
        exact .tag rfl .nil made .nil (readNodes_nested opened span.stop rest readMore)
      · obtain ⟨content, readContent, read⟩ := of_bind_eq_ok read
        obtain ⟨node, made, read⟩ := of_bind_eq_ok read
        obtain ⟨more, readMore, same⟩ := of_bind_eq_ok read
        cases same
        obtain ⟨_, inner, splitInner, nestedInner⟩ :=
          readNodes_nested (name :: opened) span.stop rest readContent
        obtain ⟨sameNodes, closing, splitClosing, nestedClosing⟩ :=
          content.close_nested name
        have shorter : (content.close name).rest.length ≤ rest.length :=
          (content.close name).rest_le
        -- The rest behind the element is shorter than what was given, also if the
        -- element is closed by the end tag of an outer one.
        have later := readNodes_nested opened (content.close name).position
          (content.close name).rest readMore
        rw [sameNodes] at made
        have shape := splitInner.trans (congrArg (inner ++ ·) splitClosing)
        exact .tag shape nestedInner made nestedClosing later
termination_by given.length
decreasing_by
  all_goals simp only [List.length_cons]
  all_goals omega

/-- The lexemes of a template nest as its nodes. -/
theorem ofText_nested {source : String} {tree : Tree}
    (read : Tree.ofText source = .ok tree) :
    Nested (lexemes (Cursor.start source)) tree.children := by
  obtain ⟨reading, readAll, same⟩ := of_bind_eq_ok read
  cases same
  obtain ⟨stops, taken, split, nested⟩ := readNodes_nested [] 0 _ readAll
  rcases stops with ended | ⟨name, span, after, _, closes⟩
  · rw [ended, List.append_nil] at split
    exact split ▸ nested
  · contradiction

/-! ## Start tags -/

/-- A start tag, and the position in the source where it starts. -/
structure OpenedTag where
  tag : StartTag
  start : Nat
deriving DecidableEq, Repr

def Lexeme.opened? (lexeme : Lexeme) : Option OpenedTag :=
  match lexeme.token with
  | .startTag name attributes _ =>
    some ⟨StartTag.ofSource name attributes, lexeme.span.start⟩
  | _ => none

theorem Lexeme.opened?_of_leaf? {lexeme : Lexeme} {node : Node}
    (isLeaf : lexeme.leaf? = some node) : lexeme.opened? = none := by
  rcases lexeme with ⟨token, span⟩
  cases token with
  | startTag => contradiction
  | _ => rfl

theorem Lexeme.opened?_of_isPassed {lexeme : Lexeme}
    (isPassed : lexeme.isPassed = true) : lexeme.opened? = none := by
  rcases lexeme with ⟨token, span⟩
  cases token with
  | startTag => contradiction
  | _ => rfl

/-- The start tags of a template, in the order of the source. -/
def startTags (source : String) : List OpenedTag :=
  (lexemes (Cursor.start source)).filterMap Lexeme.opened?

theorem Lexeme.start_of_opened? {lexeme : Lexeme} {opened : OpenedTag}
    (opens : lexeme.opened? = some opened) : opened.start = lexeme.span.start := by
  rcases lexeme with ⟨token, span⟩
  cases token with
  | startTag name attributes selfClosing =>
      cases opens
      rfl
  | _ => contradiction

theorem startTags_increasing (source : String) :
    (startTags source).Pairwise (·.start < ·.start) := by
  refine List.Pairwise.filterMap _ ?_ (lexemes_increasing (Cursor.start source)).2
  intro first second before opened opens other opensOther
  rw [Lexeme.start_of_opened? opens, Lexeme.start_of_opened? opensOther]
  exact before

end VuePrecompiler.Template
