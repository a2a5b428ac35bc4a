import Mathlib.Data.List.Forall2
import Mathlib.Data.List.ReduceOption
import VuePrecompiler.Proofs.ConvertibleBindings
import VuePrecompiler.Proofs.TemplateSteps

/-!
# Rewriting touches the converted bindings only

The edits of a module replace the spans of convertible bindings, which lie
apart from each other.  So they can always be applied, and all of the code
outside of the converted bindings stays as it is.
-/

namespace VuePrecompiler.Build

open Files Source Binding Javascript

/-- Every tree that the parser of a workshop gives for a text is spanned in it. -/
def ParsesSpanned (shop : Workshop) (code : String) : Prop :=
  ∀ program, shop.parse code = .ok program →
    program.tree.isSpannedIn code.toList = true

theorem bindingsOf_cover {shop : Workshop} {code : String}
    (spanned : ParsesSpanned shop code)
    {found : Found} (member : found ∈ bindingsOf shop code)
    (convertible : found.isConvertible = true) :
    coversIn code.toList found.replaced = true := by
  unfold bindingsOf at member
  split at member
  · next program parsed =>
    exact (Found.inTree_within program.tree (spanned program parsed)
      member convertible).covers
  · contradiction

theorem bindingsOf_apart {shop : Workshop} {code : String}
    (spanned : ParsesSpanned shop code) :
    ((bindingsOf shop code).filter Found.isConvertible).Pairwise Found.Apart := by
  unfold bindingsOf
  split
  · next program parsed =>
      exact Found.inTree_apart program.tree (spanned program parsed)
  · exact List.Pairwise.nil

/-- What is written in the place of a binding: the name `render`, and a call of
`require` with a literal. -/
def WrittenFor (found : Found) (edit : Option Edit) : Prop :=
  ∀ placed, edit = some placed →
    found.isConvertible = true ∧ placed.span = found.replaced ∧
      ∃ specifier quote, placed.replacement =
        "render" ++ found.form.operator ++ "require(" ++
          Javascript.quote specifier quote ++ ")"

theorem Replaces.writtenFor {shop : Workshop} {site : RequireSite} {found : Found}
    {state after : TemplateState} {edit : Option Edit}
    (replaces : Replaces shop site found state (.ok edit, after)) :
    WrittenFor found edit := by
  intro placed isPlaced
  cases replaces with
  | left diagnostic => contradiction
  | @replaced call _ render _ require =>
      obtain rfl := Option.some.inj isPlaced
      exact ⟨by rw [Found.isConvertible, require]; rfl, rfl,
        Path.specifierFrom site.file.folder render, call.specifier.quote, rfl⟩

theorem ReplacesEach.writtenFor {shop : Workshop} {site : RequireSite}
    {found : List Found} {state after : TemplateState} {edits : List (Option Edit)}
    (replaces : ReplacesEach shop site state found (.ok edits, after)) :
    List.Forall₂ WrittenFor found edits := by
  generalize outcome : (Except.ok edits, after) = treated at replaces
  induction replaces generalizing edits with
  | done state =>
      obtain ⟨rfl, rfl⟩ := Prod.mk.inj outcome |>.imp_left Except.ok.inj
      exact .nil
  | failed => simp at outcome
  | failedLater => simp at outcome
  | next first rest induction =>
      obtain ⟨rfl, rfl⟩ := Prod.mk.inj outcome |>.imp_left Except.ok.inj
      exact .cons first.writtenFor (induction rfl)

theorem Replaces.not_conflicting {shop : Workshop} {site : RequireSite} {found : Found}
    {state after : TemplateState} {file : Path} {error : EditError} :
    ¬ Replaces shop site found state (.error (.conflicting file error), after) := by
  intro replaces
  contradiction

/-- The edits are put in place after all bindings were treated; no treatment
complains of them. -/
theorem ReplacesEach.not_conflicting {shop : Workshop} {site : RequireSite}
    {found : List Found} {state after : TemplateState} {file : Path}
    {error : EditError} :
    ¬ ReplacesEach shop site state found
      (.error (.conflicting file error), after) := by
  intro replaces
  generalize outcome :
    (Except.error (TaskError.conflicting file error), after) = treated at replaces
  induction replaces with
  | done => simp at outcome
  | next => simp at outcome
  | failed first =>
      obtain ⟨rfl, rfl⟩ := Prod.mk.inj outcome |>.imp_left Except.error.inj
      exact first.not_conflicting
  | failedLater _ _ induction =>
      obtain ⟨rfl, rfl⟩ := Prod.mk.inj outcome |>.imp_left Except.error.inj
      exact induction rfl

/-- The replaced spans are spans of convertible bindings, in their order. -/
theorem spans_sublist {found : List Found} {edits : List (Option Edit)}
    (written : List.Forall₂ WrittenFor found edits) :
    (edits.reduceOption.map Edit.span).Sublist
      ((found.filter Found.isConvertible).map Found.replaced) := by
  induction written with
  | nil => exact List.Sublist.slnil
  | @cons first edit rest edits isWritten _ induction =>
      cases edit with
      | none =>
          rw [List.reduceOption_cons_of_none]
          refine induction.trans (List.Sublist.map _ ?_)
          exact (List.sublist_cons_self first rest).filter _
      | some placed =>
          obtain ⟨convertible, span, _⟩ := isWritten placed rfl
          rw [List.reduceOption_cons_of_some, List.filter_cons_of_pos convertible]
          simp only [List.map_cons, span]
          exact induction.cons_cons _

/-- The edits of a module lie in it and apart from each other. -/
theorem edits_applicable {shop : Workshop} {code : String} {edits : List (Option Edit)}
    (spanned : ParsesSpanned shop code)
    (written : List.Forall₂ WrittenFor (bindingsOf shop code) edits) :
    (∀ edit ∈ edits.reduceOption, edit.LiesIn code.toList) ∧
      edits.reduceOption.Pairwise Edit.Apart := by
  have spans := spans_sublist written
  constructor
  · intro edit member
    obtain ⟨found, isFound, span⟩ :=
      List.mem_map.mp (spans.mem (List.mem_map_of_mem (f := Edit.span) member))
    obtain ⟨isBinding, convertible⟩ := List.mem_filter.mp isFound
    have covers := bindingsOf_cover spanned isBinding convertible
    rw [span] at covers
    obtain ⟨whole, start, stop⟩ := coversIn_iff.mp covers
    exact ⟨whole, start, stop⟩
  · have apart :
        ((bindingsOf shop code).filter Found.isConvertible
          |>.map Found.replaced).Pairwise
          fun left right => left.overlaps right = false :=
      List.pairwise_map.mpr (bindingsOf_apart spanned)
    have placedApart : (edits.reduceOption.map Edit.span).Pairwise
        fun left right => left.overlaps right = false := apart.sublist spans
    rw [List.pairwise_map] at placedApart
    exact placedApart

/-- The code of a module with bindings comes to `result`: some of the convertible
bindings are written anew, and everything between them is kept. -/
structure TouchesOnly (code : String) (bindings : List Found)
    (edits : List (Option Edit)) (result : String) : Prop where
  written : List.Forall₂ WrittenFor bindings edits
  spliced : ∃ sorted : List Edit, sorted.Perm edits.reduceOption ∧
    Spliced 0 code.toList sorted result.toList

theorem TouchesOnly.unchanged {code result : String} {bindings : List Found}
    {edits : List (Option Edit)} (touches : TouchesOnly code bindings edits result)
    (noneConvertible : bindings.filter Found.isConvertible = []) : result = code := by
  have spans := spans_sublist touches.written
  rw [noneConvertible, List.map_nil, List.sublist_nil, List.map_eq_nil_iff] at spans
  obtain ⟨sorted, permuted, spliced⟩ := touches.spliced
  rw [spans, List.perm_nil] at permuted
  rw [permuted] at spliced
  exact String.toList_inj.mp spliced.eq_of_nil

/-- The edits for the bindings of a module are put in place, whatever they are. -/
theorem applyAll_touchesOnly {shop : Workshop} {code : String}
    {edits : List (Option Edit)} (spanned : ParsesSpanned shop code)
    (written : List.Forall₂ WrittenFor (bindingsOf shop code) edits) :
    ∃ result, Edit.applyAll edits.reduceOption code = .ok result ∧
      TouchesOnly code (bindingsOf shop code) edits result := by
  obtain ⟨inside, apart⟩ := edits_applicable spanned written
  obtain ⟨result, applied, spliced⟩ := Edit.applyAll_spliced inside apart
  exact ⟨result, applied, written, _, List.mergeSort_perm _ _, spliced⟩

/-- What the treatments of the bindings of a module come to, one for each. -/
def TreatedAs (shop : Workshop) (file : Path) (code : String) (state : TemplateState)
    (edits : List (Option Edit)) (after : TemplateState) : Prop :=
  ∃ root, state.sourceRoot = some root ∧
    Step.outcome ((bindingsOf shop code).mapM (replacement? shop ⟨file, root⟩)) state =
      (.ok edits, after)

theorem TreatedAs.writtenFor {shop : Workshop} {file : Path} {code : String}
    {state after : TemplateState} {edits : List (Option Edit)}
    (treated : TreatedAs shop file code state edits after) :
    List.Forall₂ WrittenFor (bindingsOf shop code) edits := by
  obtain ⟨root, _, outcome⟩ := treated
  have replaces := replacesEach_mapM shop ⟨file, root⟩ (bindingsOf shop code) state
  rw [outcome] at replaces
  exact replaces.writtenFor

theorem Rewrites.not_conflicting {shop : Workshop} {file named : Path} {code : String}
    {state after : TemplateState} {error : EditError}
    (spanned : ParsesSpanned shop code) :
    ¬ Rewrites shop file code state (.error (.conflicting named error), after) := by
  intro rewrites
  generalize outcome :
    (Except.error (TaskError.conflicting named error), after) = result at rewrites
  cases rewrites with
  | unparsed => simp at outcome
  | unbound => simp at outcome
  | unconfigured => simp at outcome
  | rewritten => simp at outcome
  | @failed root _ _ known failed =>
      obtain ⟨rfl, rfl⟩ := Prod.mk.inj outcome |>.imp_left Except.error.inj
      have replaces := replacesEach_mapM shop ⟨file, root⟩ (bindingsOf shop code) state
      rw [failed] at replaces
      exact replaces.not_conflicting
  | conflicting known treated refused =>
      obtain ⟨result, applied, _⟩ :=
        applyAll_touchesOnly spanned (TreatedAs.writtenFor ⟨_, known, treated⟩)
      rw [applied] at refused
      contradiction

/-- A conversion that succeeds leaves the code as it is, or treats
all of the bindings. -/
theorem Rewrites.touchesOnly {shop : Workshop} {file : Path} {code result : String}
    {state after : TemplateState} (spanned : ParsesSpanned shop code)
    (rewrites : Rewrites shop file code state (.ok result, after)) :
    bindingsOf shop code = [] ∧ result = code ∨
      ∃ edits, TreatedAs shop file code state edits after ∧
        TouchesOnly code (bindingsOf shop code) edits result := by
  generalize outcome : (Except.ok result, after) = converted at rewrites
  cases rewrites with
  | unparsed _ unbound =>
      obtain ⟨rfl, rfl⟩ := Prod.mk.inj outcome |>.imp_left Except.ok.inj
      exact Or.inl ⟨unbound, rfl⟩
  | unbound unbound =>
      obtain ⟨rfl, rfl⟩ := Prod.mk.inj outcome |>.imp_left Except.ok.inj
      exact Or.inl ⟨unbound, rfl⟩
  | unconfigured => simp at outcome
  | failed => simp at outcome
  | conflicting => simp at outcome
  | @rewritten root edits _ _ known treated applied =>
      obtain ⟨rfl, rfl⟩ := Prod.mk.inj outcome |>.imp_left Except.ok.inj
      have treatedAs : TreatedAs shop file code state edits after :=
        ⟨root, known, treated⟩
      obtain ⟨spliced, alsoApplied, touches⟩ :=
        applyAll_touchesOnly spanned treatedAs.writtenFor
      rw [applied] at alsoApplied
      obtain rfl := Except.ok.inj alsoApplied
      exact Or.inr ⟨edits, treatedAs, touches⟩

/-- A read module, once it went through a build: a dependency stays as it
is, and in a module of one's own the converted bindings are written anew
and nothing else. -/
structure ReadModule (shop : Workshop) (task done : Task)
    (state after : TemplateState) : Prop where
  dependency : task.isDependency = true → done = task
  others : done = { task with code := done.code }
  unconvertible : (bindingsOf shop task.code).filter Found.isConvertible = [] →
    done.code = task.code
  touches : task.isDependency = false → bindingsOf shop task.code ≠ [] →
    ∃ edits, TreatedAs shop task.file task.code state edits after ∧
      TouchesOnly task.code (bindingsOf shop task.code) edits done.code

theorem Converts.readModule {shop : Workshop} {task done : Task} {result : Outcome}
    {state after : TemplateState} (spanned : ParsesSpanned shop task.code)
    (isRead : task.phase = .read)
    (converts : Converts shop task state (.ok (done, result), after)) :
    ReadModule shop task done state after := by
  generalize outcome : (Except.ok (done, result), after) = converted at converts
  cases converts with
  | configured isConfigured =>
      rw [isRead] at isConfigured
      contradiction
  | failed => simp at outcome
  | ignored _ dependency =>
      obtain ⟨same, rfl⟩ := Prod.mk.inj outcome
      obtain ⟨rfl, rfl⟩ := Prod.mk.inj (Except.ok.inj same)
      refine ⟨fun _ => rfl, rfl, fun _ => rfl, ?_⟩
      intro own
      rw [dependency isRead] at own
      contradiction
  | @rewritten code _ _ own rewrites =>
      obtain ⟨same, rfl⟩ := Prod.mk.inj outcome
      obtain ⟨rfl, rfl⟩ := Prod.mk.inj (Except.ok.inj same)
      refine ⟨?_, rfl, ?_, ?_⟩
      · intro isDependency
        rw [isDependency] at own
        contradiction
      · intro noneConvertible
        rcases rewrites.touchesOnly spanned with ⟨_, unchanged⟩ | ⟨edits, _, touches⟩
        · exact unchanged
        · exact touches.unchanged noneConvertible
      · intro _ bound
        exact (rewrites.touchesOnly spanned).resolve_left fun unbound =>
          bound unbound.1

theorem Converts.not_conflicting {shop : Workshop} {task : Task}
    {state after : TemplateState} {file : Path} {error : EditError}
    (spanned : ParsesSpanned shop task.code) :
    ¬ Converts shop task state (.error (.conflicting file error), after) := by
  intro converts
  cases converts with
  | failed _ _ rewrites => exact rewrites.not_conflicting spanned

namespace Pipeline

/-- The spans of the convertible bindings lie in the code and apart from each
other, so no task fails because of them, and a read module changes in the
converted bindings only. -/
theorem perform_touches_convertible_only {shop : Workshop} {pipeline : Pipeline}
    {task : Task} (spanned : ParsesSpanned shop task.code) :
    (∀ found ∈ bindingsOf shop task.code, found.isConvertible = true →
      coversIn task.code.toList found.replaced = true) ∧
    ((bindingsOf shop task.code).filter Found.isConvertible).Pairwise Found.Apart ∧
    (∀ file error after,
      pipeline.perform shop task ≠ (.error (.conflicting file error), after)) ∧
    (task.phase = .read → ∀ done outcome after,
      pipeline.perform shop task = (.ok (done, outcome), after) →
        ReadModule shop task done pipeline.templates after.templates) := by
  refine ⟨?_, bindingsOf_apart spanned, ?_, ?_⟩
  · intro found member convertible
    exact bindingsOf_cover spanned member convertible
  · intro file error after failed
    have handedSpanned : ParsesSpanned shop (pipeline.handed task).code := by
      rw [handed_code]
      exact spanned
    have converts :=
      convertTemplates_converts shop (pipeline.handed task) pipeline.templates
    rw [of_perform_eq_error failed] at converts
    exact converts.not_conflicting handedSpanned
  · intro isRead done outcome after succeeded
    obtain ⟨second, converted, _⟩ := of_perform_eq_ok succeeded
    rw [handed_of_ne_built (by simp [isRead])] at converted
    have converts := convertTemplates_converts shop task pipeline.templates
    rw [converted] at converts
    exact converts.readModule spanned isRead

/-- A module with a marked binding in the object of another one. -/
def nestedBindings : String :=
  "/*@coolievue*/f(/*@coolievue*/template=require('./a.html')).template=require('./b.html')"

/-- The program that `nestedBindings` is. -/
def nestedProgram : Program :=
  let require (start : Nat) (raw : String) : Tree :=
    .node (.call false) ⟨start, start + 19⟩
      [.node (.identifier "require" 0) ⟨start, start + 7⟩ [],
        .node (.string raw) ⟨start + 8, start + 18⟩ []]
  let inner : Tree := .node (.assign "=") ⟨30, 58⟩
    [.node (.identifier "template" 0) ⟨30, 38⟩ [], require 39 "'./a.html'"]
  let object : Tree :=
    .node (.call false) ⟨14, 59⟩ [.node (.identifier "f" 0) ⟨14, 15⟩ [], inner]
  let outer : Tree := .node (.assign "=") ⟨14, 88⟩
    [.node (.member false) ⟨14, 68⟩ [object,
      .node (.propertyName "template") ⟨60, 68⟩ []], require 69 "'./b.html'"]
  ⟨.node (.program false) ⟨0, 88⟩ [.node .expressionStatement ⟨14, 88⟩ [outer]],
    [⟨"@coolievue", ⟨0, 14⟩, false⟩, ⟨"@coolievue", ⟨16, 30⟩, false⟩]⟩

/-- A workshop that reads `nestedBindings`. -/
def nestedShop : Workshop where
  disk :=
    ⟨⟨"/"⟩, [([.root, .named "a.html"], .text "A"),
      ([.root, .named "b.html"], .text "B")], []⟩
  parse := fun _ => .ok nestedProgram
  compile := fun template => .ok ("return " ++ template)
  adapt := fun script => .ok script
  id := fun count => String.ofList (List.replicate count 'x')

/-- The module with `nestedBindings` was read. -/
def nestedTask : Task := ⟨.read, ⟨"/main.js"⟩, nestedBindings, false, none⟩

/-- Both of two nested bindings can be converted, and their edits never conflict. -/
theorem nested_bindings_apart :
    ParsesSpanned nestedShop nestedTask.code ∧
      (bindingsOf nestedShop nestedTask.code).map (fun found =>
        (found.isConvertible, found.replaced)) = [(true, ⟨60, 88⟩), (true, ⟨30, 58⟩)] ∧
      ((bindingsOf nestedShop nestedTask.code).filter Found.isConvertible).Pairwise
        Found.Apart ∧
      ∀ file error after,
        start.perform nestedShop nestedTask ≠
          (.error (.conflicting file error), after) := by
  have spanned : ParsesSpanned nestedShop nestedTask.code := by
    intro program parsed
    obtain rfl := Except.ok.inj parsed
    decide +kernel
  obtain ⟨_, apart, applicable, _⟩ :=
    @perform_touches_convertible_only nestedShop start nestedTask spanned
  exact ⟨spanned, by decide +kernel, apart, applicable⟩

end Pipeline

end VuePrecompiler.Build
