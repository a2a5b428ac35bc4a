import VuePrecompiler.Proofs.LocatedSpecifiers
import VuePrecompiler.Proofs.Plans
import VuePrecompiler.Proofs.Registration

/-!
# Canonical paths

Two paths are the same location if their parts come to the same when something
is cancelled in either of them, in any order.  The normal form tells exactly
which paths those are, and it may be taken before or after a path is continued.
So a template has one id, and one render module, however it is required.
-/

namespace VuePrecompiler.Files

open Text

/-! ## Parts that have settled -/

theorem normalParts_of_cancels {left right : List Part}
    (cancels : Cancels left right) : normalParts left = normalParts right := by
  cases cancels with
  | current before after =>
      rw [normalParts_append, normalParts_append]
      rfl
  | name before after name =>
      rw [normalParts_append, normalParts_append]
      rfl
  | aboveRoot after => rfl

theorem normalParts_of_eqvGen {left right : List Part}
    (same : Relation.EqvGen Cancels left right) :
    normalParts left = normalParts right := by
  induction same with
  | rel _ _ cancels => exact normalParts_of_cancels cancels
  | refl => rfl
  | symm _ _ _ induction => exact induction.symm
  | trans _ _ _ _ _ first second => exact first.trans second

theorem normalParts_stem (stem : Stem) : normalParts stem.parts = stem.parts := by
  cases stem with
  | root => rfl
  | up count =>
      induction count with
      | zero => rfl
      | succ count induction =>
          have parts :
              (Stem.up (count + 1)).parts = (Stem.up count).parts ++ [.parent] :=
            List.replicate_succ'
          rw [parts, normalParts_append, induction, Stem.reverse_parts,
            List.foldl_cons, Stem.settle_parent, List.foldl_nil,
            Stem.reverse_parts, ← parts]
          rfl

theorem IsInner.denotes {part : Part} (inner : IsInner part) :
    Part.ofSegment? part.text = some part := by
  rcases inner with rfl | ⟨name, isName, rfl⟩
  · rfl
  · exact isName.denotes

theorem IsInner.plain {part : Part} (inner : IsInner part) : '/' ∉ part.text := by
  rcases inner with rfl | ⟨name, isName, rfl⟩
  · decide
  · exact isName.plain

/-- Parts other than the root and dots are found again in the path
that is made of them. -/
theorem parts_ofParts_of_inner {parts : List Part}
    (inner : ∀ part ∈ parts, IsInner part) : (Path.ofParts parts).parts = parts := by
  cases parts with
  | nil => rfl
  | cons first later =>
      have firstInner := inner first List.mem_cons_self
      have made : Path.ofParts (first :: later) =
          ⟨String.ofList (Path.joinSlash ((first :: later).map Part.text))⟩ := by
        rcases firstInner with rfl | ⟨name, _, rfl⟩ <;> rfl
      have plain : Plain ((first :: later).map Part.text) := by
        intro segment member
        obtain ⟨part, isPart, rfl⟩ := List.mem_map.mp member
        exact (inner part isPart).plain
      have loud : first.text ≠ [] :=
        Path.ne_nil_of_isSome_ofSegment? (by rw [firstInner.denotes]; rfl)
      have noDot : first.text ≠ ['.'] := by
        intro dot
        have denotes := firstInner.denotes
        rw [dot] at denotes
        contradiction
      have relative : (Path.ofParts (first :: later)).isAbsolute = false := by
        rw [made]
        refine Path.isAbsolute_joinSlash plain fun text isFirst => ?_
        rw [List.map_cons, List.head?_cons, Option.some_inj] at isFirst
        exact isFirst ▸ loud
      have segments : (Path.ofParts (first :: later)).segments =
          first.text :: later.map Part.text := by
        rw [made]
        exact Path.segments_ofSegments (List.cons_ne_nil _ _) plain
      have laterDenote : (later.map Part.text).filterMap Part.ofSegment? = later := by
        rw [List.filterMap_map]
        refine (List.filterMap_congr fun part member => ?_).trans List.filterMap_some
        exact (inner part (List.mem_cons_of_mem _ member)).denotes
      rw [Path.parts, segments]
      simp only [relative, noDot, laterDenote, firstInner.denotes, Bool.false_eq_true,
        ↓reduceIte, Option.toList_some, List.singleton_append]

/-- The parts of a normal form are found again in the path that is made of them. -/
theorem parts_ofParts (stem : Stem) {names : List String}
    (areNames : ∀ name ∈ names, IsName name) :
    (Path.ofParts (stem.parts ++ namedParts names)).parts =
      stem.parts ++ namedParts names := by
  cases stem with
  | root => exact (Path.standsAt_ofParts areNames).parts
  | up count =>
      have inner : ∀ part ∈ (Stem.up count).parts ++ namedParts names,
          IsInner part := by
        intro part member
        rcases List.mem_append.mp member with isUp | isNamed
        · exact .inl (List.eq_of_mem_replicate isUp)
        · obtain ⟨name, isName, rfl⟩ := List.mem_map.mp isNamed
          exact .inr ⟨name, areNames name isName, rfl⟩
      exact parts_ofParts_of_inner inner

namespace Path

variable (path : Path)

theorem parts_normalized : path.normalized.parts = normalParts path.parts := by
  obtain ⟨stem, names, _, areNames, shape, _⟩ := exists_normalParts path
  rw [normalized, shape]
  exact parts_ofParts stem areNames

theorem normalParts_normalized :
    normalParts path.normalized.parts = normalParts path.parts := by
  obtain ⟨stem, names, _, _, shape, _⟩ := exists_normalParts path
  rw [parts_normalized, shape, normalParts_append_named, normalParts_stem]

theorem normalized_normalized : path.normalized.normalized = path.normalized := by
  rw [normalized, normalParts_normalized]
  rfl

/-- A normal path: no dot is left in it, no step up behind the root, and steps up
only at the front otherwise. -/
structure IsNormal : Prop where
  noCurrent : .current ∉ path.parts
  noParent : path.isAbsolute = true → .parent ∉ path.parts
  parentsFirst : path.isAbsolute = false →
    ∃ count names, path.parts = List.replicate count .parent ++ namedParts names

theorem isAbsolute_normalized : path.normalized.isAbsolute = path.isAbsolute := by
  obtain ⟨stem, names, kind, _, shape, _⟩ := exists_normalParts path
  have parts := path.parts_normalized.trans shape
  rw [← kind]
  cases stem with
  | root => exact isAbsolute_of_parts parts
  | up count =>
      rw [Stem.isRoot, Bool.eq_false_iff]
      intro absolute
      have member : .root ∈ (Stem.up count).parts ++ namedParts names := by
        rw [← parts, parts_eq_root_cons absolute]
        exact List.mem_cons_self
      simp [Stem.parts, namedParts] at member

theorem isNormal_normalized : path.normalized.IsNormal := by
  obtain ⟨stem, names, kind, _, shape, _⟩ := exists_normalParts path
  have parts := path.parts_normalized.trans shape
  refine ⟨?_, ?_, ?_⟩
  · rw [parts]
    cases stem <;> simp [Stem.parts, namedParts]
  · intro absolute
    rw [isAbsolute_normalized, ← kind] at absolute
    rw [parts]
    cases stem with
    | root => simp [Stem.parts, namedParts]
    | up count => contradiction
  · intro relative
    rw [isAbsolute_normalized, ← kind] at relative
    cases stem with
    | root => contradiction
    | up count => exact ⟨count, names, parts⟩

/-! ## Continued paths -/

variable {path}

theorem normalParts_eq_inner (path : Path) : normalParts path.parts =
    normalParts ((if path.isAbsolute then [.root] else []) ++
      innerParts path.text.toList) := by
  by_cases absolute : path.isAbsolute = true
  · rw [if_pos absolute, parts_eq_root_cons absolute, List.singleton_append]
  · rw [if_neg absolute, List.nil_append]
    exact normalParts_relative (Bool.eq_false_iff.mpr absolute)

/-- What continues a path settles onto its parts. -/
theorem normalParts_join {tail : Path} (relative : tail.isAbsolute = false) :
    normalParts (path.join tail).parts =
      normalParts (path.parts ++ innerParts tail.text.toList) := by
  rw [normalParts_eq_inner, isAbsolute_join_of_relative relative,
    innerParts_join relative, ← List.append_assoc, normalParts_append,
    ← normalParts_eq_inner, ← normalParts_append]

/-- A path may be brought to its normal form before it is continued. -/
theorem normalized_join {tail : Path} (relative : tail.isAbsolute = false) :
    (path.join tail).normalized = (path.normalized.join tail).normalized := by
  rw [normalized, normalParts_join relative, normalParts_append,
    ← normalParts_normalized, ← normalParts_append, ← normalParts_join relative]
  rfl

/-! ## The same location -/

/-- Two paths are lexically the same location: their parts come to the
same by cancelling. -/
def SameLocation (left right : Path) : Prop :=
  Relation.EqvGen Cancels left.parts right.parts

/-- The normal form of a path tells its location, and nothing else. -/
theorem normalized_eq_iff {left right : Path} :
    left.normalized = right.normalized ↔ left.SameLocation right := by
  constructor
  · intro same
    have settles (path : Path) :
        Relation.EqvGen Cancels path.parts path.normalized.parts := by
      obtain ⟨_, _, _, _, _, cancels⟩ := exists_normalParts path
      rw [parts_normalized]
      exact Relation.EqvGen.reflTransGen_le_eqvGen _ _ _ cancels
    have fromRight := settles right
    rw [← same] at fromRight
    exact (settles left).trans _ _ _ fromRight.symm
  · intro same
    rw [normalized, normalized, normalParts_of_eqvGen same]

end Path

end VuePrecompiler.Files

namespace VuePrecompiler.Build

open Files Source Binding Step

/-! ## Templates and their ids -/

/-- The path that a specifier means, as it is written. -/
def meant (specifier : String) (site : RequireSite) : Path :=
  match Start.ofText specifier with
  | .sourceRoot => site.sourceRoot.join ⟨String.ofList specifier.toList.tail⟩
  | start => (start.path site).join ⟨specifier⟩

theorem locate_eq_normalized (specifier : String) (site : RequireSite) :
    locate specifier site = (meant specifier site).normalized := by
  unfold locate meant
  by_cases relative : isRelative specifier = true
  · rw [if_pos relative, isRelative_iff.mp relative]
    rfl
  · rw [if_neg relative]
    split
    · next rooted shape =>
      rw [Start.ofText_eq_sourceRoot_iff.mpr ⟨rooted, shape⟩, shape]
      rfl
    · next notRooted =>
      rw [ofText_bare relative notRooted]
      rfl

/-- The states that the treatment of bindings and of whole tasks leads to,
whatever is on the disk by then. -/
inductive LeadsTo (shop : Workshop) (start : TemplateState) :
    TemplateState → Prop where
  | here : LeadsTo shop start start
  | binding {state : TemplateState} (disk : Snapshot) (site : RequireSite)
      (found : Found) :
      LeadsTo shop start state →
      LeadsTo shop start (outcome (replacement? { shop with disk } site found) state).2
  | task {pipeline : Pipeline} (disk : Snapshot) (task : Task) :
      LeadsTo shop start pipeline.templates →
      LeadsTo shop start (pipeline.perform { shop with disk } task).2.templates

/-- What is known stays known in every step. -/
theorem kept_isKnownIn (shop : Workshop) (state : TemplateState) :
    Kept shop (TemplateState.IsKnownIn state) := by
  refine ⟨⟨fun _ _ _ known => known, ?_⟩, fun _ _ known => known,
    fun _ _ known => known⟩
  intro later template text function unknown read rendered known other render before
  rw [TemplateState.lookup_registered, known other render before]
  rfl

theorem LeadsTo.isKnownIn {shop : Workshop} {start state : TemplateState}
    (leads : LeadsTo shop start state) : start.IsKnownIn state := by
  induction leads with
  | here => exact fun _ _ known => known
  | binding disk site found _ known =>
      exact (replacement?_replaces { shop with disk } site found _).keeps
        (kept_isKnownIn { shop with disk } start).toKeptByBindings known
  | task disk task _ known =>
      exact Pipeline.perform_keeps (kept_isKnownIn { shop with disk } start) _
        task known

/-- A binding that can be converted: it requires a template. -/
def RequiresTemplate (disk : Snapshot) (site : RequireSite) (found : Found)
    (call : RequireCall) :
    Prop :=
  found.require = some call ∧ ∃ resolved, resolved.isTemplate = true ∧
    resolve disk call.specifier.value (call.qualifier.map (·.value)) site =
      .ok resolved

/-- What is converted requires a template, whose render module is
known from then on. -/
theorem of_outcome_eq_some {shop : Workshop} {site : RequireSite} {found : Found}
    {state after : TemplateState} {edit : Edit}
    (converted : outcome (replacement? shop site found) state =
      (.ok (some edit), after)) :
    ∃ call render, RequiresTemplate shop.disk site found call ∧
      edit = editOf site found call render ∧
      after.compiled.lookup (locate call.specifier.value site) = some render := by
  have replaces := replacement?_replaces shop site found state
  rw [converted] at replaces
  cases replaces with
  | @replaced call resolved render after require resolution isTemplate renders =>
      refine ⟨call, render, ⟨require, resolved, isTemplate, resolution⟩, rfl, ?_⟩
      rw [← (of_resolve_eq_ok resolution).1]
      cases renders with
      | known lookup => exact lookup
      | compiled unknown _ _ =>
          rw [TemplateState.lookup_registered, unknown, if_pos rfl]
          rfl

/-- A binding of a known template requires the render module that there is already. -/
theorem outcome_of_known {shop : Workshop} {site : RequireSite} {found : Found}
    {call : RequireCall} {state : TemplateState} {render : Path}
    (requires : RequiresTemplate shop.disk site found call)
    (known : state.compiled.lookup (locate call.specifier.value site) = some render) :
    outcome (replacement? shop site found) state =
      (.ok (some (editOf site found call render)), state) := by
  obtain ⟨require, resolved, isTemplate, resolution⟩ := requires
  rw [← (of_resolve_eq_ok resolution).1] at known
  have rendered : outcome (renderModule? shop site found resolved.path) state =
      (.ok (some render), state) := by
    rw [renderModule?, outcome_get_bind, known]
    rfl
  rw [outcome_replacement?_of_template require resolution isTemplate, rendered]
  rfl

/-- The normal form of a path is canonical: it cancels all that can be cancelled,
it tells the location of the path and nothing else, and it may be taken before or
after the path is continued. So specifiers that mean the same location have one
template id, and share the render module that is made for the first of them. -/
theorem normalized_isCanonical (path : Path) :
    path.normalized.IsNormal ∧ path.normalized.normalized = path.normalized ∧
    path.normalized.isAbsolute = path.isAbsolute ∧
    (∀ tail : Path, tail.isAbsolute = false →
      (path.join tail).normalized = (path.normalized.join tail).normalized) ∧
    (∀ other : Path, path.normalized = other.normalized ↔ path.SameLocation other) ∧
    (∀ specifier site, path.SameLocation (meant specifier site) ↔
      locate specifier site = path.normalized) ∧
    ∀ shop site found state edit after,
      outcome (replacement? shop site found) state = (.ok (some edit), after) →
      ∃ call render, found.require = some call ∧ edit = editOf site found call render ∧
        (path.SameLocation (meant call.specifier.value site) →
          ∀ later, LeadsTo shop after later → ∀ disk otherSite other otherCall,
            RequiresTemplate disk otherSite other otherCall →
            path.SameLocation (meant otherCall.specifier.value otherSite) →
            outcome (replacement? { shop with disk } otherSite other) later =
              (.ok (some (editOf otherSite other otherCall render)), later)) := by
  have isId (specifier site) : path.SameLocation (meant specifier site) ↔
      locate specifier site = path.normalized := by
    rw [locate_eq_normalized, eq_comm, Path.normalized_eq_iff]
  refine ⟨path.isNormal_normalized, path.normalized_normalized,
    path.isAbsolute_normalized, fun _ => Path.normalized_join, fun _ =>
      Path.normalized_eq_iff, isId, ?_⟩
  intro shop site found state edit after converted
  obtain ⟨call, render, ⟨require, _⟩, isEdit, known⟩ := of_outcome_eq_some converted
  refine ⟨call, render, require, isEdit, ?_⟩
  intro same later leads disk otherSite other otherCall requires otherSame
  refine outcome_of_known requires (leads.isKnownIn _ render ?_)
  rw [(isId _ _).mp otherSame, ← (isId _ _).mp same]
  exact known

/-- A binding that requires a module. -/
def requiringBinding (specifier : String) : Found :=
  ⟨.assignment, ⟨14, 42⟩, ⟨23, 42⟩, some ⟨⟨specifier, '\''⟩, none⟩⟩

/-- The template of `templateDisk` is required from its folder, and from another
one through a folder that does not exist. -/
theorem required_through_folder :
    let path : Path := ⟨"/./tpl/../a.html"⟩
    let site : RequireSite := ⟨⟨"/main.js"⟩, ⟨"/"⟩⟩
    let below : RequireSite := ⟨⟨"/pages/home.js"⟩, ⟨"/"⟩⟩
    let first := requiringBinding "./a.html"
    let second := requiringBinding "../tpl//../a.html"
    let after := (outcome (replacement? requiringShop site first) .start).2
    path.normalized = ⟨"/a.html"⟩ ∧
      (path.join ⟨"./../../b.html"⟩).normalized = ⟨"/b.html"⟩ ∧
      ∃ call otherCall render, first.require = some call ∧
        second.require = some otherCall ∧
        outcome (replacement? requiringShop site first) .start =
          (.ok (some (editOf site first call render)), after) ∧
        outcome (replacement? requiringShop below second) after =
          (.ok (some (editOf below second otherCall render)), after) := by
  intro path site below first second after
  obtain ⟨_, _, _, joined, isCanonical, _, shares⟩ := normalized_isCanonical path
  have normal : path.normalized = ⟨"/a.html"⟩ := by decide +kernel
  obtain ⟨edit, isEdit⟩ : ∃ edit,
      (outcome (replacement? requiringShop site first) .start).1 = .ok (some edit) :=
    ⟨⟨⟨14, 42⟩, "render = require('./[coolie-mid-vue-virtual-file]-.js')"⟩,
      by decide +kernel⟩
  have converted : outcome (replacement? requiringShop site first) .start =
      (.ok (some edit), after) := by
    rw [← isEdit]
  refine ⟨normal, ?_, ?_⟩
  · rw [joined ⟨"./../../b.html"⟩ (by decide), normal]
    decide +kernel
  · obtain ⟨call, render, require, rfl, shared⟩ := shares _ _ _ _ _ _ converted
    obtain rfl : call = ⟨⟨"./a.html", '\''⟩, none⟩ := (Option.some.inj require).symm
    have sameFirst : path.SameLocation (meant "./a.html" site) :=
      (isCanonical _).mp (by decide +kernel)
    have sameSecond : path.SameLocation (meant "../tpl//../a.html" below) :=
      (isCanonical _).mp (by decide +kernel)
    have requires : RequiresTemplate templateDisk below second
        ⟨⟨"../tpl//../a.html", '\''⟩, none⟩ :=
      ⟨rfl, ⟨⟨"/a.html"⟩, "html", "text"⟩, by decide, by decide +kernel⟩
    exact ⟨_, _, render, require, rfl, converted,
      shared sameFirst after .here templateDisk below second _ requires sameSecond⟩

end VuePrecompiler.Build
