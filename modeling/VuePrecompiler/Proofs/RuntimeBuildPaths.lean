import VuePrecompiler.Build.RuntimeBuilds
import VuePrecompiler.Proofs.NormalPaths

/-!
# Where the builds of the framework stand

Names that follow a base path are kept when the path is made normal, and what
stands in front of them depends on the base only.  So the full build below a
source root tells the runtime build below it, and no runtime build is taken for
a full one.
-/

namespace VuePrecompiler.Files

open Text

namespace Path

/-- The relative path over some names. -/
def ofNames (names : List String) : Path :=
  ⟨String.ofList (joinSlash (names.map String.toList))⟩

section

variable {names : List String} (areNames : ∀ name ∈ names, IsName name)
include areNames

theorem isAbsolute_ofNames (more : names ≠ []) :
    (ofNames names).isAbsolute = false := by
  obtain ⟨first, later, rfl⟩ := List.exists_cons_of_ne_nil more
  have isName := areNames first List.mem_cons_self
  have segments :
      (ofNames (first :: later)).segments = (first :: later).map String.toList :=
    segments_ofSegments (by simp) (plain_names areNames)
  rw [Bool.eq_false_iff]
  intro absolute
  obtain ⟨rest, begins⟩ := isAbsolute_iff.mp absolute
  rw [Path.segments, begins, splitOnChar_cons_self, List.map_cons] at segments
  have denotes := isName.denotes
  rw [← (List.cons.inj segments).1] at denotes
  contradiction

theorem parts_ofNames (more : names ≠ []) :
    (ofNames names).parts = namedParts names := by
  have relative := isAbsolute_ofNames areNames more
  obtain ⟨first, later, rfl⟩ := List.exists_cons_of_ne_nil more
  have isName := areNames first List.mem_cons_self
  have segments :
      (ofNames (first :: later)).segments = (first :: later).map String.toList :=
    segments_ofSegments (by simp) (plain_names areNames)
  have noDot : first.toList ≠ ['.'] := by
    intro dot
    have denotes := isName.denotes
    rw [dot] at denotes
    contradiction
  have denotedLater : (later.map String.toList).filterMap Part.ofSegment? =
      namedParts later :=
    filterMap_names fun name member => areNames name (List.mem_cons_of_mem _ member)
  simp only [parts, segments, List.map_cons, relative, noDot, isName.denotes,
    denotedLater, Bool.false_eq_true, ↓reduceIte]
  rfl

end

/-- Behind a slash each text stands for itself, whatever stands in front of it. -/
theorem exists_parts_append_slash (before : List Char) :
    ∃ leading, ∀ tail, (⟨String.ofList (before ++ '/' :: tail)⟩ : Path).parts =
      leading ++ innerParts tail := by
  obtain ⟨first, later, cut⟩ :=
    List.exists_cons_of_ne_nil (splitOnChar_ne_nil '/' before)
  have segments : ∀ tail, (⟨String.ofList (before ++ '/' :: tail)⟩ : Path).segments =
      first :: (later ++ splitOnChar '/' tail) := by
    intro tail
    rw [Path.segments, String.toList_ofList, splitOnChar_append, cut, List.cons_append]
  have absolute : ∀ tail, (⟨String.ofList (before ++ '/' :: tail)⟩ : Path).isAbsolute =
      (before.head?.getD '/' == '/') := by
    intro tail
    rw [isAbsolute, String.toList_ofList]
    cases before <;> rfl
  refine ⟨(if before.head?.getD '/' == '/' then [.root] else if first =
    ['.'] then [.current]
    else (Part.ofSegment? first).toList) ++ later.filterMap Part.ofSegment?, ?_⟩
  intro tail
  simp only [parts, segments, absolute, List.filterMap_append, innerParts]
  split
  · simp
  · split <;> simp

/-- Names that follow a base path are its last parts. -/
theorem exists_parts_join_ofNames (base : Path) :
    ∃ leading, ∀ names : List String, names ≠ [] → (∀ name ∈ names, IsName name) →
      (base.join (ofNames names)).parts = leading ++ namedParts names := by
  have text : base = ⟨String.ofList base.text.toList⟩ := by rw [String.ofList_toList]
  -- The texts are the same once it is clear how the base ends.
  have behindSlash : ∀ before : List Char,
      (∀ tail : Path, tail.isAbsolute = false →
        base.join tail = ⟨String.ofList (before ++ '/' :: tail.text.toList)⟩) →
      ∃ leading, ∀ names : List String, names ≠ [] → (∀ name ∈ names, IsName name) →
        (base.join (ofNames names)).parts = leading ++ namedParts names := by
    intro before joined
    obtain ⟨leading, parts⟩ := exists_parts_append_slash before
    refine ⟨leading, fun names more areNames => ?_⟩
    rw [joined _ (isAbsolute_ofNames areNames more), parts, ofNames,
      String.toList_ofList, innerParts_names areNames]
  rcases List.eq_nil_or_concat' base.text.toList with empty | ⟨before, last, ends⟩
  · refine ⟨[], fun names more areNames => ?_⟩
    rw [text, empty]
    rw [show (⟨String.ofList []⟩ : Path) = ⟨""⟩ from rfl,
      join_empty (isAbsolute_ofNames areNames more),
      parts_ofNames areNames more, List.nil_append]
  · by_cases slash : last = '/'
    · refine behindSlash before fun tail relative => ?_
      rw [text, join_eq_append relative
        (.inr (by rw [ends, slash, List.getLast?_concat])), ends,
        slash, List.append_assoc, List.singleton_append]
    · refine behindSlash base.text.toList fun tail relative => ?_
      have noSlash : base.text.toList.getLast? ≠ some '/' := by
        rw [ends, List.getLast?_concat]
        simpa using slash
      have joined := join_eq_append_slash relative (by rw [ends]; simp) noSlash
      rwa [← text] at joined

/-- Names at the end of some parts are at the end of their text. -/
theorem exists_text_ofParts (parts : List Part) :
    ∃ before, ∀ names : List String, names ≠ [] →
      (ofParts (parts ++ namedParts names)).text.toList =
        before ++ joinSlash (names.map String.toList) := by
  have behind : ∀ front : List Part, ∃ before, ∀ names : List String, names ≠ [] →
      joinSlash ((front ++ namedParts names).map Part.text) =
        before ++ joinSlash (names.map String.toList) := by
    intro front
    by_cases none : front = []
    · exact ⟨[], fun names _ => by rw [none, List.nil_append, map_text_namedParts,
        List.nil_append]⟩
    · refine ⟨joinSlash (front.map Part.text) ++ ['/'], fun names more => ?_⟩
      rw [List.map_append, map_text_namedParts,
        joinSlash_append (by simpa using none) (by simpa using more),
        List.append_assoc, List.singleton_append]
  obtain ⟨before, text⟩ := behind parts
  have relative : (∀ names : List String, names ≠ [] →
      ofParts (parts ++ namedParts names) =
        ⟨String.ofList (joinSlash ((parts ++ namedParts names).map Part.text))⟩) →
      ∃ before, ∀ names : List String, names ≠ [] →
        (ofParts (parts ++ namedParts names)).text.toList =
          before ++ joinSlash (names.map String.toList) := by
    intro same
    exact ⟨before, fun names more => by rw [same names more, String.toList_ofList,
      text names more]⟩
  cases parts with
  | nil =>
      refine relative fun names more => ?_
      obtain ⟨first, later, rfl⟩ := List.exists_cons_of_ne_nil more
      rfl
  | cons first rest =>
      cases first with
      | root =>
          obtain ⟨before, text⟩ := behind rest
          refine ⟨'/' :: before, fun names more => ?_⟩
          rw [List.cons_append, ofParts, String.toList_ofList, text names more,
            List.cons_append]
      | current => exact relative fun names _ => rfl
      | parent => exact relative fun names _ => rfl
      | named name => exact relative fun names _ => rfl

/-- Names that follow a base path end the normal path, and in front of them stands
what the base is. -/
theorem exists_text_normalized_join (base : Path) :
    ∃ before, ∀ names : List String, names ≠ [] → (∀ name ∈ names, IsName name) →
      (base.join (ofNames names)).normalized.text.toList =
        before ++ joinSlash (names.map String.toList) := by
  obtain ⟨leading, parts⟩ := exists_parts_join_ofNames base
  obtain ⟨before, text⟩ := exists_text_ofParts (normalParts leading)
  refine ⟨before, fun names more areNames => ?_⟩
  rw [normalized, parts names more areNames, normalParts_append_named, text names more]

/-- A name behind the last slash ends the normal path, too. -/
theorem name_suffix_normalized {path : Path} {before : List Char} {name : String}
    (isName : IsName name) (text : path.text.toList = before ++ '/' :: name.toList) :
    name.toList <:+ path.normalized.text.toList := by
  have same : path = ⟨String.ofList (before ++ '/' :: name.toList)⟩ := by
    rw [← text, String.ofList_toList]
  obtain ⟨leading, parts⟩ := exists_parts_append_slash before
  obtain ⟨front, normal⟩ := exists_text_ofParts (normalParts leading)
  have isLast : innerParts name.toList = namedParts [name] := by
    rw [innerParts, splitOnChar_of_notMem isName.plain, List.filterMap_cons,
      isName.denotes]
    rfl
  rw [normalized, same, parts, isLast, normalParts_append_named,
    normal [name] (by simp)]
  exact List.suffix_append _ _

end Path

end VuePrecompiler.Files

namespace VuePrecompiler.Build

open Files

/-- The full build of the framework below a source root. -/
def fullBuildBelow (root : Path) : Path :=
  (root.join ⟨"node_modules/vue/dist/vue.common.js"⟩).normalized

/-- The runtime build of the framework below a source root. -/
def runtimeBuildBelow (root : Path) : Path :=
  (root.join ⟨"node_modules/vue/dist/vue.runtime.common.js"⟩).normalized

theorem Replacements.learn_builds (replacements : Replacements) (root : Path) :
    (replacements.learn root).builds =
      (fullBuildBelow root, runtimeBuildBelow root) :: replacements.builds := rfl

/-- The names on the way to a build of the framework. -/
def buildNames (build : String) : List String :=
  ["node_modules", "vue", "dist", build]

/-- Both builds stand in one folder. -/
theorem exists_text_builds (root : Path) :
    ∃ folder : List Char,
      (fullBuildBelow root).text.toList = folder ++ '/' :: "vue.common.js".toList ∧
        (runtimeBuildBelow root).text.toList = folder ++ '/' ::
          "vue.runtime.common.js".toList := by
  obtain ⟨before, text⟩ := Path.exists_text_normalized_join root
  have full := text (buildNames "vue.common.js") (by simp [buildNames])
    (by decide +kernel)
  have runtime := text (buildNames "vue.runtime.common.js") (by simp [buildNames])
    (by decide +kernel)
  refine ⟨before ++ "node_modules/vue/dist".toList, ?_, ?_⟩
  · rw [List.append_assoc]
    exact full
  · rw [List.append_assoc]
    exact runtime

/-- Source roots with the same full build have the same runtime build. -/
theorem runtimeBuildBelow_congr {left right : Path}
    (same : fullBuildBelow left = fullBuildBelow right) :
    runtimeBuildBelow left = runtimeBuildBelow right := by
  obtain ⟨folder, full, runtime⟩ := exists_text_builds left
  obtain ⟨other, otherFull, otherRuntime⟩ := exists_text_builds right
  rw [same, otherFull, List.append_cancel_right_eq] at full
  have texts : (runtimeBuildBelow left).text = (runtimeBuildBelow right).text := by
    rw [← String.toList_inj, runtime, otherRuntime, full]
  rw [show runtimeBuildBelow left = ⟨(runtimeBuildBelow left).text⟩ from rfl, texts]

/-- A runtime build is never taken for a full one. -/
theorem normalized_runtimeBuildBelow_ne (left right : Path) :
    (runtimeBuildBelow left).normalized ≠ fullBuildBelow right := by
  intro same
  obtain ⟨folder, _, runtime⟩ := exists_text_builds left
  obtain ⟨other, full, _⟩ := exists_text_builds right
  have endsRuntime := Path.name_suffix_normalized (by decide +kernel) runtime
  have endsFull : "vue.common.js".toList <:+ (fullBuildBelow right).text.toList :=
    ⟨other ++ ['/'], by rw [full, List.append_assoc, List.singleton_append]⟩
  rw [same] at endsRuntime
  have within :=
    List.suffix_of_suffix_length_le endsFull endsRuntime (by decide +kernel)
  exact absurd within (by decide +kernel)

end VuePrecompiler.Build
