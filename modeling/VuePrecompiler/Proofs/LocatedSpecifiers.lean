import VuePrecompiler.Proofs.StandingPaths

/-!
# Where specifiers lead

A specifier is followed from the folder of the requiring file, from the source
root, or from the dependencies in it.  What stands between its slashes is
followed from there, whatever slashes and dots it has, with one exception: a
specifier with two slashes in front is followed from the root of the file
system.
-/

namespace VuePrecompiler.Build

open Files Text

/-- From where a specifier is followed. -/
inductive Start where
  | folder
  | sourceRoot
  | dependencies
deriving DecidableEq

namespace Start

/-- The start is told by the first of the texts between slashes: a dot or two,
nothing in front of a slash, or something else. -/
def ofSegments : List (List Char) → Start
  | ['.'] :: _ => .folder
  | ['.', '.'] :: _ => .folder
  | [] :: _ :: _ => .sourceRoot
  | _ => .dependencies

/-- The start of a specifier. -/
def ofText (specifier : String) : Start :=
  ofSegments (splitOnChar '/' specifier.toList)

def path (site : RequireSite) : Start → Path
  | .folder => site.file.folder
  | .sourceRoot => site.sourceRoot
  | .dependencies => site.sourceRoot.join ⟨"node_modules"⟩

theorem ofText_of_slash {specifier : String} {left right : List Char}
    (shape : specifier.toList = left ++ '/' :: right) (plain : '/' ∉ left) :
    ofText specifier = ofSegments (left :: splitOnChar '/' right) := by
  rw [ofText, shape, splitOnChar_append, splitOnChar_of_notMem plain,
    List.singleton_append]

theorem ofText_eq_sourceRoot_iff {specifier : String} :
    ofText specifier = .sourceRoot ↔ ∃ rest, specifier.toList = '/' :: rest := by
  constructor
  · intro fromRoot
    have whole := Path.joinSlash_splitOnChar specifier.toList
    unfold ofText ofSegments at fromRoot
    split at fromRoot
    · contradiction
    · contradiction
    · next first later segments =>
      rw [segments] at whole
      exact ⟨_, whole.symm⟩
    · contradiction
  · rintro ⟨rest, rooted⟩
    rw [@ofText_of_slash specifier [] rest rooted List.not_mem_nil]
    obtain ⟨first, later, segments⟩ :=
      List.exists_cons_of_ne_nil (splitOnChar_ne_nil '/' rest)
    rw [segments]
    rfl

end Start

theorem isRelative_iff {specifier : String} :
    isRelative specifier = true ↔ Start.ofText specifier = .folder := by
  simp only [isRelative, Bool.or_eq_true, beq_iff_eq, List.isPrefixOf_iff_prefix]
  constructor
  · rintro (((dot | dots) | ⟨rest, dot⟩) | ⟨rest, dots⟩)
    · rw [Start.ofText, dot]
      rfl
    · rw [Start.ofText, dots]
      rfl
    · rw [@Start.ofText_of_slash specifier ['.'] rest dot.symm (by decide)]
      rfl
    · rw [@Start.ofText_of_slash specifier ['.', '.'] rest dots.symm (by decide)]
      rfl
  · intro fromFolder
    have whole := Path.joinSlash_splitOnChar specifier.toList
    unfold Start.ofText Start.ofSegments at fromFolder
    split at fromFolder
    · next later segments =>
      rw [segments] at whole
      cases later with
      | nil => exact .inl (.inl (.inl whole.symm))
      | cons next later => exact .inl (.inr ⟨_, whole⟩)
    · next later segments =>
      rw [segments] at whole
      cases later with
      | nil => exact .inl (.inl (.inr whole.symm))
      | cons next later => exact .inr ⟨_, whole⟩
    · contradiction
    · contradiction

/-- A specifier that is neither relative nor rooted is followed from
the dependencies. -/
theorem ofText_bare {specifier : String} (notRelative : ¬ isRelative specifier = true)
    (notRooted : ∀ rest, specifier.toList ≠ '/' :: rest) :
    Start.ofText specifier = .dependencies := by
  cases start : Start.ofText specifier with
  | folder => exact absurd (isRelative_iff.mpr start) notRelative
  | sourceRoot =>
      obtain ⟨rest, rooted⟩ := Start.ofText_eq_sourceRoot_iff.mp start
      exact absurd rooted (notRooted rest)
  | dependencies => rfl

section

variable {specifier : String} {site : RequireSite}

/-- What follows the folder of an absolute file, even if that is the
root, which has none. -/
theorem normalParts_join_folder {tail : Path} (absolute : site.file.isAbsolute = true)
    (relative : tail.isAbsolute = false) :
    normalParts (site.file.folder.join tail).parts =
      normalParts (site.file.folder.parts ++ innerParts tail.text.toList) := by
  by_cases below : site.file.parts = [.root]
  · have none : site.file.folder = ⟨""⟩ := by
      rcases Path.parent?_of_absolute absolute with ⟨_, noParent⟩ | ⟨notRoot, _⟩
      · rw [Path.folder, noParent]
        rfl
      · exact absurd below notRoot
    rw [none, Path.join_empty relative, normalParts_relative relative]
    rfl
  · rw [Path.parts_join_absolute (Path.folder_absolute absolute below) relative]

/-- What is continued from its start is no absolute path. -/
theorem isAbsolute_of_start (notRooted : Start.ofText specifier ≠ .sourceRoot) :
    (⟨specifier⟩ : Path).isAbsolute = false := by
  rw [Bool.eq_false_iff]
  intro absolute
  exact notRooted (Start.ofText_eq_sourceRoot_iff.mpr
    (Path.isAbsolute_iff.mp absolute))

/-- Without two slashes in front, a specifier is followed from its start. -/
theorem locate_of_single (fileAbsolute : site.file.isAbsolute = true)
    (rootAbsolute : site.sourceRoot.isAbsolute = true)
    (single : ¬ ['/', '/'] <+: specifier.toList) :
    locate specifier site = Path.ofParts (normalParts
      (((Start.ofText specifier).path site).parts ++
        innerParts specifier.toList)) := by
  unfold locate
  by_cases relative : isRelative specifier = true
  · have start := isRelative_iff.mp relative
    have tail := @isAbsolute_of_start specifier (by simp [start])
    rw [if_pos relative, Path.normalized, normalParts_join_folder fileAbsolute tail,
      start]
    rfl
  · rw [if_neg relative, Path.normalized]
    split
    · next rooted shape =>
      have tail : (⟨String.ofList rooted⟩ : Path).isAbsolute = false := by
        rw [Bool.eq_false_iff]
        intro absolute
        obtain ⟨rest, again⟩ := Path.isAbsolute_iff.mp absolute
        rw [String.toList_ofList] at again
        exact single ⟨rest, by rw [shape, again]; rfl⟩
      have inner : innerParts ('/' :: rooted) = innerParts rooted :=
        innerParts_slash rooted
      rw [Path.parts_join_absolute rootAbsolute tail,
        Start.ofText_eq_sourceRoot_iff.mpr ⟨rooted, shape⟩, shape, inner,
        String.toList_ofList]
      rfl
    · next notRooted =>
      have start := ofText_bare relative notRooted
      have tail := @isAbsolute_of_start specifier (by simp [start])
      rw [Path.parts_join_absolute (Path.isAbsolute_join rootAbsolute) tail, start]
      rfl

/-- With two slashes in front, it is followed from the root of the file system. -/
theorem locate_of_double (double : ['/', '/'] <+: specifier.toList) :
    locate specifier site =
      Path.ofParts (normalParts (.root :: innerParts specifier.toList)) := by
  obtain ⟨rest, shape⟩ := double
  have rooted : specifier.toList = '/' :: '/' :: rest := shape.symm
  have notRelative : ¬ isRelative specifier = true := by
    rw [isRelative_iff, Start.ofText_eq_sourceRoot_iff.mpr ⟨_, rooted⟩]
    simp
  have begins : (⟨String.ofList ('/' :: rest)⟩ : Path).text.toList = '/' :: rest :=
    String.toList_ofList
  have absolute : (⟨String.ofList ('/' :: rest)⟩ : Path).isAbsolute = true :=
    Path.isAbsolute_iff.mpr ⟨rest, begins⟩
  have inner : innerParts ('/' :: '/' :: rest) = innerParts rest :=
    (innerParts_slash ('/' :: rest)).trans (innerParts_slash rest)
  unfold locate
  rw [if_neg notRelative]
  simp only [rooted]
  rw [Path.normalized, Path.join, if_pos absolute,
    Path.parts_of_absolute begins, inner]

/-- A path followed from the source root or the dependencies in it, with no way
up, is inside of the source root. -/
theorem inside_of_start (rootAbsolute : site.sourceRoot.isAbsolute = true)
    (start : Start.ofText specifier ≠ .folder)
    (noParent : .parent ∉ innerParts specifier.toList) :
    normalParts site.sourceRoot.parts <+: (Path.ofParts (normalParts
      (((Start.ofText specifier).path site).parts ++
        innerParts specifier.toList))).parts := by
  obtain ⟨names, areNames, inner⟩ := exists_namedParts noParent
  obtain ⟨rootNames, areRootNames, root⟩ := normalParts_absolute rootAbsolute
  obtain ⟨more, areMore, followed⟩ :
    ∃ more : List String, (∀ name ∈ more, IsName name) ∧
      ((Start.ofText specifier).path site).parts ++ innerParts specifier.toList =
        site.sourceRoot.parts ++ namedParts more := by
    cases shape : Start.ofText specifier with
    | folder => exact absurd shape start
    | sourceRoot => exact ⟨names, areNames, by rw [inner]; rfl⟩
    | dependencies =>
        refine ⟨"node_modules" :: names,
          List.forall_mem_cons.mpr ⟨by decide, areNames⟩, ?_⟩
        rw [inner, Start.path, Path.parts_join_absolute rootAbsolute (by decide),
          List.append_assoc]
        rfl
  have settled : normalParts (site.sourceRoot.parts ++ namedParts more) =
      .root :: namedParts (rootNames ++ more) := by
    rw [normalParts_append_named, root, namedParts_append]
    rfl
  have areAll : ∀ name ∈ rootNames ++ more, IsName name :=
    List.forall_mem_append.mpr ⟨areRootNames, areMore⟩
  rw [followed, settled, (Path.standsAt_ofParts areAll).parts, root, namedParts_append]
  exact ⟨namedParts more, rfl⟩

/-- What is followed from the root of the file system leads over the names
of the specifier. -/
theorem parts_of_double (noParent : .parent ∉ innerParts specifier.toList) :
    (Path.ofParts (normalParts (.root :: innerParts specifier.toList))).parts =
      .root :: innerParts specifier.toList := by
  obtain ⟨names, areNames, inner⟩ := exists_namedParts noParent
  have settled : normalParts (.root :: namedParts names) = .root :: namedParts names :=
    normalParts_append_named [.root] names
  rw [inner, settled, (Path.standsAt_ofParts areNames).parts]

/-- A specifier is followed from its start, unless it has two slashes in front;
then it is followed from the root of the file system.  So a rooted or bare
specifier with no way up leads inside of the source root, except that one with two
slashes has to name the source root itself. -/
theorem locate_follows_specifier (fileAbsolute : site.file.isAbsolute = true)
    (rootAbsolute : site.sourceRoot.isAbsolute = true) :
    (¬ ['/', '/'] <+: specifier.toList →
      locate specifier site = Path.ofParts (normalParts
        (((Start.ofText specifier).path site).parts ++ innerParts specifier.toList))) ∧
    (['/', '/'] <+: specifier.toList →
      locate specifier site =
        Path.ofParts (normalParts (.root :: innerParts specifier.toList))) ∧
    (Start.ofText specifier ≠ .folder → .parent ∉ innerParts specifier.toList →
      (normalParts site.sourceRoot.parts <+: (locate specifier site).parts ↔
        ¬ ['/', '/'] <+: specifier.toList ∨
          normalParts site.sourceRoot.parts <+:
            .root :: innerParts specifier.toList)) := by
  refine ⟨locate_of_single fileAbsolute rootAbsolute, locate_of_double,
    fun start noParent => ?_⟩
  by_cases double : ['/', '/'] <+: specifier.toList
  · rw [locate_of_double double, parts_of_double noParent]
    simp [double]
  · rw [locate_of_single fileAbsolute rootAbsolute double]
    simp [double, inside_of_start rootAbsolute start noParent]

end

/-- Repeated slashes and dots behind the first slash are no obstacle. -/
theorem locate_follows_specifier_dots :
    let site : RequireSite := ⟨⟨"/app/pages/home.js"⟩, ⟨"/app"⟩⟩
    site.file.isAbsolute = true ∧ site.sourceRoot.isAbsolute = true ∧
      locate "/.//tpl//./a.html" site = ⟨"/app/tpl/a.html"⟩ ∧
      normalParts site.sourceRoot.parts <+:
        (locate "/.//tpl//./a.html" site).parts := by
  intro site
  have fileAbsolute : site.file.isAbsolute = true := by decide
  have rootAbsolute : site.sourceRoot.isAbsolute = true := by decide
  obtain ⟨followed, _, inside⟩ :=
    @locate_follows_specifier "/.//tpl//./a.html" site fileAbsolute rootAbsolute
  refine ⟨fileAbsolute, rootAbsolute, ?_, ?_⟩
  · rw [followed (by decide)]
    decide +kernel
  · exact (inside (by decide) (by decide +kernel)).mpr (.inl (by decide))

/-- With a second slash in front, a rooted specifier leaves the source root. -/
theorem locate_leaves_root :
    let site : RequireSite := ⟨⟨"/app/pages/home.js"⟩, ⟨"/app"⟩⟩
    isBlankText "//tpl/a.html" = false ∧ Start.ofText "//tpl/a.html" = .sourceRoot ∧
      .parent ∉ innerParts "//tpl/a.html".toList ∧
      locate "//tpl/a.html" site = ⟨"/tpl/a.html"⟩ ∧
      Path.ofParts
        (normalParts (site.sourceRoot.parts ++ innerParts "//tpl/a.html".toList)) =
        ⟨"/app/tpl/a.html"⟩ ∧
      ¬ normalParts site.sourceRoot.parts <+: (locate "//tpl/a.html" site).parts := by
  decide +kernel

end VuePrecompiler.Build
