import VuePrecompiler.Proofs.AccessPaths
import VuePrecompiler.Proofs.Slices

/-!
# The last access of a path

A path is cut in front of its last access: at the bracket that its last bracket
closes, or else at its last dot.  Whatever stands in front of the brackets, the
key between them is found if square brackets match in it.  For any path, the
parts join back to it. -/

namespace VuePrecompiler.Render

open Source Text Javascript

/-- How a path is cut: at the brackets of its last access, at the
dot, or not at all. -/
inductive PathCut where
  | index (object key : String)
  | member (object name : String)
  | whole (path : String)

namespace PathCut

/-- The path that is cut. -/
def text : PathCut → String
  | .index object key => object ++ "[" ++ key ++ "]"
  | .member object name => object ++ "." ++ name
  | .whole path => path

/-- The object and the code of the key. -/
def parts : PathCut → String × Option String
  | .index object key => (object, some key)
  | .member object name => (object, some ("\"" ++ name ++ "\""))
  | .whole path => (path, none)

/-- The slices that are taken of the path, each with its span. -/
def slices (cut : PathCut) : List (Span × String) :=
  match cut with
  | .index object key =>
    [(⟨0, object.utf8ByteSize⟩, object),
      (⟨object.utf8ByteSize + 1, cut.text.utf8ByteSize - 1⟩, key)]
  | .member object name =>
    [(⟨0, object.utf8ByteSize⟩, object),
      (⟨object.utf8ByteSize + 1, cut.text.utf8ByteSize⟩, name)]
  | .whole _ => []

/-- What stands between two texts is the slice between their ends. -/
theorem slice?_between (before taken after : String) {start stop : Nat}
    (starts : start = before.utf8ByteSize)
    (stops : stop = start + taken.utf8ByteSize) :
    Span.slice? (before ++ taken ++ after) ⟨start, stop⟩ = some taken := by
  subst stops starts
  rw [Span.slice?, String.toList_append, String.toList_append, List.append_assoc,
    ← byteLength_toList, ← byteLength_toList, sliceBytes?_append, Option.map_some,
    String.ofList_toList]

theorem slice?_start (taken after : String) :
    Span.slice? (taken ++ after) ⟨0, taken.utf8ByteSize⟩ = some taken := by
  have between := slice?_between "" taken after rfl (Nat.zero_add _).symm
  rwa [String.empty_append] at between

/-- Every slice lies in the path and cuts no character. -/
theorem slice?_of_mem_slices {cut : PathCut} {span : Span} {part : String}
    (member : (span, part) ∈ cut.slices) : span.slice? cut.text = some part := by
  have one :
      "[".utf8ByteSize = 1 ∧ "]".utf8ByteSize = 1 ∧ ".".utf8ByteSize = 1 := by decide
  cases cut with
  | whole path => contradiction
  | index object key =>
      simp only [slices, text, List.mem_cons, Prod.mk.injEq, List.not_mem_nil,
        or_false, String.utf8ByteSize_append] at member
      rcases member with ⟨rfl, rfl⟩ | ⟨rfl, rfl⟩
      · rw [text, String.append_assoc, String.append_assoc]
        exact slice?_start part _
      · refine slice?_between (object ++ "[") part "]" ?_ ?_
        · rw [String.utf8ByteSize_append, one.1]
        · omega
  | member object name =>
      simp only [slices, text, List.mem_cons, Prod.mk.injEq, List.not_mem_nil,
        or_false, String.utf8ByteSize_append] at member
      rcases member with ⟨rfl, rfl⟩ | ⟨rfl, rfl⟩
      · rw [text, String.append_assoc]
        exact slice?_start part _
      · rw [text, ← String.append_empty (s := object ++ "." ++ part)]
        refine slice?_between (object ++ ".") part "" ?_ ?_
        · rw [String.utf8ByteSize_append, one.2.2]
        · omega

end PathCut

theorem of_splitLast?_eq_some {separator : Char} {text before after : List Char}
    (cut : splitLast? separator text = some (before, after)) :
    text = before ++ separator :: after := by
  by_cases member : separator ∈ text.reverse
  · obtain ⟨behind, front, shape, absent⟩ := List.eq_append_cons_of_mem member
    have parts : text = front.reverse ++ separator :: behind.reverse := by
      rw [← List.reverse_reverse text, shape]
      simp
    rw [parts, splitLast?_append _ (by simpa using absent)] at cut
    cases cut
    exact parts
  · rw [splitLast?_of_notMem fun inText => member (List.mem_reverse.mpr inText)] at cut
    contradiction

/-- What the scan finds stands around a bracket, and its last character is left out. -/
theorem of_openingBracket?_eq_some {quote : Option Char} {depth : Int}
    {inside before key object : List Char}
    (found : openingBracket? quote depth inside before = some (key, object)) :
    ∃ within, before.reverse ++ inside = object ++ '[' :: within ∧
      key = within.dropLast := by
  induction before generalizing quote depth inside with
  | nil => simp [openingBracket?] at found
  | cons c before induction =>
      have onward {quote : Option Char} {depth : Int}
          (found : openingBracket? quote depth (c :: inside) before =
            some (key, object)) :
          ∃ within, (c :: before).reverse ++ inside = object ++ '[' :: within ∧
            key = within.dropLast := by
        rw [List.reverse_cons, List.append_assoc, List.singleton_append]
        exact induction found
      cases quote with
      | some mark =>
          rw [openingBracket?] at found
          split at found <;> exact onward found
      | none =>
          rw [openingBracket?] at found
          split at found
          · exact onward found
          split at found
          · exact onward found
          split at found
          · next opens =>
            split at found
            · cases found
              exact ⟨inside, by simp [opens], rfl⟩
            · exact onward found
          · exact onward found

/-- Every path is cut in one of the three ways. -/
theorem exists_pathCut (path : String) :
    ∃ cut : PathCut, cut.text = trimmed path ∧ cut.parts = splitAccess path := by
  unfold splitAccess trimmed
  generalize trim path.toList = text
  dsimp only
  split
  · next brackets =>
    rw [Bool.and_eq_true, decide_eq_true_eq] at brackets
    split
    · next key object found =>
      obtain ⟨within, joined, rfl⟩ := of_openingBracket?_eq_some found
      rw [List.reverse_reverse, List.append_nil] at joined
      have last := brackets.2
      rw [joined, List.getLast?_append_of_ne_nil _ (List.cons_ne_nil _ _)] at last
      -- The last character of the path is the closing bracket, so something
      -- stands behind `[`.
      obtain ⟨front, rfl⟩ : ∃ front, within = front ++ [']'] := by
        rcases List.eq_nil_or_concat' within with rfl | ⟨front, c, rfl⟩
        · contradiction
        · rw [← List.cons_append, List.getLast?_concat, Option.some_inj] at last
          exact ⟨front, by rw [last]⟩
      refine ⟨.index (String.ofList object) (String.ofList front), ?_, ?_⟩
      · rw [PathCut.text, joined]
        simp [← String.toList_inj]
      · rw [PathCut.parts, List.dropLast_concat]
    · exact ⟨.whole (String.ofList text), rfl, rfl⟩
  · split
    · next object key found =>
      refine ⟨.member (String.ofList object) (String.ofList key), ?_, rfl⟩
      rw [PathCut.text, of_splitLast?_eq_some found]
      simp [← String.toList_inj]
    · exact ⟨.whole (String.ofList text), rfl, rfl⟩

/-- The last access of a path is found: a key in brackets, if square
brackets match in it, or a name without dots and brackets behind a dot; such
a name alone has no access.  The parts of any path join back to it, and they
are slices of it. -/
theorem splitAccess_finds_lastAccess (path : String) :
    (∀ object key, trimmed path = object ++ "[" ++ key ++ "]" → SquareText key.toList →
      splitAccess path = (object, some key)) ∧
    (∀ object name, trimmed path = object ++ "." ++ name → '.' ∉ name.toList →
      ']' ∉ name.toList → splitAccess path = (object, some ("\"" ++ name ++ "\""))) ∧
    ('.' ∉ (trimmed path).toList → ']' ∉ (trimmed path).toList →
      splitAccess path = (trimmed path, none)) ∧
    ∃ cut : PathCut, cut.text = trimmed path ∧ cut.parts = splitAccess path ∧
      ∀ span part, (span, part) ∈ cut.slices →
        span.slice? (trimmed path) = some part := by
  have shape {text : String} (same : trimmed path = text) :
      trim path.toList = text.toList := by
    rw [← same, trimmed, String.toList_ofList]
  refine ⟨?_, ?_, ?_, ?_⟩
  · intro object key same square
    have parts : trim path.toList = object.toList ++ '[' :: (key.toList ++ [']']) := by
      rw [shape same]
      simp
    rw [splitAccess_index parts square, String.ofList_toList, String.ofList_toList]
  · intro object name same noDot noBracket
    have parts : trim path.toList = object.toList ++ '.' :: name.toList := by
      rw [shape same]
      simp
    rw [splitAccess_member parts noDot noBracket, String.ofList_toList,
      String.ofList_toList]
  · intro noDot noBracket
    rw [trimmed, String.toList_ofList] at noDot noBracket
    exact splitAccess_identifier noDot noBracket
  · obtain ⟨cut, joined, parts⟩ := exists_pathCut path
    refine ⟨cut, joined, parts, fun span part member => ?_⟩
    rw [← joined]
    exact PathCut.slice?_of_mem_slices member

/-- A key with a closing bracket in a literal and a pair of brackets outside of
it, behind an access that has both in its own key. -/
theorem lastAccess_behind_brackets :
    let path := " a.b[c['d]']][\"e\\\"]\" + f[0]] "
    let object := "a.b[c['d]']]"
    let key := "\"e\\\"]\" + f[0]"
    trimmed path = object ++ "[" ++ key ++ "]" ∧ SquareText key.toList ∧
      splitAccess path = (object, some key) := by
  intro path object key
  have joined : trimmed path = object ++ "[" ++ key ++ "]" := by decide +kernel
  have body : LiteralBody .double ['e', '\\', '"', ']'] :=
    .char (by decide) (by decide) (.escape (.char (by decide) (by decide) .nil))
  have index : SquareText ['f', '[', '0', ']'] :=
    .char (by decide) (@SquareText.bracketed ['0'] [] (.char (by decide) .nil) .nil)
  have square : SquareText key.toList := by
    have spelled : key.toList = Quote.double.char :: (['e', '\\', '"', ']'] ++
        Quote.double.char :: (" + ".toList ++ ['f', '[', '0', ']'])) := by
      decide
    rw [spelled]
    exact .literal .double body
      (.char (by decide) (.char (by decide) (.char (by decide) index)))
  exact ⟨joined, square, (splitAccess_finds_lastAccess path).1 object key
    joined square⟩

end VuePrecompiler.Render
