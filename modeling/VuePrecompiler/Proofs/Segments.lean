import VuePrecompiler.Files.Path

/-!
# Texts between slashes

Cutting a text at a character and joining the stretches again are inverse to
each other, as long as the stretches do not hold the character themselves.
-/

namespace VuePrecompiler.Text

variable {separator : Char}

theorem splitOnChar_ne_nil (separator : Char) (text : List Char) :
    splitOnChar separator text ≠ [] := by
  cases text with
  | nil => simp [splitOnChar]
  | cons c rest =>
      rw [splitOnChar]
      split
      · simp
      · split <;> simp

theorem splitOnChar_cons_self (rest : List Char) :
    splitOnChar separator (separator :: rest) = [] :: splitOnChar separator rest := by
  rw [splitOnChar, if_pos rfl]

theorem splitOnChar_cons_of_ne {c : Char} (other : c ≠ separator)
    {rest first : List Char} {later : List (List Char)}
    (split : splitOnChar separator rest = first :: later) :
    splitOnChar separator (c :: rest) = (c :: first) :: later := by
  simp only [splitOnChar, other, ↓reduceIte, split]

theorem splitOnChar_of_notMem {text : List Char} (plain : separator ∉ text) :
    splitOnChar separator text = [text] := by
  induction text with
  | nil => rfl
  | cons c rest induction =>
      rw [List.mem_cons, not_or] at plain
      exact splitOnChar_cons_of_ne (Ne.symm plain.1) (induction plain.2)

theorem notMem_of_mem_splitOnChar {text stretch : List Char}
    (member : stretch ∈ splitOnChar separator text) : separator ∉ stretch := by
  induction text generalizing stretch with
  | nil => simp_all [splitOnChar]
  | cons c rest induction =>
      by_cases same : c = separator
      · subst same
        rw [splitOnChar_cons_self, List.mem_cons] at member
        rcases member with rfl | later
        · exact List.not_mem_nil
        · exact induction later
      · obtain ⟨first, later, split⟩ := List.exists_cons_of_ne_nil
          (splitOnChar_ne_nil separator rest)
        rw [splitOnChar_cons_of_ne same split, List.mem_cons] at member
        rw [split] at induction
        rcases member with rfl | member
        · rw [List.mem_cons, not_or]
          exact ⟨Ne.symm same, induction List.mem_cons_self⟩
        · exact induction (List.mem_cons_of_mem _ member)

theorem length_splitOnChar (separator : Char) (text : List Char) :
    (splitOnChar separator text).length = text.count separator + 1 := by
  induction text with
  | nil => rfl
  | cons c rest induction =>
      by_cases same : c = separator
      · subst same
        rw [splitOnChar_cons_self, List.length_cons, induction, List.count_cons_self]
      · obtain ⟨first, later, split⟩ := List.exists_cons_of_ne_nil
          (splitOnChar_ne_nil separator rest)
        rw [splitOnChar_cons_of_ne same split, List.count_cons_of_ne same, ← induction,
          split, List.length_cons, List.length_cons]

/-- A separator between two texts keeps their stretches apart. -/
theorem splitOnChar_append (left right : List Char) :
    splitOnChar separator (left ++ separator :: right) =
      splitOnChar separator left ++ splitOnChar separator right := by
  induction left with
  | nil => exact splitOnChar_cons_self right
  | cons c rest induction =>
      rw [List.cons_append]
      by_cases same : c = separator
      · subst same
        rw [splitOnChar_cons_self, splitOnChar_cons_self, induction, List.cons_append]
      · obtain ⟨first, later, split⟩ := List.exists_cons_of_ne_nil
          (splitOnChar_ne_nil separator rest)
        rw [split, List.cons_append] at induction
        rw [splitOnChar_cons_of_ne same induction, splitOnChar_cons_of_ne same split,
          List.cons_append]

end VuePrecompiler.Text

namespace VuePrecompiler.Files.Path

open Text

theorem joinSlash_cons {segment : List Char} {rest : List (List Char)}
    (more : rest ≠ []) :
    joinSlash (segment :: rest) = segment ++ '/' :: joinSlash rest := by
  cases rest with
  | nil => contradiction
  | cons next rest => rfl

theorem joinSlash_append {left right : List (List Char)} (leftMore : left ≠ [])
    (rightMore : right ≠ []) :
    joinSlash (left ++ right) = joinSlash left ++ '/' :: joinSlash right := by
  induction left with
  | nil => contradiction
  | cons segment rest induction =>
      rw [List.cons_append, joinSlash_cons (by simp [rightMore])]
      by_cases last : rest = []
      · subst last
        rfl
      · rw [induction last, joinSlash_cons last, List.append_assoc, List.cons_append]

theorem joinSlash_splitOnChar (text : List Char) :
    joinSlash (splitOnChar '/' text) = text := by
  induction text with
  | nil => rfl
  | cons c rest induction =>
      by_cases slash : c = '/'
      · subst slash
        rw [splitOnChar_cons_self, joinSlash_cons (splitOnChar_ne_nil '/' rest),
          induction, List.nil_append]
      · obtain ⟨first, later, split⟩ := List.exists_cons_of_ne_nil
          (splitOnChar_ne_nil '/' rest)
        rw [splitOnChar_cons_of_ne slash split]
        rw [split] at induction
        by_cases last : later = []
        · subst last
          exact congrArg (c :: ·) induction
        · rw [joinSlash_cons last] at induction ⊢
          rw [List.cons_append, induction]

theorem splitOnChar_joinSlash {segments : List (List Char)} (more : segments ≠ [])
    (plain : ∀ segment ∈ segments, '/' ∉ segment) :
    splitOnChar '/' (joinSlash segments) = segments := by
  induction segments with
  | nil => contradiction
  | cons segment rest induction =>
      have segmentPlain := plain segment List.mem_cons_self
      by_cases last : rest = []
      · subst last
        exact splitOnChar_of_notMem segmentPlain
      · rw [joinSlash_cons last, splitOnChar_append,
          splitOnChar_of_notMem segmentPlain,
          induction last fun other member =>
            plain other (List.mem_cons_of_mem _ member)]
        rfl

end VuePrecompiler.Files.Path
