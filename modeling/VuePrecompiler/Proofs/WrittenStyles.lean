import VuePrecompiler.Proofs.Separators
import VuePrecompiler.Proofs.Trimming
import VuePrecompiler.Render.Listeners
import VuePrecompiler.Render.Style

/-!
# Written styles

A style lists declarations between semicolons.  The first colon of a declaration
ends its property, and no semicolon in parentheses ends its value.  So the
declarations are read back from every text that lists them, with any blanks
around their parts and any empty items among them.
-/

namespace VuePrecompiler.Render

open Text Javascript

/-! ## Declarations -/

/-- Texts whose parentheses match.  Semicolons stand in parentheses, unless the
whole text is itself inside of some. -/
inductive Matched : Bool → List Char → Prop where
  | nil {inside : Bool} : Matched inside []
  | plain {inside : Bool} {c : Char} {text : List Char} :
      c ≠ '(' → c ≠ ')' → (c = ';' → inside = true) → Matched inside text →
      Matched inside (c :: text)
  | group {inside : Bool} {inner text : List Char} :
      Matched true inner → Matched inside text →
        Matched inside ('(' :: (inner ++ ')' :: text))

/-- The characters that part declarations, their properties and their values. -/
def styleMarks : List Char := [':', ';', '(', ')']

def IsUnmarked (text : List Char) : Prop :=
  ∀ c ∈ text, c ∉ styleMarks

instance (text : List Char) : Decidable (IsUnmarked text) :=
  List.decidableBAll (fun c => c ∉ styleMarks) text

/-- A declaration of a style.  Nothing in its property ends the property, and
nothing in its value ends the declaration. -/
structure Declaration where
  property : List Char
  value : List Char
  nonempty : property ≠ []
  unmarked : IsUnmarked property
  property_trimmed : trim property = property
  value_trimmed : trim value = value
  matched : Matched false value

/-- The entry for a declaration in an object literal. -/
def Declaration.entry (declaration : Declaration) : String :=
  literal (String.ofList declaration.property) ++ ":" ++
    literal (String.ofList declaration.value)

/-- A text with some blanks in front of it and behind it. -/
def Padded (text padded : List Char) : Prop :=
  ∃ before after, padded = before ++ text ++ after ∧
    (∀ c ∈ before, isBlank c = true) ∧ ∀ c ∈ after, isBlank c = true

/-- Items that list declarations in order.  An item is blank, or it is one
declaration with blanks around its property and around its value. -/
inductive Lists : List Declaration → List (List Char) → Prop where
  | nil : Lists [] []
  | blank {blanks : List Char} {declarations : List Declaration}
      {items : List (List Char)} :
      (∀ c ∈ blanks, isBlank c = true) → Lists declarations items →
      Lists declarations (blanks :: items)
  | declaration {declaration : Declaration} {property value : List Char}
      {declarations : List Declaration} {items : List (List Char)} :
      Padded declaration.property property → Padded declaration.value value →
      Lists declarations items →
      Lists (declaration :: declarations) ((property ++ ':' :: value) :: items)

variable {text padded : List Char} {declarations : List Declaration}
  {items : List (List Char)}

theorem Padded.trim_eq (isPadded : Padded text padded) (isTrimmed : trim text = text) :
    trim padded = text := by
  obtain ⟨before, after, rfl, blanksBefore, blanksAfter⟩ := isPadded
  exact trim_surrounded isTrimmed blanksBefore blanksAfter

theorem Padded.forall_mem {test : Char → Prop} (isPadded : Padded text padded)
    (inText : ∀ c ∈ text, test c) (inBlanks : ∀ c, isBlank c = true → test c) :
    ∀ c ∈ padded, test c := by
  obtain ⟨before, after, rfl, blanksBefore, blanksAfter⟩ := isPadded
  intro c member
  rcases List.mem_append.mp member with member | isAfter
  · rcases List.mem_append.mp member with isBefore | isInText
    · exact inBlanks c (blanksBefore c isBefore)
    · exact inText c isInText
  · exact inBlanks c (blanksAfter c isAfter)

theorem notMem_styleMarks_of_isBlank (c : Char) (blank : isBlank c = true) :
    c ∉ styleMarks := by
  intro member
  simp only [styleMarks, List.mem_cons, List.not_mem_nil, or_false] at member
  rcases member with rfl | rfl | rfl | rfl <;> exact absurd blank (by decide)

/-! ## Items without bare semicolons -/

namespace Matched

variable {inside : Bool} {left right : List Char}

theorem of_unmarked (unmarked : IsUnmarked left) : Matched inside left := by
  induction left with
  | nil => exact .nil
  | cons c text induction =>
      obtain ⟨here, later⟩ := List.forall_mem_cons.mp unmarked
      simp only [styleMarks, List.mem_cons, List.not_mem_nil, or_false, not_or] at here
      obtain ⟨_, noSemicolon, noOpening, noClosing⟩ := here
      exact .plain noOpening noClosing (fun same => absurd same noSemicolon)
        (induction later)

theorem of_blank (areBlank : ∀ c ∈ left, isBlank c = true) : Matched inside left :=
  of_unmarked fun c member => notMem_styleMarks_of_isBlank c (areBlank c member)

theorem append (first : Matched inside left) (second : Matched inside right) :
    Matched inside (left ++ right) := by
  induction first with
  | nil => exact second
  | plain noOpening noClosing semicolon _ induction =>
      exact .plain noOpening noClosing semicolon (induction second)
  | group inner _ _ induction =>
      rw [List.cons_append, List.append_assoc, List.cons_append]
      exact .group inner (induction second)

end Matched

theorem Padded.matched (isPadded : Padded text padded) (matched : Matched false text) :
    Matched false padded := by
  obtain ⟨before, after, rfl, blanksBefore, blanksAfter⟩ := isPadded
  exact ((Matched.of_blank blanksBefore).append matched).append (.of_blank blanksAfter)

theorem Lists.matched (listed : Lists declarations items) :
    ∀ item ∈ items, Matched false item := by
  induction listed with
  | nil => simp
  | blank areBlank _ induction =>
      exact List.forall_mem_cons.mpr ⟨.of_blank areBlank, induction⟩
  | @declaration declaration property value _ _ isProperty isValue _ induction =>
      refine List.forall_mem_cons.mpr ⟨?_, induction⟩
      have before : Matched false property :=
        isProperty.matched (.of_unmarked declaration.unmarked)
      have colon : Matched false (':' :: value) :=
        .plain (by decide) (by decide) (by decide)
          (isValue.matched declaration.matched)
      exact before.append colon

/-! ## Cutting at semicolons -/

/-- The number of open parentheses behind a character. -/
def depthBehind (depth : Int) (c : Char) : Int :=
  if c = '(' then depth + 1 else if c = ')' then depth - 1 else depth

theorem splitDeclarations_ne_nil (depth : Int) (text : List Char) :
    splitDeclarations depth text ≠ [] := by
  cases text with
  | nil => simp [splitDeclarations]
  | cons c text =>
      rw [splitDeclarations]
      split
      · simp
      · dsimp only
        split <;> simp

theorem splitDeclarations_semicolon (text : List Char) :
    splitDeclarations 0 (';' :: text) = [] :: splitDeclarations 0 text := by
  simp [splitDeclarations]

/-- A character that is no separator belongs to the first item. -/
theorem splitDeclarations_cons {depth : Int} {c : Char} (inItem : c = ';' → 0 < depth)
    (text : List Char) :
    splitDeclarations depth (c :: text) =
      (splitDeclarations (depthBehind depth c) text).modifyHead (c :: ·) := by
  have noCut : ¬ (decide (c = ';') && decide (depth ≤ 0)) = true := by
    simp only [Bool.and_eq_true, decide_eq_true_eq, not_and, Int.not_le]
    exact inItem
  have behind : (if c = '(' then depth + 1 else if c = ')' then depth - 1 else depth) =
      depthBehind depth c := rfl
  obtain ⟨first, others, split⟩ :=
    List.exists_cons_of_ne_nil (splitDeclarations_ne_nil (depthBehind depth c) text)
  rw [splitDeclarations, if_neg noCut]
  dsimp only
  rw [behind, split, List.modifyHead_cons]

/-- No text with matched parentheses is cut.  Inside of parentheses the depth is
positive, and behind the text it is as before. -/
theorem splitDeclarations_append {inside : Bool} {part : List Char}
    (matched : Matched inside part) {depth : Int} (nonneg : 0 ≤ depth)
    (isInside : inside = true → 0 < depth) (text : List Char) :
    splitDeclarations depth (part ++ text) =
      (splitDeclarations depth text).modifyHead (part ++ ·) := by
  induction matched generalizing depth text with
  | nil =>
      rw [List.nil_append]
      cases splitDeclarations depth text <;> rfl
  | @plain _ c part noOpening noClosing semicolon _ induction =>
      have same :
          depthBehind depth c = depth := by simp [depthBehind, noOpening, noClosing]
      rw [List.cons_append, splitDeclarations_cons fun separator =>
        isInside (semicolon separator),
          same, induction nonneg isInside, List.modifyHead_modifyHead]
      rfl
  | @group _ inner part _ _ inGroup behind =>
      have opened : depthBehind depth '(' = depth + 1 := by simp [depthBehind]
      have closed : depthBehind (depth + 1) ')' = depth := by simp [depthBehind]
      -- Even at the top, the inner text has the parenthesis of its own group open.
      have deeper : 0 < depth + 1 := by omega
      have shape : '(' :: (inner ++ ')' :: part) ++ text =
          '(' :: (inner ++ ')' :: (part ++ text)) := by simp
      rw [shape, splitDeclarations_cons (by simp), opened,
        inGroup (Int.le_of_lt deeper) fun _ => deeper,
        splitDeclarations_cons (by simp), closed, behind nonneg isInside]
      simp only [List.modifyHead_modifyHead]
      congr 1
      funext first
      simp

/-- Items are told apart. -/
theorem splitDeclarations_intercalate {item : List Char}
    (matched : ∀ each ∈ item :: items, Matched false each) :
    splitDeclarations 0 ([';'].intercalate (item :: items)) = item :: items := by
  induction items generalizing item with
  | nil =>
      have here := matched item List.mem_cons_self
      have whole := splitDeclarations_append here (Int.le_refl 0) nofun []
      simpa [splitDeclarations] using whole
  | cons next items induction =>
      obtain ⟨here, later⟩ := List.forall_mem_cons.mp matched
      rw [List.intercalate_cons_cons, List.append_assoc, List.singleton_append,
        splitDeclarations_append here (Int.le_refl 0) nofun,
        splitDeclarations_semicolon,
        induction later, List.modifyHead_cons, List.append_nil]

/-! ## Reading -/

theorem declaration?_blank {blanks : List Char}
    (areBlank : ∀ c ∈ blanks, isBlank c = true) : declaration? blanks = none := by
  have noColon : ':' ∉ blanks := fun member => absurd (areBlank ':' member) (by decide)
  rw [declaration?, splitOnce?_of_notMem noColon]

theorem declaration?_padded (declaration : Declaration) {property value : List Char}
    (isProperty : Padded declaration.property property)
    (isValue : Padded declaration.value value) :
    declaration? (property ++ ':' :: value) =
      some (String.ofList declaration.property, String.ofList declaration.value) := by
  have noColon : ':' ∉ property := by
    intro member
    have unmarked :=
      isProperty.forall_mem declaration.unmarked notMem_styleMarks_of_isBlank
    exact unmarked ':' member (by decide)
  have cut := splitOnce?_char noColon value
  have name := isProperty.trim_eq declaration.property_trimmed
  have content := isValue.trim_eq declaration.value_trimmed
  simp [declaration?, cut, name, content, declaration.nonempty]

/-- Every declaration is read from its item, and none from a blank one. -/
theorem Lists.filterMap_eq (listed : Lists declarations items) :
    items.filterMap declaration? = declarations.map fun declaration =>
      (String.ofList declaration.property, String.ofList declaration.value) := by
  induction listed with
  | nil => rfl
  | blank areBlank _ induction =>
      rw [List.filterMap_cons_none (declaration?_blank areBlank), induction]
  | @declaration declaration _ _ _ _ isProperty isValue _ induction =>
      rw [List.filterMap_cons_some
        (declaration?_padded declaration isProperty isValue), induction, List.map_cons]

/-- Declarations are read back from every text that lists them between semicolons:
the object literal has their entries, in their order. -/
theorem styleObject_intercalate (listed : Lists declarations items) :
    styleObject (String.ofList ([';'].intercalate items)) =
      object (declarations.map Declaration.entry) := by
  have read : (splitDeclarations 0 ([';'].intercalate items)).filterMap declaration? =
      items.filterMap declaration? := by
    cases items with
    | nil => rfl
    | cons item items => rw [splitDeclarations_intercalate listed.matched]
  rw [styleObject, String.toList_ofList, read, listed.filterMap_eq, List.map_map]
  rfl

/-- A list between empty items, the second declaration with semicolons and colons
in its parentheses. -/
theorem image_style_read : ∃ declarations : List Declaration,
    Lists declarations [[' '], "color".toList ++ ':' :: " red".toList, [],
      "\u3000background ".toList ++ ':' :: "url(a;(b:c);) fixed\n".toList, []] ∧
    styleObject " ;color: red;;\u3000background :url(a;(b:c);) fixed\n;" =
      "\x7b\"color\":\"red\",\"background\":\"url(a;(b:c);) fixed\"\x7d" := by
  have inner : Matched true "b:c".toList :=
    .plain (by decide) (by decide) (by decide) <|
      .plain (by decide) (by decide) (by decide) <|
      .plain (by decide) (by decide) (by decide) .nil
  have group : Matched true "a;(b:c);".toList :=
    .plain (by decide) (by decide) (by decide) <|
      .plain (by decide) (by decide) (by decide) <|
      .group inner <| .plain (by decide) (by decide) (by decide) .nil
  have image : Matched false "url(a;(b:c);) fixed".toList :=
    (Matched.of_unmarked (by decide) : Matched false "url".toList).append
      (.group group (.of_unmarked (by decide)))
  let color : Declaration := ⟨"color".toList,
    "red".toList, by decide, by decide, by decide, by decide, .of_unmarked (by decide)⟩
  let background : Declaration := ⟨"background".toList,
    "url(a;(b:c);) fixed".toList, by decide,
    by decide, by decide +kernel, by decide +kernel, image⟩
  have nothing : ∀ c ∈ [], isBlank c = true := List.forall_mem_nil _
  have one {c : Char} (blank : isBlank c = true) : ∀ d ∈ [c], isBlank d = true :=
    List.forall_mem_singleton.mpr blank
  have colorName : Padded color.property "color".toList :=
    ⟨[], [], rfl, nothing, nothing⟩
  have colorValue : Padded color.value " red".toList :=
    ⟨[' '], [], rfl, one (by decide), nothing⟩
  have backgroundName : Padded background.property "\u3000background ".toList :=
    ⟨['\u3000'], [' '], rfl, one (by decide), one (by decide)⟩
  have backgroundValue : Padded background.value "url(a;(b:c);) fixed\n".toList :=
    ⟨[], ['\n'], rfl, nothing, one (by decide)⟩
  have listed : Lists [color, background] [[' '],
      "color".toList ++ ':' :: " red".toList, [],
      "\u3000background ".toList ++ ':' :: "url(a;(b:c);) fixed\n".toList, []] :=
    .blank (one (by decide)) <| .declaration colorName colorValue <| .blank nothing <|
      .declaration backgroundName backgroundValue <| .blank nothing .nil
  have joined : String.ofList ([';'].intercalate [[' '],
      "color".toList ++ ':' :: " red".toList, [],
      "\u3000background ".toList ++ ':' :: "url(a;(b:c);) fixed\n".toList, []]) =
      " ;color: red;;\u3000background :url(a;(b:c);) fixed\n;" := by decide +kernel
  have read := styleObject_intercalate listed
  rw [joined] at read
  have written : object
      [literal (String.ofList "color".toList) ++ ":" ++
        literal (String.ofList "red".toList),
        literal (String.ofList "background".toList) ++ ":" ++
          literal (String.ofList "url(a;(b:c);) fixed".toList)] =
      "\x7b\"color\":\"red\",\"background\":\"url(a;(b:c);) fixed\"\x7d" := by
      decide +kernel
  exact ⟨[color, background], listed, read.trans written⟩

end VuePrecompiler.Render
