import VuePrecompiler.Proofs.Separators
import VuePrecompiler.Template.Loop

/-!
# Written loop expressions

A loop expression lists one to three names in parentheses, before a keyword and
the source.  It is cut at the first ` in `, and at ` of ` only if there is no
` in ` at all; so a source behind `of` is read back unless it holds an ` in `
itself.
-/

namespace VuePrecompiler.Template

open Source Text

/-! ## Written loop expressions -/

/-- The names of a loop as an expression lists them. -/
def listed (names : List (List Char)) : List Char :=
  ", ".toList.intercalate names

/-- The keyword of a loop expression. -/
inductive LoopWord where
  | inWord
  | ofWord
deriving DecidableEq

namespace LoopWord

/-- A keyword between blanks. -/
def spaced : LoopWord → List Char
  | .inWord => " in ".toList
  | .ofWord => " of ".toList

/-- A loop expression with names in parentheses. -/
def between (word : LoopWord) (names source : List Char) : List Char :=
  '(' :: (names ++ ')' :: (word.spaced ++ source))

/-- The keyword is the one at which the expression is cut: it is not among the
names, and an `of` is the keyword only without an ` in ` on either side. -/
structure IsCut (word : LoopWord) (names source : List Char) : Prop where
  first : ¬ word.spaced <:+: names
  only :
    word = .ofWord → ¬ inWord.spaced <:+: names ∧ ¬ inWord.spaced <:+: ' ' :: source

end LoopWord

/-- How many more braces and brackets a text opens than it closes. -/
def openBrackets (text : List Char) : Int :=
  text.countP (fun c => c = '{' || c = '[') - text.countP fun c => c = '}' || c = ']'

/-- Every comma of a text stands in brackets, and the brackets are closed. -/
structure HidesCommas (text : List Char) : Prop where
  closed : openBrackets text = 0
  commas : ∀ before after, text = before ++ ',' :: after → openBrackets before ≠ 0

instance (text : List Char) : Decidable (HidesCommas text) :=
  decidable_of_iff (openBrackets text = 0 ∧
      ∀ n < text.length, text[n]? = some ',' → openBrackets (text.take n) ≠ 0) <| by
    constructor
    · rintro ⟨closed, commas⟩
      refine ⟨closed, ?_⟩
      rintro before after rfl
      have here := commas before.length (by simp) (by simp)
      rwa [List.take_left' rfl] at here
    · rintro ⟨closed, commas⟩
      refine ⟨closed, fun n bound comma => commas _ (text.drop (n + 1)) ?_⟩
      rw [List.getElem?_eq_getElem bound, Option.some_inj] at comma
      rw [← comma, ← List.drop_eq_getElem_cons bound, List.take_append_drop]

/-- The names of a loop: variables or destructuring patterns without
blanks around them. -/
structure AreAliases (names : List (List Char)) : Prop where
  nonempty : names ≠ []
  trimmed : ∀ name ∈ names, trim name = name
  hide : ∀ name ∈ names, HidesCommas name

/-- The head of a loop that names its value and perhaps its key and its index. -/
def LoopHead.naming (names : List (List Char)) (source : List Char) (span : Span) :
    LoopHead where
  source := ⟨String.ofList source, span⟩
  value := ⟨String.ofList (names.headD []), span⟩
  key := names[1]?.map fun name => ⟨String.ofList name, span⟩
  index := names[2]?.map fun name => ⟨String.ofList name, span⟩

/-! ## Where the expression is cut -/

namespace LoopWord

theorem spaced_ne_nil (word : LoopWord) : word.spaced ≠ [] := by
  cases word <;> decide

theorem length_spaced (word : LoopWord) : word.spaced.length = 4 := by
  cases word <;> rfl

/-- Of the blanks behind a keyword nothing is left. -/
theorem trimEnd_spaced (word : LoopWord) (front : List Char) {blanks : List Char}
    (areBlank : ∀ c ∈ blanks, isBlank c = true) :
    trimEnd (front ++ (word.spaced ++ blanks)) = front ++ word.spaced.dropLast := by
  obtain ⟨letters, last, split, visible⟩ : ∃ letters last,
      word.spaced = letters ++ [last, ' '] ∧ isBlank last = false := by
    cases word with
    | inWord => exact ⟨[' ', 'i'], 'n', by decide⟩
    | ofWord => exact ⟨[' ', 'o'], 'f', by decide⟩
  have blanks' : ∀ c ∈ ' ' :: blanks, isBlank c = true :=
    List.forall_mem_cons.mpr ⟨by decide, areBlank⟩
  have shape : front ++ (word.spaced ++ blanks) = (front ++ letters ++ [last]) ++
      ' ' :: blanks := by
    simp [split]
  have dropped : word.spaced.dropLast = letters ++ [last] := by simp [split]
  rw [shape, trimEnd_append_blanks _ blanks', trimEnd_append_visible _ visible,
    dropped, List.append_assoc]

theorem notMem_spaced (word : LoopWord) : '(' ∉ word.spaced ∧ ')' ∉ word.spaced := by
  cases word <;> decide

theorem infix_parenthesized (word : LoopWord) (names rest : List Char) :
    word.spaced <:+: '(' :: (names ++ ')' :: rest) ↔
      word.spaced <:+: names ∨ word.spaced <:+: rest := by
  have outside := infix_append_cons word.notMem_spaced.1 [] (names ++ ')' :: rest)
  rw [List.nil_append, infix_append_cons word.notMem_spaced.2] at outside
  rw [outside, List.infix_nil]
  exact or_iff_right word.spaced_ne_nil

end LoopWord

theorem between_eq (word : LoopWord) (names source : List Char) :
    word.between names source = '(' :: (names ++ [')']) ++
      (word.spaced ++ source) := by
  simp [LoopWord.between]

theorem splitOnce?_between {word : LoopWord} {names : List Char}
    (first : ¬ word.spaced <:+: names) (source : List Char) :
    splitOnce? word.spaced (word.between names source) =
      some ('(' :: (names ++ [')']), source) := by
  have short : ¬ word.spaced <:+: word.spaced.dropLast := by
    intro occurs
    have := occurs.length_le
    have := List.length_pos_iff.mpr word.spaced_ne_nil
    rw [List.length_dropLast] at *
    omega
  have shape : '(' :: (names ++ [')']) ++ word.spaced.dropLast =
      '(' :: (names ++ ')' :: word.spaced.dropLast) := by simp
  rw [between_eq]
  refine splitOnce?_append word.spaced_ne_nil ?_ source
  rw [shape, word.infix_parenthesized, not_or]
  exact ⟨first, short⟩

theorem inWord_infix_ofWord (names source : List Char) :
    LoopWord.inWord.spaced <:+: LoopWord.ofWord.between names source ↔
      LoopWord.inWord.spaced <:+: names ∨
      LoopWord.inWord.spaced <:+: ' ' :: source := by
  have other : 'f' ∉ LoopWord.inWord.spaced := by decide
  have blank : ¬ LoopWord.inWord.spaced <:+: [' ', 'o'] := by decide
  have behind := infix_append_cons other [' ', 'o'] (' ' :: source)
  rw [LoopWord.between, LoopWord.infix_parenthesized]
  exact or_congr_right (behind.trans (or_iff_right blank))

/-- An expression is cut at its keyword exactly if nothing of the names or the
source is taken for one. -/
theorem splitLoop?_between_iff (word : LoopWord) (names source : List Char) :
    splitLoop? (word.between names source) = some ('(' :: (names ++ [')']), source) ↔
      word.IsCut names source := by
  have inMore := LoopWord.inWord.spaced_ne_nil
  have ofMore := LoopWord.ofWord.spaced_ne_nil
  have namesPart {other : LoopWord} {text : List Char}
      (found : splitOnce? other.spaced text = some ('(' :: (names ++ [')']), source)) :
      ¬ other.spaced <:+: names := by
    intro occurs
    refine not_infix_of_splitOnce? other.spaced_ne_nil found ?_
    exact List.infix_cons (List.infix_append_of_infix_left occurs)
  have sameWord {other : LoopWord}
      (found : splitOnce? other.spaced (word.between names source) =
        some ('(' :: (names ++ [')']), source)) : other = word := by
    have shape := of_splitOnce?_eq_some found
    rw [between_eq, List.append_right_inj, List.append_left_inj] at shape
    revert shape
    cases word <;> cases other <;> decide
  constructor
  · intro cut
    rcases Option.or_eq_some_iff.mp cut with atIn | ⟨noIn, atOf⟩
    · obtain rfl := @sameWord .inWord atIn
      exact ⟨@namesPart .inWord _ atIn, nofun⟩
    · obtain rfl := @sameWord .ofWord atOf
      refine ⟨@namesPart .ofWord _ atOf, fun _ => ?_⟩
      rw [← not_or, ← inWord_infix_ofWord]
      exact (splitOnce?_eq_none_iff inMore).mp noIn
  · rintro ⟨first, only⟩
    cases word with
    | inWord =>
        exact Option.or_eq_some_iff.mpr (.inl (splitOnce?_between first source))
    | ofWord =>
        refine Option.or_eq_some_iff.mpr (.inr ⟨?_, splitOnce?_between first source⟩)
        refine (splitOnce?_eq_none_iff inMore).mpr ?_
        rw [inWord_infix_ofWord, not_or]
        exact only rfl

/-! ## Which names are told apart -/

@[simp] theorem openBrackets_nil : openBrackets [] = 0 := rfl

theorem openBrackets_append (left right : List Char) :
    openBrackets (left ++ right) = openBrackets left + openBrackets right := by
  rw [openBrackets, openBrackets, openBrackets, List.countP_append, List.countP_append]
  omega

theorem splitPatterns_ne_nil (depth : Int) (text : List Char) :
    splitPatterns depth text ≠ [] := by
  cases text with
  | nil => exact List.cons_ne_nil _ _
  | cons c text =>
      rw [splitPatterns]
      split
      · exact List.cons_ne_nil _ _
      · dsimp only
        split <;> exact List.cons_ne_nil _ _

/-- Outside of a top-level comma, a character belongs to the first name. -/
theorem splitPatterns_cons {depth : Int} {c : Char} (inside : c = ',' → depth ≠ 0)
    {text first : List Char} {others : List (List Char)}
    (rest : splitPatterns (depth + openBrackets [c]) text = first :: others) :
    splitPatterns depth (c :: text) = (c :: first) :: others := by
  have noCut : ¬ (decide (c = ',') && decide (depth = 0)) = true := by
    rw [Bool.and_eq_true, decide_eq_true_eq, decide_eq_true_eq]
    exact fun ⟨comma, top⟩ => inside comma top
  have deeper : (if c = '{' || c = '[' then depth + 1
      else if c = '}' || c = ']' then depth - 1
      else depth) = depth + openBrackets [c] := by
    rw [openBrackets, List.countP_singleton, List.countP_singleton]
    split
    · next opens =>
      have bracket : c = '{' ∨ c = '[' := by simpa using opens
      have closes : (decide (c = '}') || decide (c = ']')) = false := by
        rcases bracket with rfl | rfl <;> decide
      rw [closes]
      rfl
    · split <;> simp [Int.sub_eq_add_neg]
  rw [splitPatterns, if_neg noCut]
  dsimp only
  rw [deeper, rest]

/-- A name whose commas stand in brackets is not cut. -/
theorem splitPatterns_append {depth : Int} {name : List Char}
    (inside : ∀ before after, name = before ++ ',' :: after →
      depth + openBrackets before ≠ 0)
    {text first : List Char} {others : List (List Char)}
    (rest : splitPatterns (depth + openBrackets name) text = first :: others) :
    splitPatterns depth (name ++ text) = (name ++ first) :: others := by
  induction name generalizing depth with
  | nil =>
      rw [openBrackets_nil, Int.add_zero] at rest
      exact rest
  | cons c name induction =>
      have step (part : List Char) :
          depth + openBrackets (c :: part) = depth + openBrackets [c] +
            openBrackets part := by
        rw [← List.singleton_append, openBrackets_append, Int.add_assoc]
      rw [step] at rest
      refine splitPatterns_cons ?_ (induction ?_ rest)
      · rintro rfl
        have top := inside [] name rfl
        rwa [openBrackets_nil, Int.add_zero] at top
      · rintro before after rfl
        rw [← step]
        exact inside (c :: before) after rfl

namespace HidesCommas

variable {name : List Char}

theorem splitPatterns_comma (hides : HidesCommas name) (text : List Char) :
    splitPatterns 0 (name ++ ',' :: text) = name :: splitPatterns 0 text := by
  have rest : splitPatterns (0 + openBrackets name) (',' :: text) =
      [] :: splitPatterns 0 text := by
    rw [hides.closed]
    rfl
  have inside : ∀ before after, name = before ++ ',' :: after →
      0 + openBrackets before ≠ 0 := by
    intro before after shape
    rw [Int.zero_add]
    exact hides.commas before after shape
  rw [splitPatterns_append inside rest, List.append_nil]

/-- A character other than a comma or a bracket may stand in front of a name. -/
theorem cons (hides : HidesCommas name) (c : Char) (noComma : c ≠ ',')
    (noBracket : openBrackets [c] = 0) : HidesCommas (c :: name) where
  closed := by
    rw [← List.singleton_append, openBrackets_append, noBracket,
      hides.closed, Int.add_zero]
  commas := by
    intro before after shape
    cases before with
    | nil => exact absurd (List.cons.inj shape).1 noComma
    | cons first before =>
        obtain ⟨rfl, rfl⟩ := List.cons.inj shape
        rw [← List.singleton_append, openBrackets_append, noBracket, Int.zero_add]
        exact hides.commas before after rfl

end HidesCommas

theorem listed_cons_cons (name next : List Char) (names : List (List Char)) :
    listed (name :: next :: names) = name ++ ',' ::
      listed ((' ' :: next) :: names) := by
  cases names <;> simp [listed, List.intercalate]

theorem cons_listed (c : Char) (name : List Char) (names : List (List Char)) :
    c :: listed (name :: names) = listed ((c :: name) :: names) := by
  cases names <;> simp [listed, List.intercalate]

/-- Listed names are told apart, each but the first with the blank in front of it. -/
theorem splitPatterns_listed {name : List Char} {names : List (List Char)}
    (are : ∀ each ∈ name :: names, HidesCommas each) :
    splitPatterns 0 (listed (name :: names)) = name :: names.map (' ' :: ·) := by
  induction names generalizing name with
  | nil =>
      have hides := are name List.mem_cons_self
      have whole : listed [name] = name ++ [] := by simp [listed, List.intercalate]
      have inside : ∀ before after, name = before ++ ',' :: after →
          0 + openBrackets before ≠ 0 := by
        intro before after shape
        rw [Int.zero_add]
        exact hides.commas before after shape
      rw [whole]
      exact (splitPatterns_append inside rfl).trans (by rw [List.append_nil]; rfl)
  | cons next names induction =>
      obtain ⟨hides, isNext, others⟩ := List.forall_mem_cons.mp are |>.imp_right
        List.forall_mem_cons.mp
      have spaced := isNext.cons ' ' (by decide) (by decide)
      rw [listed_cons_cons, hides.splitPatterns_comma,
        induction (List.forall_mem_cons.mpr ⟨spaced, others⟩), List.map_cons]

/-- As many names are told apart as are listed, whatever text follows them. -/
theorem length_splitPatterns_listed {name : List Char} {names : List (List Char)}
    (are : ∀ each ∈ name :: names, HidesCommas each) (text : List Char) :
    names.length < (splitPatterns 0 (listed (name :: names) ++ text)).length := by
  induction names generalizing name with
  | nil => exact List.length_pos_iff.mpr (splitPatterns_ne_nil 0 _)
  | cons next names induction =>
      obtain ⟨hides, isNext, others⟩ := List.forall_mem_cons.mp are |>.imp_right
        List.forall_mem_cons.mp
      have spaced := isNext.cons ' ' (by decide) (by decide)
      have later := induction (List.forall_mem_cons.mpr ⟨spaced, others⟩)
      rw [listed_cons_cons, List.append_assoc, List.cons_append,
        hides.splitPatterns_comma, List.length_cons, List.length_cons]
      exact Nat.succ_lt_succ later

/-! ## Reading -/

/-- The names in front of a cut, without parentheses around all of them. -/
theorem LoopHead.ofCode?_of_cut {code : Code} {aliases source : List Char}
    (cut : splitLoop? (trim code.content.toList) = some (aliases, source))
    {names : List (List Char)}
    (pieces : splitPatterns 0
      ((insideBrackets? '(' ')' (trim aliases)).getD (trim aliases)) = names) :
    LoopHead.ofCode? code =
      if trim (names.headD []) = [] ∨ trim source = [] ∨ 3 < names.length then none
      else some (LoopHead.naming (names.map trim) (trim source) code.span) := by
  unfold LoopHead.ofCode?
  rw [cut]
  dsimp only [Option.bind_eq_bind, Option.bind_some]
  rw [pieces]
  rcases names with _ | ⟨value, _ | ⟨key, _ | ⟨index, _ | ⟨more, names⟩⟩⟩⟩
  · rfl
  · simp [naming]
  · simp [naming]
  · simp [naming]
  · simp

theorem LoopHead.ofCode?_of_no_cut {code : Code}
    (uncut : splitLoop? (trim code.content.toList) = none) :
    LoopHead.ofCode? code = none := by
  unfold LoopHead.ofCode?
  rw [uncut]
  rfl

theorem LoopHead.ofDirective_value (directive : Directive) (code : Code) :
    LoopHead.ofDirective { directive with value := some code } =
      (LoopHead.ofCode? code).elim (.error (.invalidLoop code.content code.span))
        .ok := by
  rw [LoopHead.ofDirective]
  dsimp only
  cases LoopHead.ofCode? code <;> rfl

section

variable {word : LoopWord} {names source before after : List Char}

/-- Blanks around an expression are of no account. -/
theorem trim_between (isTrimmed : trim source = source) (more : source ≠ [])
    (blanksBefore : ∀ c ∈ before, isBlank c = true)
    (blanksAfter : ∀ c ∈ after, isBlank c = true) :
    trim (before ++ (word.between names source ++ after)) =
      word.between names source := by
  obtain ⟨front, last, rfl, visible⟩ := exists_last_of_trim isTrimmed more
  have shape : word.between names (front ++ [last]) =
      '(' :: ((names ++ ')' :: (word.spaced ++ front)) ++ [last]) := by
      simp [LoopWord.between]
  rw [shape]
  exact trim_visible _ blanksBefore (by decide) visible blanksAfter

/-- Without a source, the keyword has no blank behind it. -/
theorem splitLoop?_between_nil (clear : ∀ other : LoopWord, ¬ other.spaced <:+: names)
    (blanksBefore : ∀ c ∈ before, isBlank c = true)
    (blanksAfter : ∀ c ∈ after, isBlank c = true) :
    splitLoop? (trim (before ++ (word.between names [] ++ after))) = none := by
  have trimmed : trim (before ++ (word.between names [] ++ after)) =
      '(' :: (names ++ ')' :: word.spaced.dropLast) := by
    have start : trimStart (before ++ (word.between names [] ++ after)) =
        '(' :: (names ++ [')']) ++ (word.spaced ++ after) := by
      rw [trimStart, List.dropWhile_append_of_pos blanksBefore, between_eq,
        List.append_nil, List.append_assoc, List.cons_append, List.dropWhile_cons,
        if_neg (by decide)]
    rw [trim, start, word.trimEnd_spaced _ blanksAfter]
    simp
  have uncut (other : LoopWord) :
      splitOnce? other.spaced ('(' :: (names ++ ')' :: word.spaced.dropLast)) =
        none := by
    rw [splitOnce?_eq_none_iff other.spaced_ne_nil, other.infix_parenthesized, not_or]
    refine ⟨clear other, fun occurs => ?_⟩
    have short := occurs.length_le
    rw [List.length_dropLast, other.length_spaced, word.length_spaced] at short
    omega
  rw [trimmed]
  exact Option.or_eq_none_iff.mpr ⟨uncut .inWord, uncut .ofWord⟩

theorem of_splitLoop?_eq_some {text aliases behind : List Char}
    (cut : splitLoop? text = some (aliases, behind)) :
    ∃ other : LoopWord, text = aliases ++ (other.spaced ++ behind) := by
  rcases Option.or_eq_some_iff.mp cut with atIn | ⟨_, atOf⟩
  · exact ⟨.inWord, of_splitOnce?_eq_some atIn⟩
  · exact ⟨.ofWord, of_splitOnce?_eq_some atOf⟩

/-- The source is read back only if the expression is cut in front of it. -/
theorem cut_unique (isTrimmed : trim source = source) (more : source ≠ [])
    {aliases behind : List Char}
    (cut : splitLoop? (word.between names source) = some (aliases, behind))
    (same : trim behind = source) :
    aliases = '(' :: (names ++ [')']) ∧ behind = source := by
  obtain ⟨other, shape⟩ := of_splitLoop?_eq_some cut
  obtain ⟨blanks, ending, parts, areBlank, endsBlank⟩ := exists_trim behind
  obtain ⟨front, last, split, visible⟩ := exists_last_of_trim isTrimmed more
  have kept (text : List Char) : trimEnd (text ++ source) = text ++ source := by
    rw [split, ← List.append_assoc, trimEnd_append_visible _ visible]
  have whole : '(' :: (names ++ [')']) ++ word.spaced ++ source =
      aliases ++ (other.spaced ++ blanks) ++ source ++ ending := by
    rw [List.append_assoc, ← between_eq, shape, parts, same]
    simp only [List.append_assoc]
  have front := congrArg trimEnd whole
  rw [trimEnd_append_blanks _ endsBlank, kept, kept, List.append_left_inj] at front
  have noEnding : ending = [] := by
    rw [front] at whole
    exact List.append_right_eq_self.mp whole.symm
  have words := congrArg trimEnd front
  rw [← List.append_nil word.spaced, word.trimEnd_spaced _ (List.forall_mem_nil _),
    other.trimEnd_spaced _ areBlank] at words
  have lengths : word.spaced.dropLast.length = other.spaced.dropLast.length := by
    rw [List.length_dropLast, List.length_dropLast, word.length_spaced,
      other.length_spaced]
  obtain ⟨rfl, _⟩ := List.append_inj' words lengths
  have noBlanks : blanks = [] := by
    have rest := congrArg List.length (List.append_cancel_left front)
    rw [List.length_append, word.length_spaced, other.length_spaced] at rest
    exact List.length_eq_zero_iff.mp (by omega)
  rw [parts, same, noBlanks, noEnding, List.append_nil]
  exact ⟨rfl, rfl⟩

/-- Wherever an expression is cut, its names are in front of the cut. -/
theorem exists_of_cut (clear : ∀ other : LoopWord, ¬ other.spaced <:+: names)
    {aliases behind : List Char}
    (cut : splitLoop? (word.between names source) = some (aliases, behind)) :
    ∃ text, aliases = '(' :: (names ++ ')' :: text) := by
  obtain ⟨other, shape⟩ := of_splitLoop?_eq_some cut
  have parts : '(' :: names ++ (')' :: (word.spaced ++ source)) =
      aliases ++ (other.spaced ++ behind) := shape
  rcases in_front_or_behind other.notMem_spaced.2 parts with ⟨rest, front⟩ | early
  · exact ⟨rest, front⟩
  · have inNames := (infix_append_cons other.notMem_spaced.1 [] names).mp early
    rw [List.infix_nil] at inNames
    exact absurd inNames (not_or.mpr ⟨other.spaced_ne_nil, clear other⟩)

end

/-- With the names told apart, all of them are known. -/
theorem AreAliases.pieces {names : List (List Char)} (are : AreAliases names) :
    ∃ pieces, splitPatterns 0 (listed names) = pieces ∧ pieces.map trim = names ∧
      trim (pieces.headD []) = names.headD [] := by
  obtain ⟨nonempty, trimmed, hide⟩ := are
  cases names with
  | nil => contradiction
  | cons name names =>
      refine ⟨_, splitPatterns_listed hide, ?_, trimmed name List.mem_cons_self⟩
      rw [List.map_cons, trimmed name List.mem_cons_self, List.map_map]
      refine congrArg (name :: ·) ((List.map_congr_left ?_).trans (List.map_id names))
      exact fun other member =>
        trim_cons_blank (trimmed other (List.mem_cons_of_mem _ member))

theorem insideBrackets?_parentheses (names : List Char) :
    insideBrackets? '(' ')' ('(' :: (names ++ [')'])) = some names := by
  simp [insideBrackets?]

/-- An expression that is cut at its keyword gives its names and its source. -/
theorem ofCode?_of_isCut {code : Code} {word : LoopWord} {names : List (List Char)}
    {source : List Char} (are : AreAliases names) (isTrimmed : trim source = source)
    (isCut : word.IsCut (listed names) source)
    (content : trim code.content.toList = word.between (listed names) source) :
    LoopHead.ofCode? code =
      if names.headD [] = [] ∨ source = [] ∨ 3 < names.length then none
      else some (LoopHead.naming names source code.span) := by
  obtain ⟨pieces, split, trimmed, head⟩ := are.pieces
  have cut := (splitLoop?_between_iff word (listed names) source).mpr isCut
  rw [← content] at cut
  have visible :
      trim ('(' :: (listed names ++ [')'])) = '(' :: (listed names ++ [')']) := by
    have around :=
      @trim_visible '(' ')' (listed names) [] [] (List.forall_mem_nil _) (by decide)
        (by decide) (List.forall_mem_nil _)
    rwa [List.append_nil] at around
  have lengths : pieces.length = names.length := by rw [← trimmed, List.length_map]
  have told :
      splitPatterns 0 ((insideBrackets? '(' ')'
        (trim ('(' :: (listed names ++ [')'])))).getD
        (trim ('(' :: (listed names ++ [')'])))) = pieces := by
    rw [visible, insideBrackets?_parentheses, Option.getD_some, split]
  rw [LoopHead.ofCode?_of_cut cut told, head, isTrimmed, trimmed, lengths]

/-- An expression whose source is read back is cut at its keyword. -/
theorem isCut_of_ofCode? {code : Code} {word : LoopWord} {names source : List Char}
    (isTrimmed : trim source = source) (more : source ≠ [])
    (content : trim code.content.toList = word.between names source) {head : LoopHead}
    (found : LoopHead.ofCode? code = some head)
    (same : head.source.content = String.ofList source) : word.IsCut names source := by
  cases cut : splitLoop? (trim code.content.toList) with
  | none =>
      rw [LoopHead.ofCode?_of_no_cut cut] at found
      contradiction
  | some parts =>
      obtain ⟨aliases, behind⟩ := parts
      rw [LoopHead.ofCode?_of_cut cut rfl] at found
      split at found
      · contradiction
      · obtain rfl := Option.some.inj found
        rw [content] at cut
        obtain ⟨rfl, rfl⟩ :=
          cut_unique isTrimmed more cut (String.ofList_injective same)
        exact (splitLoop?_between_iff word names behind).mp cut

/-- More than three names are refused, wherever the expression is cut. -/
theorem ofCode?_of_many {code : Code} {word : LoopWord} {names : List (List Char)}
    {source : List Char} (are : AreAliases names)
    (clear : ∀ other : LoopWord, ¬ other.spaced <:+: listed names)
    (many : 3 < names.length)
    (content : trim code.content.toList = word.between (listed names) source) :
    LoopHead.ofCode? code = none := by
  cases cut : splitLoop? (trim code.content.toList) with
  | none => exact LoopHead.ofCode?_of_no_cut cut
  | some parts =>
      obtain ⟨aliases, behind⟩ := parts
      have here := cut
      rw [content] at here
      obtain ⟨rest, rfl⟩ := exists_of_cut clear here
      rw [LoopHead.ofCode?_of_cut cut rfl]
      refine if_pos (.inr (.inr ?_))
      have shape : trim ('(' :: (listed names ++ ')' :: rest)) =
          '(' :: (listed names ++ ')' :: trimEnd rest) := by
        rw [trim, trimStart, List.dropWhile_cons, if_neg (by decide),
          ← List.cons_append, trimEnd_append_cons _ (by decide), List.cons_append]
      obtain ⟨nonempty, _, hide⟩ := are
      cases names with
      | nil => contradiction
      | cons name names =>
          obtain ⟨first, others⟩ := List.forall_mem_cons.mp hide
          have opened := List.forall_mem_cons.mpr
            ⟨first.cons '(' (by decide) (by decide), others⟩
          rw [shape, insideBrackets?]
          split
          · have last : (listed (name :: names) ++ ')' :: trimEnd rest).dropLast =
                listed (name :: names) ++ (')' :: trimEnd rest).dropLast :=
              List.dropLast_append_of_ne_nil (List.cons_ne_nil _ _)
            rw [Option.getD_some, last]
            exact lt_of_lt_of_le many (length_splitPatterns_listed hide _)
          · rw [Option.getD_none, ← List.cons_append, cons_listed]
            exact lt_of_lt_of_le many (length_splitPatterns_listed opened _)

/-- An expression is read back, with one to three names in any list of names
and with any source, exactly if it is cut at its keyword.  Without a first
name, without a source and with more names it is refused, and so is any text
without a keyword. -/
theorem LoopHead.ofDirective_between {names : List (List Char)}
    (are : AreAliases names) {source : List Char} (isTrimmed : trim source = source)
    (word : LoopWord) {before after : List Char}
    (blanksBefore : ∀ c ∈ before, isBlank c = true)
    (blanksAfter : ∀ c ∈ after, isBlank c = true) (directive : Directive)
    (span : Span) :
    let text := String.ofList (before ++ (word.between (listed names) source ++ after))
    let read (text : String) :=
      LoopHead.ofDirective { directive with value := some ⟨text, span⟩ }
    let isCut := word.IsCut (listed names) source
    let noWord (text : List Char) := ∀ other : LoopWord, ¬ other.spaced <:+: text
    (source ≠ [] → names.length ≤ 3 → names.headD [] ≠ [] →
        (read text = .ok (LoopHead.naming names source span) ↔ isCut)) ∧
      (isCut → source ≠ [] → names.headD [] = [] →
        read text = .error (.invalidLoop text span)) ∧
      (noWord (listed names) → 3 < names.length ∨ source = [] →
        read text = .error (.invalidLoop text span)) ∧
      ∀ other : String, noWord (trim other.toList) →
        read other = .error (.invalidLoop other span) := by
  intro text read isCut noWord
  have readValue (other : String) : read other =
      (LoopHead.ofCode? ⟨other, span⟩).elim (.error (.invalidLoop other span)) .ok :=
    LoopHead.ofDirective_value directive ⟨other, span⟩
  have refused {other : String} (unread : LoopHead.ofCode? ⟨other, span⟩ = none) :
      read other = .error (.invalidLoop other span) := by
    rw [readValue, unread, Option.elim_none]
  have content (more : source ≠ []) :
      trim text.toList = word.between (listed names) source := by
    rw [String.toList_ofList]
    exact trim_between isTrimmed more blanksBefore blanksAfter
  refine ⟨fun more few named => ⟨fun success => ?_, fun cut => ?_⟩,
    fun cut more unnamed => ?_, fun clear fault => ?_, fun other absent => ?_⟩
  · rw [readValue] at success
    cases found : LoopHead.ofCode? ⟨text, span⟩ with
    | none =>
        rw [found] at success
        contradiction
    | some head =>
        rw [found] at success
        refine @isCut_of_ofCode? ⟨text, span⟩ word (listed names) source isTrimmed more
          (content more) head found ?_
        rw [Except.ok.inj success]
        rfl
  · have head :=
      @ofCode?_of_isCut ⟨text, span⟩ word names source are isTrimmed cut (content more)
    rw [if_neg (not_or.mpr ⟨named, not_or.mpr ⟨more, Nat.not_lt.mpr few⟩⟩)] at head
    rw [readValue, head, Option.elim_some]
  · have head :=
      @ofCode?_of_isCut ⟨text, span⟩ word names source are isTrimmed cut (content more)
    rw [if_pos (.inl unnamed)] at head
    exact refused head
  · by_cases empty : source = []
    · subst empty
      refine refused (LoopHead.ofCode?_of_no_cut ?_)
      rw [String.toList_ofList]
      exact splitLoop?_between_nil clear blanksBefore blanksAfter
    · have many := fault.resolve_right empty
      exact refused (ofCode?_of_many are clear many (content empty))
  · refine refused (LoopHead.ofCode?_of_no_cut (Option.or_eq_none_iff.mpr ⟨?_, ?_⟩))
    · exact (splitOnce?_eq_none_iff LoopWord.inWord.spaced_ne_nil).mpr (absent .inWord)
    · exact (splitOnce?_eq_none_iff LoopWord.ofWord.spaced_ne_nil).mpr (absent .ofWord)

/-- Destructured rows with their index, of a source in which both keywords occur. -/
theorem LoopHead.ofDirective_rows :
    let names := ["{ id, name }".toList, "i".toList]
    let source := "(k in o of p)".toList
    let text := " ({ id, name }, i) in (k in o of p)\n"
    AreAliases names ∧ trim source = source ∧
      LoopWord.inWord.IsCut (listed names) source ∧
      LoopHead.ofDirective ⟨"for", none, [], some ⟨text, ⟨12, 49⟩⟩, ⟨5, 50⟩⟩ =
        .ok ⟨⟨"(k in o of p)", ⟨12, 49⟩⟩, ⟨"{ id, name }", ⟨12, 49⟩⟩,
          some ⟨"i", ⟨12, 49⟩⟩, none⟩ := by
  intro names source text
  have are : AreAliases names := ⟨by decide, by decide, by decide⟩
  have isTrimmed : trim source = source := by decide
  have apart : splitOnce? LoopWord.inWord.spaced (listed names) = none := by decide
  have isCut : LoopWord.inWord.IsCut (listed names) source :=
    ⟨(splitOnce?_eq_none_iff LoopWord.inWord.spaced_ne_nil).mp apart, nofun⟩
  have read :=
    @LoopHead.ofDirective_between names are source isTrimmed .inWord " ".toList
      "\n".toList (List.all_eq_true.mp (by decide)) (List.all_eq_true.mp (by decide))
      ⟨"for", none, [], none, ⟨5, 50⟩⟩ ⟨12, 49⟩
  exact ⟨are, isTrimmed, isCut, (read.1 (by decide) (by decide) (by decide)).mpr isCut⟩

/-- An ` in ` in the source behind `of` is taken for the keyword. -/
theorem LoopHead.ofDirective_membership :
    let names := ["x".toList]
    let source := "(k in o ? p : q)".toList
    let text := String.ofList (LoopWord.ofWord.between (listed names) source)
    let read := LoopHead.ofDirective ⟨"for", none, [], some ⟨text, ⟨15, 38⟩⟩, ⟨8, 39⟩⟩
    AreAliases names ∧ trim source = source ∧
      (∀ word : LoopWord, ¬ word.spaced <:+: listed names) ∧
      read = .ok ⟨⟨"o ? p : q)", ⟨15, 38⟩⟩, ⟨"(x) of (k", ⟨15, 38⟩⟩, none, none⟩ ∧
      read ≠ .ok (LoopHead.naming names source ⟨15, 38⟩) := by
  intro names source text read
  have apart (word : LoopWord) : splitOnce? word.spaced (listed names) = none := by
    cases word <;> decide
  refine ⟨⟨by decide, by decide, by decide⟩, by decide,
    fun word => ?_, by decide +kernel, by decide +kernel⟩
  exact (splitOnce?_eq_none_iff word.spaced_ne_nil).mp (apart word)

end VuePrecompiler.Template
