import VuePrecompiler.Settings.Comments
import VuePrecompiler.Proofs.Separators

/-!
# Exactly the comments of settings are deleted

A settings text splits into strings, comments and other characters, in one way
only.  Of the comments their line feeds are left, and of everything else all is
left, so that no comment arises where a deleted one was.
-/

namespace VuePrecompiler.Settings

open Text

/-! ## Pieces of a settings text -/

/-- The two kinds of comments. -/
inductive CommentForm where
  | line
  | block

namespace CommentForm

def opening : CommentForm → List Char
  | .line => ['/', '/']
  | .block => ['/', '*']

def closing : CommentForm → List Char
  | .line => ['\n']
  | .block => ['*', '/']

end CommentForm

inductive Piece where
  | quoted (text : List Char)
  | comment (text : List Char)
  | other (c : Char)

/-- The line feeds of a text. -/
def feeds (text : List Char) : List Char := text.filter (· == '\n')

namespace Piece

def text : Piece → List Char
  | .quoted text => text
  | .comment text => text
  | .other c => [c]

def isComment : Piece → Bool
  | .comment _ => true
  | _ => false

/-- What is left of a piece. -/
def kept : Piece → List Char
  | .comment text => feeds text
  | piece => piece.text

/-- The pieces that a piece leaves. -/
def remaining : Piece → List Piece
  | .comment text => (feeds text).map .other
  | piece => [piece]

end Piece

/-- Characters between the quotes of a string, where a backslash
belongs to the next one. -/
inductive IsInside : List Char → Prop where
  | nil : IsInside []
  | escape (c : Char) {rest : List Char} : IsInside rest → IsInside ('\\' :: c :: rest)
  | plain {c : Char} {rest : List Char} : c ≠ '"' → c ≠ '\\' → IsInside rest →
      IsInside (c :: rest)

/-- A string ends with a quote; at the end of the text it also ends with nothing
or with a lone backslash. -/
inductive EndsString : List Char → List Char → Prop where
  | quote (rest : List Char) : EndsString ['"'] rest
  | nothing : EndsString [] []
  | backslash : EndsString ['\\'] []

/-- A piece stands in front of a text, as far as it goes when both are
read from the left. -/
inductive Piece.Before : Piece → List Char → Prop where
  | quoted {body ending rest : List Char} : IsInside body → EndsString ending rest →
      Piece.Before (.quoted ('"' :: (body ++ ending))) rest
  | comment (form : CommentForm) {body : List Char} (rest : List Char) :
      ¬ form.closing <:+: body ++ form.closing.dropLast →
      Piece.Before (.comment (form.opening ++ (body ++ form.closing))) rest
  | openComment (form : CommentForm) {body : List Char} : ¬ form.closing <:+: body →
      Piece.Before (.comment (form.opening ++ body)) []
  | other {c : Char} {rest : List Char} : c ≠ '"' →
      (∀ form : CommentForm, ¬ form.opening <+: c :: rest) →
      Piece.Before (.other c) rest

/-- A text consists of pieces, each in front of what follows it. -/
inductive IsSplit : List Char → List Piece → Prop where
  | nil : IsSplit [] []
  | cons {piece : Piece} {rest : List Char} {pieces : List Piece} : piece.Before rest →
      IsSplit rest pieces → IsSplit (piece.text ++ rest) (piece :: pieces)

/-! ## What is left of each piece -/

/-- The text from a place in a comment on. -/
def inComment : CommentForm → List Char → List Char
  | .line => inLine
  | .block => inBlock

theorem outside_opening (form : CommentForm) (rest : List Char) :
    outside (form.opening ++ rest) = inComment form rest := by
  cases form <;> simp [CommentForm.opening, outside, inComment]

theorem inComment_nil (form : CommentForm) : inComment form [] = [] := by
  cases form <;> simp [inComment, inLine, inBlock]

theorem inComment_closing (form : CommentForm) (rest : List Char) :
    inComment form (form.closing ++ rest) = feeds form.closing ++ outside rest := by
  cases form <;> simp [CommentForm.closing, inComment, inLine, inBlock, feeds]

theorem inComment_cons {form : CommentForm} {c : Char} {rest : List Char}
    (inside : ¬ form.closing <+: c :: rest) :
    inComment form (c :: rest) = feeds [c] ++ inComment form rest := by
  cases form with
  | line =>
      have other : c ≠ '\n' := by
        rintro rfl
        exact inside ⟨rest, rfl⟩
      simp [inComment, inLine, feeds, other]
  | block =>
      have notClosed : ∀ after, c = '*' → rest = '/' :: after → False := by
        rintro after rfl rfl
        exact inside ⟨after, rfl⟩
      by_cases isFeed : c = '\n'
      · rw [isFeed]
        simp [inComment, inBlock, feeds]
      · rw [inComment, inBlock.eq_4 _ _ notClosed isFeed]
        simp [feeds, isFeed]

theorem feeds_append (left right : List Char) :
    feeds (left ++ right) = feeds left ++ feeds right :=
  List.filter_append left right

theorem CommentForm.closing_ne_nil (form : CommentForm) : form.closing ≠ [] := by
  cases form <;> exact List.cons_ne_nil _ _

/-- A closing mark that the text begins with is the first one. -/
theorem splitOnce?_closing (form : CommentForm) (rest : List Char) :
    splitOnce? form.closing (form.closing ++ rest) = some ([], rest) := by
  have first : ¬ form.closing <:+: [] ++ form.closing.dropLast :=
    not_infix_dropLast form.closing_ne_nil
  exact splitOnce?_append form.closing_ne_nil first rest

/-- A comment leaves its line feeds, and goes on to its first closing
mark or to the end. -/
theorem inComment_eq (form : CommentForm) (text : List Char) :
    inComment form text = (splitOnce? form.closing text).elim (feeds text)
      fun (body, rest) => feeds body ++ (feeds form.closing ++ outside rest) := by
  induction text with
  | nil =>
      have absent : splitOnce? form.closing [] = none :=
        (splitOnce?_eq_none_iff form.closing_ne_nil).mpr fun occurs =>
          form.closing_ne_nil (List.infix_nil.mp occurs)
      rw [inComment_nil, absent]
      rfl
  | cons c text induction =>
      by_cases begins : form.closing <+: c :: text
      · obtain ⟨rest, parts⟩ := begins
        rw [← parts, inComment_closing, splitOnce?_closing]
        rfl
      · rw [inComment_cons begins, splitOnce?_cons_of_other begins, induction]
        cases splitOnce? form.closing text with
        | none => exact (feeds_append [c] text).symm
        | some parts =>
            rw [Option.map_some, Option.elim_some, Option.elim_some,
              ← List.append_assoc, ← feeds_append]
            rfl

/-! ### Strings -/

theorem inString_inside {body : List Char} (inside : IsInside body)
    (tail : List Char) : inString (body ++ tail) = body ++ inString tail := by
  induction inside with
  | nil => rfl
  | escape c _ induction =>
      rw [List.cons_append, List.cons_append, inString, induction]
      rfl
  | @plain c rest notQuote notBackslash _ induction =>
      have notEscape : ∀ next after, c = '\\' → rest ++ tail = next :: after → False :=
        fun _ _ isBackslash _ => notBackslash isBackslash
      rw [List.cons_append, List.cons_append, inString.eq_4 _ _ notQuote notEscape,
        induction]

theorem inString_ending {ending rest : List Char} (ends : EndsString ending rest) :
    inString (ending ++ rest) = ending ++ outside rest := by
  cases ends <;> simp [inString, outside]

theorem outside_other {c : Char} {rest : List Char} (notQuote : c ≠ '"')
    (noComment : ∀ form : CommentForm, ¬ form.opening <+: c :: rest) :
    outside (c :: rest) = c :: outside rest := by
  have notLine : ∀ after, c = '/' → rest = '/' :: after → False := by
    rintro after rfl rfl
    exact noComment .line ⟨after, rfl⟩
  have notBlock : ∀ after, c = '/' → rest = '*' :: after → False := by
    rintro after rfl rfl
    exact noComment .block ⟨after, rfl⟩
  exact outside.eq_5 c rest notQuote notLine notBlock

theorem feeds_opening (form : CommentForm) (text : List Char) :
    feeds (form.opening ++ text) = feeds text := by
  cases form <;> rfl

/-- Each piece is passed as a whole. -/
theorem outside_piece {piece : Piece} {rest : List Char} (before : piece.Before rest) :
    outside (piece.text ++ rest) = piece.kept ++ outside rest := by
  cases before with
  | @quoted body ending _ inside ends =>
      have passed :
          inString (body ++ ending ++ rest) = body ++ ending ++ outside rest := by
        rw [List.append_assoc, inString_inside inside, inString_ending ends,
          List.append_assoc]
      rw [Piece.text, List.cons_append, outside, passed]
      rfl
  | @comment form body rest first =>
      have cut := splitOnce?_append form.closing_ne_nil first rest
      rw [Piece.text, Piece.kept, List.append_assoc, List.append_assoc,
        outside_opening, inComment_eq, cut, Option.elim_some, feeds_opening]
      dsimp only
      rw [feeds_append, List.append_assoc]
  | @openComment form body notClosed =>
      have unclosed := (splitOnce?_eq_none_iff form.closing_ne_nil).mpr notClosed
      rw [Piece.text, Piece.kept, List.append_nil, outside_opening, inComment_eq,
        unclosed, feeds_opening, outside, List.append_nil]
      rfl
  | other notQuote noComment => exact outside_other notQuote noComment

/-- What is left of a text is what is left of its pieces. -/
theorem IsSplit.outside_eq {text : List Char} {pieces : List Piece}
    (split : IsSplit text pieces) : outside text = pieces.flatMap Piece.kept := by
  induction split with
  | nil => rw [outside, List.flatMap_nil]
  | cons before _ induction => rw [outside_piece before, induction, List.flatMap_cons]

theorem IsSplit.text_eq {text : List Char} {pieces : List Piece}
    (split : IsSplit text pieces) : text = pieces.flatMap Piece.text := by
  induction split with
  | nil => rfl
  | cons _ _ induction => rw [List.flatMap_cons, ← induction]

/-! ## Every text splits in one way -/

/-- A text goes on inside of a string up to the end of the string. -/
theorem exists_inside : ∀ text : List Char, ∃ body ending rest,
    text = body ++ (ending ++ rest) ∧ IsInside body ∧ EndsString ending rest
  | [] => ⟨[], [], [], rfl, .nil, .nothing⟩
  | c :: text => by
      by_cases isQuote : c = '"'
      · exact ⟨[], ['"'], text, by rw [isQuote]; rfl, .nil, .quote text⟩
      · by_cases isBackslash : c = '\\'
        · rw [isBackslash]
          cases text with
          | nil => exact ⟨[], ['\\'], [], rfl, .nil, .backslash⟩
          | cons next text =>
              obtain ⟨body, ending, rest, rfl, inside, ends⟩ := exists_inside text
              exact ⟨'\\' :: next :: body, ending, rest, rfl,
                .escape next inside, ends⟩
        · obtain ⟨body, ending, rest, rfl, inside, ends⟩ := exists_inside text
          exact ⟨c :: body, ending, rest, rfl, .plain isQuote isBackslash inside, ends⟩

/-- The comment with a text behind its opening mark: it goes on to its first
closing mark, or to the end. -/
def commentAt (form : CommentForm) (behind : List Char) : Piece × List Char :=
  (splitOnce? form.closing behind).elim (.comment (form.opening ++ behind), [])
    fun (body, rest) => (.comment (form.opening ++ (body ++ form.closing)), rest)

theorem commentAt_before (form : CommentForm) (behind : List Char) :
    form.opening ++ behind = (commentAt form behind).1.text ++
      (commentAt form behind).2 ∧
      (commentAt form behind).1.Before (commentAt form behind).2 := by
  unfold commentAt
  cases found : splitOnce? form.closing behind with
  | none =>
      have notClosed := (splitOnce?_eq_none_iff form.closing_ne_nil).mp found
      exact ⟨(List.append_nil _).symm, .openComment form notClosed⟩
  | some parts =>
      obtain ⟨body, rest⟩ := parts
      refine ⟨?_, .comment form rest (first_of_splitOnce? form.closing_ne_nil found)⟩
      rw [of_splitOnce?_eq_some found, Option.elim_some]
      dsimp only
      rw [Piece.text, List.append_assoc, List.append_assoc]

theorem exists_commentAt {text rest : List Char}
    (before : (Piece.comment text).Before rest) :
    ∃ form behind, text ++ rest = form.opening ++ behind ∧
      commentAt form behind = (.comment text, rest) := by
  cases before with
  | @comment form body _ first =>
      refine ⟨form, body ++ (form.closing ++ rest), ?_, ?_⟩
      · rw [List.append_assoc, List.append_assoc]
      · rw [commentAt, splitOnce?_append form.closing_ne_nil first, Option.elim_some]
  | @openComment form body notClosed =>
      refine ⟨form, body, List.append_nil _, ?_⟩
      rw [commentAt, (splitOnce?_eq_none_iff form.closing_ne_nil).mpr notClosed,
        Option.elim_none]

/-- Every text but the empty one begins with a piece. -/
theorem exists_piece (c : Char) (text : List Char) :
    ∃ (piece : Piece) (rest : List Char),
      c :: text = piece.text ++ rest ∧ piece.Before rest := by
  by_cases isQuote : c = '"'
  · obtain ⟨body, ending, rest, rfl, inside, ends⟩ := exists_inside text
    refine ⟨_, rest, ?_, .quoted inside ends⟩
    rw [isQuote, Piece.text, List.cons_append, List.append_assoc]
  · by_cases opens : ∃ form : CommentForm, form.opening <+: c :: text
    · obtain ⟨form, behind, parts⟩ := opens
      obtain ⟨same, before⟩ := commentAt_before form behind
      exact ⟨_, _, parts ▸ same, before⟩
    · exact ⟨.other c, text, rfl,
        .other isQuote fun form begins => opens ⟨form, begins⟩⟩

theorem Piece.Before.text_ne_nil {piece : Piece} {rest : List Char}
    (before : piece.Before rest) : piece.text ≠ [] := by
  cases before with
  | quoted => exact List.cons_ne_nil _ _
  | comment form => cases form <;> exact List.cons_ne_nil _ _
  | openComment form => cases form <;> exact List.cons_ne_nil _ _
  | other => exact List.cons_ne_nil _ _

theorem exists_isSplit (text : List Char) : ∃ pieces, IsSplit text pieces := by
  cases text with
  | nil => exact ⟨[], .nil⟩
  | cons c text =>
      obtain ⟨piece, rest, parts, before⟩ := exists_piece c text
      have shorter : rest.length < (c :: text).length := by
        have nonempty := List.length_pos_iff.mpr before.text_ne_nil
        rw [parts, List.length_append]
        omega
      obtain ⟨pieces, split⟩ := exists_isSplit rest
      exact ⟨piece :: pieces, parts ▸ .cons before split⟩
termination_by text.length
decreasing_by exact shorter

/-! ### Uniqueness -/

theorem ending_unique {ending otherEnding rest otherRest : List Char}
    (ends : EndsString ending rest) (otherEnds : EndsString otherEnding otherRest)
    (same : ending ++ rest = otherEnding ++ otherRest) :
    ending = otherEnding ∧ rest = otherRest := by
  cases ends <;> cases otherEnds <;> simp_all

theorem EndsString.of_cons {ending rest tail : List Char} {c : Char}
    (ends : EndsString ending rest) (same : ending ++ rest = c :: tail) :
    c = '"' ∨ (c = '\\' ∧ tail = []) := by
  cases ends with
  | quote => exact .inl (List.cons.inj same).1.symm
  | nothing => contradiction
  | backslash => exact .inr ⟨(List.cons.inj same).1.symm, (List.cons.inj same).2.symm⟩

/-- No string ends where it goes on. -/
theorem not_ends_of_inside {c : Char} {body ending tail rest : List Char}
    (ends : EndsString ending rest) (inside : IsInside (c :: body)) :
    ending ++ rest ≠ c :: (body ++ tail) := by
  intro same
  rcases ends.of_cons same with isQuote | ⟨isBackslash, nothing⟩ <;> cases inside
  · contradiction
  · contradiction
  · contradiction
  · contradiction

/-- Where a string ends is seen from the text behind its opening quote. -/
theorem inside_unique {body other ending otherEnding rest otherRest : List Char}
    (inside : IsInside body) (ends : EndsString ending rest)
    (otherInside : IsInside other) (otherEnds : EndsString otherEnding otherRest)
    (same : body ++ (ending ++ rest) = other ++ (otherEnding ++ otherRest)) :
    body = other ∧ ending = otherEnding ∧ rest = otherRest := by
  induction inside generalizing other with
  | nil =>
      cases other with
      | nil => exact ⟨rfl, ending_unique ends otherEnds same⟩
      | cons c other =>
          rw [List.nil_append, List.cons_append] at same
          exact absurd same (not_ends_of_inside ends otherInside)
  | @escape c body inside induction =>
      cases otherInside with
      | nil =>
          rw [List.nil_append, List.cons_append] at same
          exact absurd same.symm (not_ends_of_inside otherEnds (.escape c inside))
      | escape next otherInside =>
          obtain ⟨_, behind⟩ := List.cons.inj same
          obtain ⟨rfl, tails⟩ := List.cons.inj behind
          obtain ⟨rfl, ends⟩ := induction otherInside tails
          exact ⟨rfl, ends⟩
      | plain _ notBackslash => exact absurd (List.cons.inj same).1.symm notBackslash
  | @plain c body notQuote notBackslash inside induction =>
      cases otherInside with
      | nil =>
          rw [List.nil_append, List.cons_append] at same
          exact absurd same.symm (not_ends_of_inside otherEnds
            (.plain notQuote notBackslash inside))
      | escape => exact absurd (List.cons.inj same).1 notBackslash
      | plain _ _ otherInside =>
          obtain ⟨rfl, tails⟩ := List.cons.inj same
          obtain ⟨rfl, ends⟩ := induction otherInside tails
          exact ⟨rfl, ends⟩

theorem quote_not_opening (form : CommentForm) (text behind : List Char) :
    '"' :: text ≠ form.opening ++ behind := by
  cases form <;> exact fun same => absurd (List.cons.inj same).1 (by decide)

theorem opening_unique {form other : CommentForm} {behind otherBehind : List Char}
    (same : form.opening ++ behind = other.opening ++ otherBehind) :
    form = other ∧ behind = otherBehind := by
  cases form <;> cases other <;> simp_all [CommentForm.opening]

/-- Two pieces that begin the same text are one piece. -/
theorem Piece.Before.unique {piece other : Piece} {rest otherRest : List Char}
    (before : piece.Before rest) (otherBefore : other.Before otherRest)
    (same : piece.text ++ rest = other.text ++ otherRest) :
    piece = other ∧ rest = otherRest := by
  cases piece with
  | quoted text =>
      cases before with | quoted inside ends =>
      cases other with
      | quoted otherText =>
          cases otherBefore with | quoted otherInside otherEnds =>
          rw [Piece.text, Piece.text, List.cons_append, List.cons_append,
            List.append_assoc, List.append_assoc] at same
          obtain ⟨rfl, rfl, rfl⟩ :=
            inside_unique inside ends otherInside otherEnds (List.cons.inj same).2
          exact ⟨rfl, rfl⟩
      | comment otherText =>
          obtain ⟨form, behind, parts, _⟩ := exists_commentAt otherBefore
          exact absurd (same.trans parts) (quote_not_opening form _ behind)
      | other c =>
          cases otherBefore with | other notQuote =>
          exact absurd (List.cons.inj same).1.symm notQuote
  | comment text =>
      obtain ⟨form, behind, parts, here⟩ := exists_commentAt before
      cases other with
      | quoted otherText =>
          cases otherBefore with | quoted =>
          exact absurd (same.symm.trans parts) (quote_not_opening form _ behind)
      | comment otherText =>
          obtain ⟨otherForm, otherBehind, otherParts, there⟩ :=
            exists_commentAt otherBefore
          obtain ⟨rfl, rfl⟩ :=
            opening_unique (parts.symm.trans (same.trans otherParts))
          exact Prod.mk.inj (here.symm.trans there)
      | other c =>
          cases otherBefore with | other _ noComment =>
          exact absurd ⟨behind, parts.symm.trans same⟩ (noComment form)
  | other c =>
      cases before with | other notQuote noComment =>
      cases other with
      | quoted otherText =>
          cases otherBefore with | quoted =>
          exact absurd (List.cons.inj same).1 notQuote
      | comment otherText =>
          obtain ⟨form, behind, parts, _⟩ := exists_commentAt otherBefore
          exact absurd ⟨behind, (same.trans parts).symm⟩ (noComment form)
      | other d =>
          obtain ⟨rfl, rfl⟩ := List.cons.inj same
          exact ⟨rfl, rfl⟩

theorem IsSplit.unique {text : List Char} {pieces others : List Piece}
    (split : IsSplit text pieces) (other : IsSplit text others) : pieces = others := by
  induction split generalizing others with
  | nil =>
      generalize given : ([] : List Char) = empty at other
      cases other with
      | nil => rfl
      | cons before =>
          exact absurd (List.append_eq_nil_iff.mp given.symm).1 before.text_ne_nil
  | @cons piece rest pieces before _ induction =>
      generalize given : piece.text ++ rest = whole at other
      cases other with
      | nil => exact absurd (List.append_eq_nil_iff.mp given).1 before.text_ne_nil
      | cons otherBefore otherSplit =>
          obtain ⟨rfl, rfl⟩ := before.unique otherBefore given
          rw [induction otherSplit]

/-! ## What is left has no comments -/

theorem other_feed_before (rest : List Char) : (Piece.other '\n').Before rest := by
  refine .other (by decide) fun form begins => ?_
  cases form <;> exact absurd (List.cons_prefix_cons.mp begins).1 (by decide)

/-- Line feeds are pieces of their own. -/
theorem IsSplit.of_feeds {text : List Char} {pieces : List Piece}
    (split : IsSplit text pieces) (given : List Char) :
    IsSplit (feeds given ++ text) ((feeds given).map .other ++ pieces) := by
  induction given with
  | nil => exact split
  | cons c given induction =>
      by_cases isFeed : c = '\n'
      · rw [isFeed]
        exact .cons (other_feed_before _) induction
      · have absent : feeds (c :: given) = feeds given :=
          List.filter_cons_of_neg (by simpa using isFeed)
        rw [absent]
        exact induction

/-- A text that begins with no slash keeps its first character. -/
theorem IsSplit.head?_outside {text : List Char} {pieces : List Piece}
    (split : IsSplit text pieces) (noSlash : text.head? ≠ some '/') :
    (outside text).head? = text.head? := by
  cases split with
  | nil => rw [outside]
  | @cons piece rest pieces before split =>
      have whole : piece.kept = piece.text := by
        cases piece with
        | comment text =>
            obtain ⟨form, behind, parts, _⟩ := exists_commentAt before
            rw [Piece.text, parts] at noSlash
            cases form <;> contradiction
        | _ => rfl
      rw [outside_piece before, whole,
        List.head?_append_of_ne_nil _ before.text_ne_nil,
        List.head?_append_of_ne_nil _ before.text_ne_nil]

theorem opening_prefix_iff {form : CommentForm} {c : Char} {rest : List Char} :
    form.opening <+: c :: rest ↔ c = '/' ∧ rest.head? = form.opening[1]? := by
  cases form <;> cases rest <;>
    simp [CommentForm.opening, List.cons_prefix_cons, eq_comm]

/-- A piece that is no comment is the same piece in front of what is left.  A
slash comes before no comment, so what it stands next to stays. -/
theorem Piece.Before.before_outside {piece : Piece} {rest : List Char}
    {pieces : List Piece} (before : piece.Before rest) (split : IsSplit rest pieces)
    (notComment : piece.isComment = false) : piece.Before (outside rest) := by
  cases before with
  | quoted inside ends =>
      cases ends with
      | quote => exact .quoted inside (.quote _)
      | nothing =>
          rw [outside]
          exact .quoted inside .nothing
      | backslash =>
          rw [outside]
          exact .quoted inside .backslash
  | comment => contradiction
  | openComment => contradiction
  | other notQuote noComment =>
      refine .other notQuote fun form begins => ?_
      obtain ⟨isSlash, head⟩ := opening_prefix_iff.mp begins
      have noSlash : rest.head? ≠ some '/' := fun slash =>
        noComment .line (opening_prefix_iff.mpr ⟨isSlash, slash⟩)
      rw [split.head?_outside noSlash] at head
      exact noComment form (opening_prefix_iff.mpr ⟨isSlash, head⟩)

/-- What is left of a text splits into what is left of its pieces. -/
theorem IsSplit.remaining {text : List Char} {pieces : List Piece}
    (split : IsSplit text pieces) :
    IsSplit (outside text) (pieces.flatMap Piece.remaining) := by
  induction split with
  | nil =>
      rw [outside]
      exact .nil
  | @cons piece rest pieces before split induction =>
      rw [outside_piece before, List.flatMap_cons]
      cases piece with
      | comment text => exact induction.of_feeds text
      | quoted text => exact .cons (before.before_outside split rfl) induction
      | other c => exact .cons (before.before_outside split rfl) induction

theorem isComment_remaining (pieces : List Piece) :
    ∀ piece ∈ pieces.flatMap Piece.remaining, piece.isComment = false := by
  intro piece member
  obtain ⟨given, _, left⟩ := List.mem_flatMap.mp member
  cases given with
  | comment text =>
      obtain ⟨c, _, rfl⟩ := List.mem_map.mp left
      rfl
  | quoted text =>
      rw [List.mem_singleton.mp left]
      rfl
  | other c =>
      rw [List.mem_singleton.mp left]
      rfl

theorem kept_eq_text {piece : Piece} (notComment : piece.isComment = false) :
    piece.kept = piece.text := by
  cases piece with
  | comment text => contradiction
  | _ => rfl

/-- A text without comments is left as it is. -/
theorem IsSplit.outside_eq_self {text : List Char} {pieces : List Piece}
    (split : IsSplit text pieces)
    (noComment : ∀ piece ∈ pieces, piece.isComment = false) : outside text = text := by
  have same : pieces.flatMap Piece.kept = pieces.flatMap Piece.text :=
    List.flatMap_congr fun piece member => kept_eq_text (noComment piece member)
  rw [split.outside_eq, same, ← split.text_eq]

theorem count_kept (piece : Piece) :
    piece.kept.count '\n' = piece.text.count '\n' := by
  cases piece with
  | comment text => exact List.count_filter rfl
  | _ => rfl

theorem IsSplit.count_outside {text : List Char} {pieces : List Piece}
    (split : IsSplit text pieces) : (outside text).count '\n' = text.count '\n' := by
  induction split with
  | nil => rw [outside]
  | cons before _ induction =>
      rw [outside_piece before, List.count_append, List.count_append,
        count_kept, induction]

/-- Deleting comments deletes exactly the comments: a text splits into its pieces
in one way, and what is left of it are its strings and other characters and the
line feeds of its comments.  The result has no comment, and deleting comments
again changes nothing. -/
theorem withoutComments_exact (text : String) :
    ∃ pieces, IsSplit text.toList pieces ∧
      (∀ others, IsSplit text.toList others → others = pieces) ∧
      (withoutComments text).toList = pieces.flatMap Piece.kept ∧
      (withoutComments text).toList.count '\n' = text.toList.count '\n' ∧
      ((∀ piece ∈ pieces, piece.isComment = false) → withoutComments text = text) ∧
      (∃ left, IsSplit (withoutComments text).toList left ∧
        ∀ piece ∈ left, piece.isComment = false) ∧
      withoutComments (withoutComments text) = withoutComments text := by
  obtain ⟨pieces, split⟩ := exists_isSplit text.toList
  have result : (withoutComments text).toList = outside text.toList :=
    String.toList_ofList
  have unchanged {given : String} (same : outside given.toList = given.toList) :
      withoutComments given = given := by
    rw [withoutComments, same, String.ofList_toList]
  refine ⟨pieces, split, fun others other => other.unique split, ?_, ?_, ?_, ?_, ?_⟩
  · rw [result, split.outside_eq]
  · rw [result, split.count_outside]
  · exact fun noComment => unchanged (split.outside_eq_self noComment)
  · rw [result]
    exact ⟨_, split.remaining, isComment_remaining pieces⟩
  · refine unchanged ?_
    rw [result]
    exact split.remaining.outside_eq_self (isComment_remaining pieces)

/-- The slash of an opening mark closes nothing. -/
example : withoutComments "1/*/\n*/,\"//\"//\n2" = "1\n,\"//\"\n2" := by decide

end VuePrecompiler.Settings
