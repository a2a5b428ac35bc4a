import Mathlib.Data.List.Basic
import Mathlib.Data.List.TakeWhile
import VuePrecompiler.Source.Lines

/-!
# Line positions are exact

The line of a byte offset counts the line feeds in front of it, and its column
is what lies behind the last of them.  So the offsets of a text and its
positions determine each other and have the same order.  A search by halves on
words of 32 bits finds the same line without leaving its table.
-/

namespace VuePrecompiler.Source

/-! ## Line feeds among bytes -/

/-- The bytes of a text in UTF-8. -/
def bytesOf (text : String) : List UInt8 := text.toUTF8.data.toList

/-- The byte of a line feed. -/
def feed : UInt8 := 10

/-- The offsets behind the line feeds in some bytes that begin at an offset. -/
def behindFeeds (bytes : List UInt8) (start : Nat) : List Nat :=
  bytes.findIdxs (· == feed) (start + 1)

theorem bytesOf_eq (text : String) :
    bytesOf text = text.toList.flatMap String.utf8EncodeChar := by
  rw [bytesOf, String.toUTF8, ← String.utf8Encode_toList, List.utf8Encode,
    List.toList_data_toByteArray]

theorem length_bytesOf (text : String) :
    (bytesOf text).length = text.utf8ByteSize := by
  rw [bytesOf, Array.length_toList]
  exact String.size_toByteArray

/-- Only a line feed is written with its byte. -/
theorem feed_notMem_utf8EncodeChar {c : Char} (other : c ≠ '\n') :
    feed ∉ String.utf8EncodeChar c := by
  have differs : c.val.toNat ≠ 10 := by
    intro same
    exact other (Char.ext (UInt32.toNat.inj same))
  have apart {n : Nat} (small : n < 256) (notFeed : n ≠ 10) :
      feed ≠ UInt8.ofNat n := by
    intro same
    have values := congrArg UInt8.toNat same
    rw [UInt8.toNat_ofNat', Nat.mod_eq_of_lt small] at values
    exact notFeed values.symm
  fun_cases String.utf8EncodeChar c with
  | case1 value ascii =>
      rw [List.mem_singleton]
      exact apart (by omega) differs
  | case2 =>
      simp only [List.mem_cons, List.not_mem_nil, or_false, not_or]
      exact ⟨apart (by omega) (by omega), apart (by omega) (by omega)⟩
  | case3 =>
      simp only [List.mem_cons, List.not_mem_nil, or_false, not_or]
      exact ⟨apart (by omega) (by omega), apart (by omega) (by omega),
        apart (by omega) (by omega)⟩
  | case4 =>
      simp only [List.mem_cons, List.not_mem_nil, or_false, not_or]
      exact ⟨apart (by omega) (by omega), apart (by omega) (by omega),
        apart (by omega) (by omega), apart (by omega) (by omega)⟩

theorem behindFeeds_utf8EncodeChar (c : Char) (start : Nat) :
    behindFeeds (String.utf8EncodeChar c) start = if c =
      '\n' then [start + 1] else [] := by
  split
  · next isFeed =>
    rw [isFeed]
    rfl
  · next other =>
    refine List.findIdxs_eq_nil_iff.mpr fun byte member => beq_eq_false_iff_ne.mpr ?_
    rintro rfl
    exact feed_notMem_utf8EncodeChar other member

theorem behindFeeds_append (left right : List UInt8) (start : Nat) :
    behindFeeds (left ++ right) start =
      behindFeeds left start ++ behindFeeds right (start + left.length) := by
  rw [behindFeeds, List.findIdxs_append, Nat.add_right_comm]
  rfl

/-- The index of a text keeps the offsets behind its line feeds. -/
theorem startsAfterFeeds_eq (start : Nat) (text : List Char) :
    startsAfterFeeds start text =
      behindFeeds (text.flatMap String.utf8EncodeChar) start := by
  induction text generalizing start with
  | nil => rfl
  | cons c rest induction =>
      rw [List.flatMap_cons, behindFeeds_append, behindFeeds_utf8EncodeChar,
        String.length_utf8EncodeChar, ← induction, startsAfterFeeds]
      split
      · next isFeed =>
        rw [isFeed]
        rfl
      · rfl

theorem laterStarts_ofText (text : String) :
    (LineIndex.ofText text).laterStarts = behindFeeds (bytesOf text) 0 := by
  rw [bytesOf_eq, ← startsAfterFeeds_eq]
  rfl

theorem size_ofText (text : String) :
    (LineIndex.ofText text).size = (bytesOf text).length :=
  (length_bytesOf text).symm

/-- The line feeds in front of an offset are those behind which it stands. -/
theorem takeWhile_behindFeeds {bytes : List UInt8} {offset : Nat}
    (inside : offset ≤ bytes.length) :
    (behindFeeds bytes 0).takeWhile (· ≤ offset) =
      behindFeeds (bytes.take offset) 0 := by
  have parts := behindFeeds_append (bytes.take offset) (bytes.drop offset) 0
  rw [List.take_append_drop, List.length_take_of_le inside] at parts
  have passed : ∀ start ∈ behindFeeds (bytes.take offset) 0,
      decide (start ≤ offset) = true := by
    intro start member
    have bound := List.lt_add_of_mem_findIdxs start member
    rw [List.length_take_of_le inside] at bound
    exact decide_eq_true (by omega)
  have ahead :
      (behindFeeds (bytes.drop offset) (0 + offset)).takeWhile (· ≤ offset) = [] := by
    cases found : behindFeeds (bytes.drop offset) (0 + offset) with
    | nil => rfl
    | cons start rest =>
        have member : start ∈ behindFeeds (bytes.drop offset) (0 + offset) := by
          rw [found]
          exact List.mem_cons_self
        have bound := List.ge_of_mem_findIdxs start member
        exact List.takeWhile_cons_of_neg (by simp only [decide_eq_true_eq]; omega)
  rw [parts, List.takeWhile_append_of_pos passed, ahead, List.append_nil]

/-- Where the last line of some bytes starts: behind their last line
feed, or with them. -/
def IsLineStart (bytes : List UInt8) (start : Nat) : Prop :=
  (feed ∉ bytes ∧ start = 0) ∨
    ∃ before after, bytes = before ++ feed :: after ∧ feed ∉ after ∧
      start = before.length + 1

theorem behindFeeds_eq_nil {bytes : List UInt8} {start : Nat}
    (none_here : feed ∉ bytes) : behindFeeds bytes start = [] := by
  refine List.findIdxs_eq_nil_iff.mpr fun byte member => beq_eq_false_iff_ne.mpr ?_
  rintro rfl
  exact none_here member

theorem isLineStart_last (bytes : List UInt8) :
    IsLineStart bytes ((behindFeeds bytes 0).getLastD 0) := by
  by_cases given : feed ∈ bytes
  · obtain ⟨after, before, parts, last⟩ :=
      List.eq_append_cons_of_mem (List.mem_reverse.mpr given)
    have split : bytes = before.reverse ++ feed :: after.reverse := by
      rw [← List.reverse_reverse bytes, parts, List.reverse_append, List.reverse_cons,
        List.append_assoc]
      rfl
    have behind : feed ∉ after.reverse :=
      fun member => last (List.mem_reverse.mp member)
    refine .inr ⟨before.reverse, after.reverse, split, behind, ?_⟩
    have ending : behindFeeds (feed :: after.reverse) (0 + before.reverse.length) =
        [before.reverse.length + 1] := by
      rw [← List.singleton_append, behindFeeds_append, behindFeeds_eq_nil behind,
        Nat.zero_add]
      rfl
    rw [split, behindFeeds_append, ending, List.getLastD_eq_getLast?,
      List.getLast?_concat, Option.getD_some]
  · rw [behindFeeds_eq_nil given]
    exact .inl ⟨given, rfl⟩

/-! ## Positions among the starts of lines -/

namespace LineIndex

/-- Where the lines of a text start. -/
def starts (lines : LineIndex) : List Nat := 0 :: lines.laterStarts

/-- A position is the one of an offset: its line has started there and the
next one has not. -/
def IsAt (lines : LineIndex) (offset : Nat) (position : Position) : Prop :=
  ∃ start, lines.starts[position.line]? = some start ∧
    start + position.column = offset ∧
    ∀ next, lines.starts[position.line + 1]? = some next → offset < next

/-- A position stands in the text: on one of its lines, and not behind
the end of the line. -/
def Holds (lines : LineIndex) (position : Position) : Prop :=
  ∃ start, lines.starts[position.line]? = some start ∧
    start + position.column ≤ lines.size ∧
    ∀ next, lines.starts[position.line + 1]? = some next →
      start + position.column < next

/-- The starts that an offset has passed, and those ahead of it. -/
theorem exists_passed (lines : LineIndex) (offset : Nat) :
    ∃ passed ahead, lines.starts = (0 :: passed) ++ ahead ∧
      lines.laterStarts.takeWhile (· ≤ offset) = passed ∧
      (∀ start ∈ 0 :: passed, start ≤ offset) ∧
      ∀ next, ahead.head? = some next → offset < next := by
  refine ⟨lines.laterStarts.takeWhile (· ≤ offset),
    lines.laterStarts.dropWhile (· ≤ offset), ?_, rfl, ?_, ?_⟩
  · rw [List.cons_append, List.takeWhile_append_dropWhile]
    rfl
  · intro start member
    rcases List.mem_cons.mp member with rfl | later
    · exact Nat.zero_le offset
    · have passes := List.mem_takeWhile_imp later
      exact of_decide_eq_true passes
  · intro next first
    have refused :=
      List.head?_dropWhile_not (fun start => decide (start ≤ offset)) lines.laterStarts
    rw [first] at refused
    simpa using refused

/-- The line of an offset starts where the last line before it starts. -/
theorem starts_line (lines : LineIndex) (offset : Nat) :
    lines.starts[(lines.position offset).line]? =
      some ((lines.laterStarts.takeWhile (· ≤ min offset lines.size)).getLastD 0) := by
  obtain ⟨passed, ahead, parts, same, _, _⟩ :=
    lines.exists_passed (min offset lines.size)
  have line : (lines.position offset).line = passed.length := congrArg List.length same
  have last : (0 :: passed)[passed.length]? = some (passed.getLastD 0) := by
    rw [List.getLastD_eq_getLast?, ← List.getLast?_cons, List.getLast?_eq_getElem?]
    rfl
  rw [line, same, parts, List.getElem?_append_left (Nat.lt_succ_self _), last]

theorem position_isAt (lines : LineIndex) (offset : Nat) :
    lines.IsAt (min offset lines.size) (lines.position offset) := by
  have started := lines.starts_line offset
  obtain ⟨passed, ahead, parts, same, before, behind⟩ :=
    lines.exists_passed (min offset lines.size)
  have position : lines.position offset =
      ⟨passed.length, min offset lines.size - passed.getLastD 0⟩ := by
    rw [LineIndex.position, same]
  rw [position, same] at started
  rw [position]
  refine ⟨passed.getLastD 0, started, ?_, ?_⟩
  · refine Nat.add_sub_of_le (before _ ?_)
    rw [parts, List.getElem?_append_left (Nat.lt_succ_self _)] at started
    exact List.mem_of_getElem? started
  · intro next found
    have behindPassed : ahead[(0 :: passed).length - (0 :: passed).length]? =
        some next := by
      rw [← List.getElem?_append_right (Nat.le_refl _), ← parts]
      exact found
    rw [Nat.sub_self, ← List.head?_eq_getElem?] at behindPassed
    exact behind next behindPassed

theorem position_isAt_of_le (lines : LineIndex) {offset : Nat}
    (inside : offset ≤ lines.size) : lines.IsAt offset (lines.position offset) := by
  have position := lines.position_isAt offset
  rwa [Nat.min_eq_left inside] at position

variable {lines : LineIndex}

/-- The line behind another one starts there or later. -/
theorem next_le_start (sorted : lines.starts.Pairwise (· < ·)) {line later : Nat}
    (before : line < later) {start : Nat} (found : lines.starts[later]? = some start) :
    ∃ next, lines.starts[line + 1]? = some next ∧ next ≤ start := by
  obtain ⟨inTable, rfl⟩ := List.getElem?_eq_some_iff.mp found
  refine ⟨lines.starts[line + 1], List.getElem?_eq_getElem (by omega), ?_⟩
  rcases Nat.lt_or_eq_of_le (Nat.succ_le_of_lt before) with earlier | rfl
  · exact Nat.le_of_lt (List.pairwise_iff_getElem.mp sorted _ _ _ _ earlier)
  · exact Nat.le_refl _

/-- An offset is not on a line in front of the line of an earlier offset. -/
theorem line_le_of_isAt (sorted : lines.starts.Pairwise (· < ·)) {first second : Nat}
    {left right : Position} (ordered : first ≤ second)
    (atFirst : lines.IsAt first left) (atSecond : lines.IsAt second right) :
    left.line ≤ right.line := by
  by_contra behind
  obtain ⟨start, started, reached, _⟩ := atFirst
  obtain ⟨_, _, _, notYet⟩ := atSecond
  obtain ⟨next, found, near⟩ := next_le_start sorted (Nat.lt_of_not_le behind) started
  have passed := notYet next found
  omega

theorem column_of_isAt {first second : Nat} {left right : Position}
    (sameLine : left.line = right.line) (atFirst : lines.IsAt first left)
    (atSecond : lines.IsAt second right) :
    first + right.column = second + left.column := by
  obtain ⟨start, started, rfl, _⟩ := atFirst
  obtain ⟨other, startedToo, rfl, _⟩ := atSecond
  rw [sameLine, startedToo] at started
  cases started
  omega

theorem IsAt.position_unique (sorted : lines.starts.Pairwise (· < ·)) {offset : Nat}
    {left right : Position} (atLeft : lines.IsAt offset left)
    (atRight : lines.IsAt offset right) : left = right := by
  have sameLine : left.line = right.line :=
    Nat.le_antisymm (line_le_of_isAt sorted (Nat.le_refl _) atLeft atRight)
      (line_le_of_isAt sorted (Nat.le_refl _) atRight atLeft)
  have sameColumn := column_of_isAt sameLine atLeft atRight
  rcases left with ⟨line, column⟩
  rw [Position.mk.injEq]
  exact ⟨sameLine, (Nat.add_left_cancel sameColumn).symm⟩

theorem IsAt.offset_unique {first second : Nat} {position : Position}
    (atFirst : lines.IsAt first position) (atSecond : lines.IsAt second position) :
    first = second :=
  Nat.add_right_cancel (column_of_isAt rfl atFirst atSecond)

theorem holds_iff {position : Position} :
    lines.Holds position ↔ ∃ offset ≤ lines.size, lines.IsAt offset position := by
  constructor
  · rintro ⟨start, started, inside, notYet⟩
    exact ⟨_, inside, start, started, rfl, notYet⟩
  · rintro ⟨_, inside, start, started, rfl, notYet⟩
    exact ⟨start, started, inside, notYet⟩

end LineIndex

/-- A position comes before another one: on an earlier line, or earlier
on the same line. -/
def Position.Before (left right : Position) : Prop :=
  left.line < right.line ∨ (left.line = right.line ∧ left.column < right.column)

theorem Position.Before.asymm {left right : Position} (before : left.Before right) :
    ¬ right.Before left := by
  rintro (earlier | ⟨sameLine, earlier⟩) <;>
    rcases before with before | ⟨same, before⟩ <;> omega

theorem LineIndex.IsAt.before {lines : LineIndex}
    (sorted : lines.starts.Pairwise (· < ·))
    {first second : Nat} {left right : Position} (ordered : first < second)
    (atFirst : lines.IsAt first left) (atSecond : lines.IsAt second right) :
    left.Before right := by
  rcases Nat.lt_or_eq_of_le
    (line_le_of_isAt sorted (Nat.le_of_lt ordered) atFirst atSecond) with
    earlier | sameLine
  · exact .inl earlier
  · have columns := column_of_isAt sameLine atFirst atSecond
    exact .inr ⟨sameLine, by omega⟩

/-! ## The search on words -/

/-- How many entries of a table pass a test, if those that pass it come
first.  The search goes on between two places, and fails when it looks
outside of the table. -/
def partitionPoint? {α : Type} (test : α → Bool) (table : List α)
    (low high : Nat) : Option Nat :=
  if low < high then do
    let middle := low + (high - low) / 2
    let entry ← table[middle]?
    if test entry then partitionPoint? test table (middle + 1) high
    else partitionPoint? test table low middle
  else some low
termination_by high - low

/-- Where the lines of a text start and where it ends, in words of 32 bits. -/
structure LineTable where
  starts : List UInt32
  size : UInt32

def LineIndex.table (lines : LineIndex) : LineTable where
  starts := lines.starts.map UInt32.ofNat
  size := UInt32.ofNat lines.size

/-- The line and the column of an offset.  There are none where the search
leaves the table, where no line has started, or where the line starts
behind the offset. -/
def LineTable.lookup? (table : LineTable) (offset : UInt32) :
    Option (UInt32 × UInt32) := do
  let offset := min offset table.size
  let passed ← partitionPoint? (· ≤ offset) table.starts 0 table.starts.length
  guard (0 < passed)
  let start ← table.starts[passed - 1]?
  guard (start ≤ offset)
  return (UInt32.ofNat (passed - 1), offset - start)

/-- The border between the entries that pass and the others stays
between the two places. -/
theorem partitionPoint?_append {α : Type} {test : α → Bool} {passed ahead : List α}
    (pass : ∀ entry ∈ passed, test entry = true)
    (others : ∀ entry ∈ ahead, test entry = false)
    {low high : Nat} (above : low ≤ passed.length) (below : passed.length ≤ high)
    (inTable : high ≤ (passed ++ ahead).length) :
    partitionPoint? test (passed ++ ahead) low high = some passed.length := by
  fun_induction partitionPoint? test (passed ++ ahead) low high with
  | case1 low high proper middle upper lower =>
    have inside : middle < (passed ++ ahead).length := by omega
    rw [List.getElem?_eq_getElem inside, Option.bind_eq_bind, Option.bind_some]
    rcases Nat.lt_or_ge middle passed.length with near | far
    · have passes : test (passed ++ ahead)[middle] = true := by
        rw [List.getElem_append_left near]
        exact pass _ (List.getElem_mem near)
      rw [if_pos passes]
      exact upper near below inTable
    · have fails : test (passed ++ ahead)[middle] = false := by
        rw [List.getElem_append_right far]
        exact others _ (List.getElem_mem _)
      rw [fails, if_neg Bool.false_ne_true]
      exact lower above far (Nat.le_of_lt inside)
  | case2 low high done => exact congrArg some (by omega)

namespace LineIndex

variable {lines : LineIndex}

theorem ahead_of_offset (sorted : lines.starts.Pairwise (· < ·)) {offset : Nat}
    {passed ahead : List Nat} (parts : lines.starts = passed ++ ahead)
    (behind : ∀ next, ahead.head? = some next → offset < next) :
    ∀ start ∈ ahead, offset < start := by
  intro start member
  cases ahead with
  | nil => contradiction
  | cons next rest =>
      have first : offset < next := behind next rfl
      rw [parts] at sorted
      obtain ⟨_, sortedAhead, _⟩ := List.pairwise_append.mp sorted
      rcases List.mem_cons.mp member with rfl | later
      · exact first
      · exact Nat.lt_trans first (List.rel_of_pairwise_cons sortedAhead later)

/-- Every line but the first takes a byte at least, the line feed in front of it. -/
theorem line_le_start (sorted : lines.starts.Pairwise (· < ·)) {line start : Nat}
    (found : lines.starts[line]? = some start) : line ≤ start := by
  induction line generalizing start with
  | zero => exact Nat.zero_le start
  | succ line induction =>
      obtain ⟨inTable, rfl⟩ := List.getElem?_eq_some_iff.mp found
      have earlier := induction (List.getElem?_eq_getElem (by omega))
      have increases :=
        List.pairwise_iff_getElem.mp sorted line (line + 1) (by omega) inTable
          (Nat.lt_succ_self line)
      omega

section

variable (sorted : lines.starts.Pairwise (· < ·))
  (startsFit : ∀ start ∈ lines.starts, start ≤ lines.size)
  (sizeFits : lines.size < UInt32.size)
include startsFit sizeFits

theorem toNat_start {start : Nat} (member : start ∈ lines.starts) :
    (UInt32.ofNat start).toNat = start :=
  UInt32.toNat_ofNat_of_lt' (Nat.lt_of_le_of_lt (startsFit start member) sizeFits)

omit startsFit in
theorem toNat_clamped (offset : UInt32) :
    (min offset lines.table.size).toNat = min offset.toNat lines.size := by
  rw [UInt32.toNat_min]
  exact congrArg (min offset.toNat) (UInt32.toNat_ofNat_of_lt' sizeFits)

/-- Words compare as the numbers in them. -/
theorem start_le_clamped_iff {start : Nat} (member : start ∈ lines.starts)
    (offset : UInt32) :
    UInt32.ofNat start ≤ min offset lines.table.size ↔
      start ≤ min offset.toNat lines.size := by
  rw [UInt32.le_iff_toNat_le, toNat_start startsFit sizeFits member,
    toNat_clamped sizeFits]

include sorted

/-- The search stops behind the line of the offset. -/
theorem partitionPoint?_table (offset : UInt32) :
    partitionPoint? (fun start => decide (start ≤ min offset lines.table.size))
      lines.table.starts 0 lines.table.starts.length =
        some ((lines.position offset.toNat).line + 1) := by
  obtain ⟨passed, ahead, parts, same, before, behind⟩ :=
    lines.exists_passed (min offset.toNat lines.size)
  have words : lines.table.starts = (0 :: passed).map UInt32.ofNat ++
      ahead.map UInt32.ofNat := by
    rw [← List.map_append, ← parts]
    rfl
  have passes : ∀ word ∈ (0 :: passed).map UInt32.ofNat,
      decide (word ≤ min offset lines.table.size) = true := by
    intro word member
    obtain ⟨start, inPassed, rfl⟩ := List.mem_map.mp member
    have given : start ∈ lines.starts := parts ▸ List.mem_append_left _ inPassed
    exact decide_eq_true
      ((start_le_clamped_iff startsFit sizeFits given offset).mpr
        (before start inPassed))
  have fails : ∀ word ∈ ahead.map UInt32.ofNat,
      decide (word ≤ min offset lines.table.size) = false := by
    intro word member
    obtain ⟨start, inAhead, rfl⟩ := List.mem_map.mp member
    have given : start ∈ lines.starts := parts ▸ List.mem_append_right _ inAhead
    refine decide_eq_false fun reached => ?_
    have notYet := ahead_of_offset sorted parts behind start inAhead
    exact Nat.not_le.mpr notYet
      ((start_le_clamped_iff startsFit sizeFits given offset).mp reached)
  have inside :
      ((0 :: passed).map UInt32.ofNat).length ≤ lines.table.starts.length := by
    rw [words, List.length_append]
    exact Nat.le_add_right _ _
  have line : (lines.position offset.toNat).line = passed.length := by
    rw [← same]
    rfl
  have found :=
    partitionPoint?_append passes fails (Nat.zero_le _) inside (by rw [words])
  rw [← words, List.length_map, List.length_cons, ← line] at found
  exact found

/-- The search finds the position of every offset. -/
theorem lookup?_table (offset : UInt32) :
    ∃ line column, lines.table.lookup? offset = some (line, column) ∧
      line.toNat = (lines.position offset.toNat).line ∧
      column.toNat = (lines.position offset.toNat).column := by
  have border := partitionPoint?_table sorted startsFit sizeFits offset
  obtain ⟨start, started, reached, _⟩ := lines.position_isAt offset.toNat
  generalize lines.position offset.toNat = position at border started reached ⊢
  have member : start ∈ lines.starts := List.mem_of_getElem? started
  have inTable : lines.table.starts[position.line]? = some (UInt32.ofNat start) := by
    rw [LineIndex.table, List.getElem?_map, started]
    rfl
  have notBehind : UInt32.ofNat start ≤ min offset lines.table.size :=
    (start_le_clamped_iff startsFit sizeFits member offset).mpr (by omega)
  have lineFits : position.line < UInt32.size :=
    Nat.lt_of_le_of_lt (line_le_start sorted started)
      (Nat.lt_of_le_of_lt (startsFit start member) sizeFits)
  refine ⟨UInt32.ofNat position.line, min offset lines.table.size - UInt32.ofNat start,
    ?_, UInt32.toNat_ofNat_of_lt' lineFits, ?_⟩
  · unfold LineTable.lookup?
    dsimp only
    rw [border, Option.bind_eq_bind, Option.bind_some, guard, if_pos (Nat.succ_pos _),
      Nat.add_sub_cancel, inTable]
    exact congrArg (Option.bind · fun _ => _) (if_pos notBehind)
  · rw [UInt32.toNat_sub_of_le _ _ notBehind, toNat_clamped sizeFits,
      toNat_start startsFit sizeFits member]
    omega

end

end LineIndex

/-! ## The index of a text -/

theorem sorted_starts_ofText (text : String) :
    (LineIndex.ofText text).starts.Pairwise (· < ·) := by
  rw [LineIndex.starts, laterStarts_ofText]
  refine List.pairwise_cons.mpr ⟨?_, List.pairwise_findIdxs⟩
  intro start member
  exact List.ge_of_mem_findIdxs start member

theorem starts_ofText_le (text : String) :
    ∀ start ∈ (LineIndex.ofText text).starts,
      start ≤ (LineIndex.ofText text).size := by
  intro start member
  rw [LineIndex.starts, laterStarts_ofText] at member
  rw [size_ofText]
  rcases List.mem_cons.mp member with rfl | later
  · exact Nat.zero_le _
  · have bound := List.lt_add_of_mem_findIdxs start later
    omega

/-- The index of a text says of every offset which line feeds are in front of it. -/
structure LineIndex.IsExact (lines : LineIndex) (text : String) : Prop where
  /-- The line is the number of line feeds in front of the offset. -/
  line : ∀ offset, let clamped := min offset (bytesOf text).length
    (lines.position offset).line = ((bytesOf text).take clamped).count feed
  /-- The column begins behind the last of them, where the line starts. -/
  column : ∀ offset, let clamped := min offset (bytesOf text).length
    ∃ start, IsLineStart ((bytesOf text).take clamped) start ∧
      lines.starts[(lines.position offset).line]? = some start ∧
      start + (lines.position offset).column = clamped
  /-- The search neither fails nor loses a bit. -/
  lookup : ∀ offset : UInt32, ∃ line column, lines.table.lookup? offset =
    some (line, column) ∧
    line.toNat = (lines.position offset.toNat).line ∧
    column.toNat = (lines.position offset.toNat).column
  /-- Offsets have positions that stand in the text. -/
  holds : ∀ offset, lines.Holds (lines.position offset)
  /-- Each position that stands in the text is the one of one offset in it. -/
  unique : ∀ position, lines.Holds position →
    ∃! offset, offset ≤ (bytesOf text).length ∧ lines.position offset = position
  /-- Positions have the order of their offsets. -/
  order : ∀ first ≤ (bytesOf text).length, ∀ second ≤ (bytesOf text).length,
    (lines.position first).Before (lines.position second) ↔ first < second

/-- The offsets behind the line feeds in front of an offset. -/
theorem passedStarts_ofText (text : String) (offset : Nat) :
    (LineIndex.ofText text).laterStarts.takeWhile
        (· ≤ min offset (LineIndex.ofText text).size) =
      behindFeeds ((bytesOf text).take (min offset (bytesOf text).length)) 0 := by
  rw [laterStarts_ofText, size_ofText]
  exact takeWhile_behindFeeds (Nat.min_le_right _ _)

/-- The index of a text whose offsets fit in 32 bits is exact. -/
theorem LineIndex.ofText_isExact (text : String)
    (short : text.utf8ByteSize < UInt32.size) :
    (LineIndex.ofText text).IsExact text := by
  have sorted := sorted_starts_ofText text
  have size := size_ofText text
  have atOffset := (LineIndex.ofText text).position_isAt
  constructor
  case line =>
    intro offset
    have passed := congrArg List.length (passedStarts_ofText text offset)
    exact passed.trans List.length_findIdxs
  case column =>
    intro offset
    obtain ⟨start, started, reached, _⟩ := atOffset offset
    have same := (LineIndex.ofText text).starts_line offset
    rw [passedStarts_ofText, started, Option.some.injEq] at same
    refine ⟨start, ?_, started, size ▸ reached⟩
    rw [same]
    exact isLineStart_last _
  case lookup =>
    intro offset
    exact LineIndex.lookup?_table sorted (starts_ofText_le text) short offset
  case holds =>
    intro offset
    exact LineIndex.holds_iff.mpr ⟨_, Nat.min_le_right _ _, atOffset offset⟩
  case unique =>
    intro position holds
    obtain ⟨offset, inside, isAt⟩ := LineIndex.holds_iff.mp holds
    refine ⟨offset, ⟨size ▸ inside, ?_⟩, ?_⟩
    · exact LineIndex.IsAt.position_unique sorted
        (LineIndex.position_isAt_of_le _ inside) isAt
    · rintro other ⟨otherInside, rfl⟩
      exact LineIndex.IsAt.offset_unique
        (LineIndex.position_isAt_of_le _ (size ▸ otherInside)) isAt
  case order =>
    intro first firstInside second secondInside
    have atFirst := (LineIndex.ofText text).position_isAt_of_le (size ▸ firstInside)
    have atSecond := (LineIndex.ofText text).position_isAt_of_le (size ▸ secondInside)
    constructor
    · intro before
      by_contra notBefore
      rcases Nat.lt_or_eq_of_le (Nat.not_lt.mp notBefore) with behind | rfl
      · exact before.asymm (atSecond.before sorted behind atFirst)
      · exact before.asymm before
    · intro ordered
      exact atFirst.before sorted ordered atSecond

/-- Two line feeds in a row, behind a letter of two bytes. -/
theorem LineIndex.ofText_isExact_blank_line :
    let lines := LineIndex.ofText "é\n\nb"
    "é\n\nb".utf8ByteSize < UInt32.size ∧ lines.IsExact "é\n\nb" ∧
      [0, 1, 2, 3, 4, 5, 6].map lines.position =
        [⟨0, 0⟩, ⟨0, 1⟩, ⟨0, 2⟩, ⟨1, 0⟩, ⟨2, 0⟩, ⟨2, 1⟩, ⟨2, 1⟩] :=
  ⟨by decide, LineIndex.ofText_isExact _ (by decide), by decide⟩

end VuePrecompiler.Source
