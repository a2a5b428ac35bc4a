/-!
# Globs

A glob describes paths by their bytes.  A star stands for any bytes, slashes
included; two stars between slashes stand for any number of folders.  A class
or a question mark stands for one byte, so that a character outside of ASCII
needs as many of them as it has bytes.
-/

namespace VuePrecompiler.Settings

inductive GlobPart where
  | literal (c : Char)
  | anyByte
  | anyBytes
  /-- Two stars at the start: nothing, or folders. -/
  | leadingFolders
  /-- Two stars at the end: anything below. -/
  | allBelow
  /-- Two stars between slashes: a slash, or folders between two. -/
  | folders
  /-- One byte of a class. -/
  | byteIn (isNegated : Bool) (ranges : List (Char × Char))
  /-- One of several; none of none is nothing. -/
  | choice (branches : List (List GlobPart))
deriving Repr, Inhabited

/-- Whether a part stands for nothing at all. -/
def GlobPart.isVoid : GlobPart → Bool
  | choice [] => true
  | _ => false

/-! ## Reading -/

/-- What a reader of globs keeps account of. -/
structure GlobReading where
  /-- The branches that are not complete, the innermost last branch first; each
  holds its parts from the last to the first. -/
  branches : List (List GlobPart)
  /-- How many branches there were before each open brace, the innermost first. -/
  opened : List Nat
  /-- The character before. -/
  previous : Option Char

namespace GlobReading

def push (reading : GlobReading) (part : GlobPart) : GlobReading :=
  match reading.branches with
  | branch :: rest => { reading with branches := (part :: branch) :: rest }
  | [] => { reading with branches := [[part]] }

/-- Close the innermost brace.  Branches that stand for nothing do not count. -/
def close? (reading : GlobReading) : Option GlobReading :=
  match reading.opened with
  | [] => none
  | before :: others =>
    let count := reading.branches.length - before
    let branches := ((reading.branches.take count).map List.reverse).reverse
    some ({ reading with
      branches := reading.branches.drop count
      opened := others }.push
        (.choice (branches.filter fun branch => !branch.all GlobPart.isVoid)))

/-- Two stars behind a slash, which they take in; `isLast` tells whether the
branch ends with them. -/
def pushFolders (reading : GlobReading) (isLast : Bool) : GlobReading :=
  match reading.branches with
  | (.leadingFolders :: branch) :: rest =>
    { reading with branches := (.leadingFolders :: branch) :: rest }
  | (.allBelow :: branch) :: rest =>
    { reading with branches := (.allBelow :: branch) :: rest }
  | (_ :: branch) :: rest =>
    { reading with
      branches := ((if isLast then .allBelow else .folders) :: branch) :: rest }
  | _ => reading

/-- Whether the branch being read has no parts yet. -/
def atStart (reading : GlobReading) : Bool :=
  reading.branches.head?.all List.isEmpty

/-- Whether two stars here are at the start of a branch in braces. -/
def atBranchStart (reading : GlobReading) : Bool :=
  1 < reading.branches.length &&
    (reading.previous == some ',' || reading.previous == some '{')

end GlobReading

/-- The ranges of a class up to its closing bracket, from the last to the first.
`inRange` tells whether a hyphen was read that may continue the last range. -/
def classRanges? (isFirst inRange : Bool) (ranges : List (Char × Char)) :
    List Char → Option (List (Char × Char) × List Char)
  | [] => none
  | c :: rest =>
    if c == ']' && !isFirst then
      some ((if inRange then ('-', '-') :: ranges else ranges), rest)
    else if c == '-' && !isFirst && !inRange then classRanges? false true ranges rest
    else
      match inRange, ranges with
      | true, (low, _) :: before =>
        if c < low then none else classRanges? false false ((low, c) :: before) rest
      | _, _ => classRanges? false false ((c, c) :: ranges) rest

/-- A class behind its opening bracket. -/
def classPart? (text : List Char) : Option (GlobPart × List Char) :=
  match text with
  | '!' :: rest =>
    (classRanges? true false [] rest).map fun (ranges, rest) =>
      (.byteIn true ranges.reverse, rest)
  | '^' :: rest =>
    (classRanges? true false [] rest).map fun (ranges, rest) =>
      (.byteIn true ranges.reverse, rest)
  | _ =>
    (classRanges? true false [] text).map fun (ranges, rest) =>
      (.byteIn false ranges.reverse, rest)

/-- Read a star, and perhaps a second one with the slash behind it; `rest` is
what follows the first. -/
def readStar (reading : GlobReading) (rest : List Char) : GlobReading × List Char :=
  let twoStars := (reading.push .anyBytes).push .anyBytes
  match rest with
  | '*' :: more =>
    let behind (reading : GlobReading) := { reading with previous := some '*' }
    if reading.atStart then
      match more with
      | [] => (behind (reading.push .leadingFolders), [])
      | '/' :: more =>
        ({ reading.push .leadingFolders with previous := some '/' }, more)
      | _ => (behind twoStars, more)
    else if reading.previous != some '/' && !reading.atBranchStart then
      (behind twoStars, more)
    else
      match more with
      | [] => (behind (reading.pushFolders true), [])
      | '/' :: more => ({ reading.pushFolders false with previous := some '/' }, more)
      | c :: _ =>
        if (c == ',' || c == '}') && 1 < reading.branches.length then
          (behind (reading.pushFolders true), more)
        else (behind twoStars, more)
  | _ => ({ reading.push .anyBytes with previous := some '*' }, rest)

/-- Read a glob to its end; `steps` bounds the number of steps. -/
def readGlob? : Nat → GlobReading → List Char → Option GlobReading
  | _, reading, [] => some reading
  | 0, _, _ => none
  | steps + 1, reading, c :: rest =>
    let passed (reading : GlobReading) := { reading with previous := some c }
    match c with
    | '?' => readGlob? steps (passed (reading.push .anyByte)) rest
    | '*' =>
      let (reading, rest) := readStar reading rest
      readGlob? steps reading rest
    | '[' => do
      let (part, rest) ← classPart? rest
      readGlob? steps { reading.push part with previous := some ']' } rest
    | '{' =>
      readGlob? steps
        ⟨[] :: reading.branches, reading.branches.length :: reading.opened,
          some c⟩ rest
    | '}' => do readGlob? steps (passed (← reading.close?)) rest
    | ',' =>
      if reading.opened.isEmpty then
        readGlob? steps (passed (reading.push (.literal c))) rest
      else readGlob? steps
        (passed { reading with branches := [] :: reading.branches }) rest
    | '\\' =>
      match rest with
      | [] => none
      | escaped :: rest =>
        readGlob? steps { reading.push (.literal escaped) with
          previous := some escaped } rest
    | _ => readGlob? steps (passed (reading.push (.literal c))) rest

structure Glob where
  parts : List GlobPart
deriving Repr, Inhabited

def Glob.ofText? (text : String) : Option Glob := do
  let reading ← readGlob? (text.length + 1) ⟨[[]], [], none⟩ text.toList
  match reading.branches with
  | [branch] => return ⟨branch.reverse⟩
  | _ => none

/-! ## Matching -/

def bytesOf (text : String) : List UInt8 := text.toUTF8.toList

/-- Whether a byte is in the range between two characters.  Of characters with
several bytes, the range joins the last byte of the first and the first byte of
the second; the other bytes stand for themselves. -/
def inByteRange (byte : UInt8) (range : Char × Char) : Bool :=
  let low := bytesOf (String.singleton range.1)
  let high := bytesOf (String.singleton range.2)
  if range.1 == range.2 then low.contains byte
  else
    low.dropLast.contains byte || (high.drop 1).contains byte
      || (low.getLastD 0 ≤ byte && byte ≤ high.headD 0)

/-- A text and all that may be left of it. -/
def suffixes : List UInt8 → List (List UInt8)
  | [] => [[]]
  | byte :: rest => (byte :: rest) :: suffixes rest

/-- What is left of a text behind each of its slashes. -/
def behindSlashes : List UInt8 → List (List UInt8)
  | [] => []
  | byte :: rest =>
    if byte == 0x2F then rest :: behindSlashes rest else behindSlashes rest

/-- Texts without those as long as one before. -/
def distinctRests (rests : List (List UInt8)) : List (List UInt8) :=
  rests.foldl (fun kept rest =>
    if kept.any (fun other => other.length == rest.length) then kept
    else rest :: kept) []

def longest? (texts : List (List UInt8)) : Option (List UInt8) :=
  texts.foldl (fun best text =>
    if best.all (fun other => other.length < text.length) then some text
    else best) none

mutual

/-- What may be left of a text behind a part of a glob. -/
def GlobPart.rests : GlobPart → List UInt8 → List (List UInt8)
  | .literal c, text =>
    let bytes := bytesOf (String.singleton c)
    if bytes.isPrefixOf text then [text.drop bytes.length] else []
  | .anyByte, text => if text.isEmpty then [] else [text.drop 1]
  | .anyBytes, text => suffixes text
  | .leadingFolders, text => text :: behindSlashes text
  | .allBelow, text =>
    match text with
    | byte :: rest => if byte == 0x2F then suffixes rest else []
    | [] => []
  | .folders, text =>
    match text with
    | byte :: rest => if byte == 0x2F then rest :: behindSlashes rest else []
    | [] => []
  | .byteIn isNegated ranges, text =>
    match text with
    | byte :: rest => if ranges.any (inByteRange byte) != isNegated then [rest] else []
    | [] => []
  | .choice branches, text =>
    if branches.isEmpty then [text] else choiceRests branches text

/-- What may be left of a text behind one of several branches. -/
def choiceRests : List (List GlobPart) → List UInt8 → List (List UInt8)
  | [], _ => []
  | branch :: branches, text =>
    sequenceRests branch [text] ++ choiceRests branches text

/-- What may be left of some texts behind parts of a glob.  The texts are all
suffixes of one text, so that the longest has the others as suffixes. -/
def sequenceRests : List GlobPart → List (List UInt8) → List (List UInt8)
  | [], texts => texts
  | .anyBytes :: parts, texts =>
    sequenceRests parts ((longest? texts).toList.flatMap suffixes)
  | part :: parts, texts =>
    sequenceRests parts (distinctRests (texts.flatMap part.rests))

end

/-- Whether a glob describes a path.  Two stars alone describe every path. -/
def Glob.matches (glob : Glob) (path : String) : Bool :=
  match glob.parts with
  | [.leadingFolders] => true
  | parts => (sequenceRests parts [bytesOf path]).any List.isEmpty

end VuePrecompiler.Settings
