/-!
# Cutting texts

Small cuts of a list of characters: at a prefix, at the first or the last
occurrence of a separator, at every occurrence of a character.
-/

namespace VuePrecompiler.Text

/-- What follows a prefix, if the text starts with it. -/
def afterPrefix? : List Char → List Char → Option (List Char)
  | [], text => some text
  | _ :: _, [] => none
  | p :: rest, c :: text => if p = c then afterPrefix? rest text else none

/-- The text up to the first occurrence of a separator, and the text from
there on.  Without an occurrence everything lies before it. -/
def breakOn (separator : List Char) : List Char → List Char × List Char
  | [] => ([], [])
  | c :: rest =>
    if separator.isPrefixOf (c :: rest) then ([], c :: rest)
    else
      let (before, after) := breakOn separator rest
      (c :: before, after)

/-- The parts before and after the first occurrence of a separator. -/
def splitOnce? (separator : List Char) (text : List Char) :
    Option (List Char × List Char) :=
  let (before, after) := breakOn separator text
  (afterPrefix? separator after).map fun after => (before, after)

/-- The parts before and after the last occurrence of a character. -/
def splitLast? (separator : Char) (text : List Char) :
    Option (List Char × List Char) :=
  let after := text.reverse.takeWhile (· != separator)
  match text.reverse.dropWhile (· != separator) with
  | [] => none
  | _ :: before => some (before.reverse, after.reverse)

/-- The stretches between the occurrences of a character. -/
def splitOnChar (separator : Char) : List Char → List (List Char)
  | [] => [[]]
  | c :: rest =>
    if c = separator then [] :: splitOnChar separator rest
    else
      match splitOnChar separator rest with
      | [] => [[c]]
      | first :: others => (c :: first) :: others

def insideBrackets? (opening closing : Char) (text : List Char) : Option (List Char) :=
  match text with
  | first :: rest =>
    if first = opening && rest.getLast? = some closing then
      some rest.dropLast else none
  | [] => none

theorem length_dropWhile (test : Char → Bool) (text : List Char) :
    (text.dropWhile test).length ≤ text.length :=
  (List.dropWhile_sublist test).length_le

theorem length_breakOn (separator text : List Char) :
    (breakOn separator text).2.length ≤ text.length := by
  induction text with
  | nil => simp [breakOn]
  | cons c rest ih =>
    by_cases found : separator.isPrefixOf (c :: rest)
    · simp [breakOn, found]
    · simp only [breakOn, found, Bool.false_eq_true, ↓reduceIte, List.length_cons]
      omega

end VuePrecompiler.Text
