import VuePrecompiler.Text.Cut

/-!
# Blanks

The blank characters are those with the Unicode property `White_Space`.  A
byte order mark and a zero width space do not belong to them.
-/

namespace VuePrecompiler.Text

/-- Whether a character has the property `White_Space`. -/
def isBlank (c : Char) : Bool :=
  let n := c.toNat
  (0x09 ≤ n && n ≤ 0x0D) || n == 0x20 || n == 0x85 || n == 0xA0 || n == 0x1680
    || (0x2000 ≤ n && n ≤ 0x200A) || n == 0x2028 || n == 0x2029 || n == 0x202F
    || n == 0x205F || n == 0x3000

def trimStart (text : List Char) : List Char :=
  text.dropWhile isBlank

def trimEnd (text : List Char) : List Char :=
  (text.reverse.dropWhile isBlank).reverse

/-- Drop the blanks at both ends. -/
def trim (text : List Char) : List Char :=
  trimEnd (trimStart text)

/-- Drop the blanks at both ends of a string. -/
def trimmed (text : String) : String :=
  String.ofList (trim text.toList)

def isBlankText (text : String) : Bool :=
  text.toList.all isBlank

/-- The words of a text: the maximal stretches without blanks. -/
def words : List Char → List (List Char)
  | [] => []
  | c :: rest =>
    if isBlank c then words rest
    else
      (c :: rest.takeWhile fun c => !isBlank c) ::
        words (rest.dropWhile fun c => !isBlank c)
termination_by text => text.length
decreasing_by
  · simp
  · have := length_dropWhile (fun c => !isBlank c) rest
    simp only [List.length_cons]
    omega

end VuePrecompiler.Text
