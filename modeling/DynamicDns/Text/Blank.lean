/-! # Blank characters

Blank means the `White_Space` property of Unicode, twenty-five characters. Trimming cuts blanks from
both ends of a text, and the words of a text are its longest runs without a blank. Names, secrets
and addresses are trimmed before they are judged, so this set decides which of them count as empty.
-/

namespace DynamicDns.Text.Blank

/-- The characters with the property `White_Space`. -/
def isBlank (c : Char) : Bool :=
  let n := c.toNat
  (9 ≤ n && n ≤ 13) || n == 0x20 || n == 0x85 || n == 0xA0 || n == 0x1680
    || (0x2000 ≤ n && n ≤ 0x200A) || n == 0x2028 || n == 0x2029 || n == 0x202F || n == 0x205F
    || n == 0x3000

def trimStart (s : List Char) : List Char := s.dropWhile isBlank

def trimEnd (s : List Char) : List Char := (s.reverse.dropWhile isBlank).reverse

def trimChars (s : List Char) : List Char := trimEnd (trimStart s)

/-- The text without the blanks at its two ends. -/
def trim (s : String) : String := String.ofList (trimChars s.toList)

/-- A text of blanks only, the empty one included. -/
def isBlankText (s : String) : Bool := s.toList.all isBlank

/-- The word that the text begins with, empty before a blank, and the words after it. -/
def leadingWord : List Char → List Char × List (List Char)
  | [] => ([], [])
  | c :: rest =>
    let (word, later) := leadingWord rest
    if isBlank c then ([], if word.isEmpty then later else word :: later)
    else (c :: word, later)

/-- The longest runs of characters that are not blank, in order. -/
def words (s : List Char) : List (List Char) :=
  let (word, later) := leadingWord s
  if word.isEmpty then later else word :: later

end DynamicDns.Text.Blank
