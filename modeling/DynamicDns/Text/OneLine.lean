import DynamicDns.Text.Blank

/-! # A body on one line

An error message quotes the body of an answer as one line of bounded length: the words of the body
with one space between them, cut after 256 characters. The dots tell that something was cut.
-/

namespace DynamicDns.Text.OneLine

/-- How many characters of a body are kept. -/
def limit : Nat := 256

/-- Shortens a line that is too long and marks the cut. -/
def clip (line : List Char) : List Char :=
  if line.length ≤ limit then line else line.take limit ++ ['.', '.', '.']

def ofChars (body : List Char) : List Char :=
  clip ([' '].intercalate (Blank.words body))

def ofBody (body : String) : String := String.ofList (ofChars body.toList)

end DynamicDns.Text.OneLine
