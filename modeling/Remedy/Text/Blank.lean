import Remedy.Text.CodeRange

/-!
White space of every script, and trimming. A trimmed text begins and ends with a character that
is not blank, or is empty.
-/

namespace Remedy.Text

/-- The code points of white space: control characters that space, and separators. -/
def blankRanges : CodeRanges := [
    (9, 13), (28, 32), (133, 133), (160, 160), (5760, 5760), (8192, 8202), (8232, 8233),
    (8239, 8239), (8287, 8287), (12288, 12288)]

def isBlank (c : Char) : Bool :=
  blankRanges.contains c.toNat

def trimLeft (skips : Char → Bool) (text : List Char) : List Char :=
  text.dropWhile skips

def trimRight (skips : Char → Bool) (text : List Char) : List Char :=
  (text.reverse.dropWhile skips).reverse

def stripChars (text : List Char) : List Char :=
  trimRight isBlank (trimLeft isBlank text)

def strip (text : String) : String :=
  String.ofList (stripChars text.toList)

end Remedy.Text
