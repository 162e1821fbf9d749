import Remedy.Text.Blank
import Remedy.Text.Word

/-!
Completions: what a text generator answers. Code fences are removed wherever they stand, an
opening fence with its language tag, the blanks after it and one line feed; what is left is
trimmed. The artifact of a completion then gets the line terminator that the file had.
-/

namespace Remedy.Completion

def isTagChar (c : Char) : Bool :=
  Text.isWord c || c == '+' || c == '#' || c == '.' || c == '-'

def isLineBlank (c : Char) : Bool :=
  c == ' ' || c == '\t'

def dropNewline : List Char → List Char
  | '\n' :: rest => rest
  | text => text

/-- What stands after the tag of a fence, the blanks that follow it and a line feed. -/
def afterTag (text : List Char) : List Char :=
  dropNewline ((text.dropWhile isTagChar).dropWhile isLineBlank)

/-- A text without fences and their tags; `fuel` is at least the length of the text. -/
def removeTagged : Nat → List Char → List Char
  | fuel + 1, '\x60' :: '\x60' :: '\x60' :: rest => removeTagged fuel (afterTag rest)
  | fuel + 1, c :: rest => c :: removeTagged fuel rest
  | _, text => text

def removeBare : List Char → List Char
  | '\x60' :: '\x60' :: '\x60' :: rest => removeBare rest
  | c :: rest => c :: removeBare rest
  | [] => []

def cleanChars (text : List Char) : List Char :=
  Text.stripChars (removeBare (removeTagged text.length text))

def clean (text : String) : String :=
  String.ofList (cleanChars text.toList)

def endsWith (text ending : String) : Bool :=
  ending.toList.isSuffixOf text.toList

/-- An artifact with the line terminator that the file ended in, unless it has a line feed at
its end already. -/
def restoreEnding (before artifact : String) : String :=
  if endsWith artifact "\n" then artifact
  else if endsWith before "\r\n" then artifact ++ "\r\n"
  else if endsWith before "\n" then artifact ++ "\n"
  else artifact

end Remedy.Completion
