/-!
Lines of a text. A line ends at any of ten boundary characters or at a carriage return followed
by a line feed, which counts as one boundary. The bodies and endings of the lines of a text
concatenate to the text, and only the last line may lack an ending.
-/

namespace Remedy.Text

def isLineEnd (c : Char) : Bool :=
  c == '\n' || c == '\r' || c == '\x0b' || c == '\x0c' || c == '\x1c' || c == '\x1d' ||
    c == '\x1e' || c == '\u0085' || c == '\u2028' || c == '\u2029'

structure Line where
  body : List Char
  ending : List Char
  deriving Repr, DecidableEq

namespace Line

def chars (line : Line) : List Char :=
  line.body ++ line.ending

/-- A character put in front of the first line; it begins the only line of an empty text. -/
def consChar (c : Char) : List Line → List Line
  | [] => [⟨[c], []⟩]
  | line :: rest => ⟨c :: line.body, line.ending⟩ :: rest

def split : List Char → List Line
  | [] => []
  | '\r' :: '\n' :: rest => ⟨[], ['\r', '\n']⟩ :: split rest
  | c :: rest => if isLineEnd c then ⟨[], [c]⟩ :: split rest else consChar c (split rest)

theorem chars_consChar (c : Char) (lines : List Line) :
    (consChar c lines).flatMap chars = c :: lines.flatMap chars := by
  cases lines <;> simp [consChar, chars]

theorem chars_split (text : List Char) : (split text).flatMap chars = text := by
  fun_induction split text with
  | case1 => rfl
  | case2 rest ih => simp [chars, ih]
  | case3 c rest _ _ ih => simp [chars, ih]
  | case4 c rest _ _ ih => rw [chars_consChar, ih]

end Line

def lines (text : String) : List String :=
  (Line.split text.toList).map fun line => String.ofList line.body

def linesWithEndings (text : String) : List String :=
  (Line.split text.toList).map fun line => String.ofList line.chars

/-- A text in which every carriage return, alone or before a line feed, became a line feed. -/
def unifyNewlinesChars : List Char → List Char
  | [] => []
  | '\r' :: '\n' :: rest => '\n' :: unifyNewlinesChars rest
  | c :: rest => (if c = '\r' then '\n' else c) :: unifyNewlinesChars rest

/-- A text in which every carriage return, alone or before a line feed, became a line feed. -/
def unifyNewlines (text : String) : String :=
  String.ofList (unifyNewlinesChars text.toList)

end Remedy.Text
