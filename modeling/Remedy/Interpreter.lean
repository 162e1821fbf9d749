import Remedy.Yaml.Reader

/-!
What runs the program. How deep the containers of a document may be nested depends on how deep the
calls are nested already where it is read, and texts in YAML are read by a library of their own.
-/

namespace Remedy

namespace Yaml

/-- Why a text has no value: it cannot be read, or reading it fails in a way of its own. -/
inductive Trouble where
  | unreadable (detail : String)
  | foreign (kind text : String)
  deriving Repr, DecidableEq

def Failure.trouble : Failure → Trouble
  | .flaw reason line column =>
    .unreadable (reason.message ++ ": line " ++ toString (line + 1) ++ " column " ++
      toString (column + 1))
  | .misfit .year => .foreign "ValueError" "year 0 is out of range"
  | .misfit .month => .foreign "ValueError" "month must be in 1..12"
  | .misfit .day => .foreign "ValueError" "day is out of range for month"
  | .misfit (.emptyNumber base) =>
    .foreign "ValueError" ("invalid literal for int() with base " ++ toString base ++ ": ''")
  | .misfit (.tooManyDigits digits) => .foreign "ValueError" (Number.tooLongMessage digits)
  | .misfit .tooLarge => .foreign "OverflowError" "int too large to convert to float"
  | .misfit .noCharacter => .foreign "ValueError" "chr() arg not in range(0x110000)"
  | .misfit .hugeCode => .foreign "OverflowError" "Python int too large to convert to C int"

end Yaml

/-- What the program is run by: how many containers in each other it has room for, in the body of a
response and in a settings file, and how it reads a text in YAML. -/
class Interpreter where
  bodyRoom : Nat
  fileRoom : Nat
  readYaml : String → Except Yaml.Trouble (Option Value)

/-- An interpreter that has a thousand levels of calls, some of which the program itself takes. -/
instance Interpreter.usual : Interpreter where
  bodyRoom := 960
  fileRoom := 960
  readYaml text := (Yaml.read text).mapError Yaml.Failure.trouble

end Remedy
