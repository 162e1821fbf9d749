import Remedy.Command.Options

/-!
What the program says about its own command line.
-/

namespace Remedy.Command

def Need.placeholder : Need → String
  | value [] => " VALUE"
  | value choices => " \x7b" ++ ",".intercalate choices ++ "\x7d"
  | _ => ""

def OptionRule.usage {κ : Type} (rule : OptionRule κ) : String :=
  "[" ++ "|".intercalate rule.names ++ rule.need.placeholder ++ "]"

def Operands.usage : Operands → List String
  | absent => []
  | many => ["[paths ...]"]
  | command => ["\x7b" ++ ",".intercalate (Verb.all.map Verb.word) ++ "\x7d ..."]

def Part.usage (part : Part) : String :=
  " ".intercalate (["usage:", part.name] ++ part.grammar.options.map OptionRule.usage ++
    part.grammar.operands.usage) ++ "\n"

namespace Dismissal

def output : Dismissal → String
  | help part => part.usage
  | version => programName ++ " " ++ programVersion ++ "\n"
  | mistaken _ _ => ""

def complaint : Dismissal → String
  | mistaken part mistake => part.usage ++ part.name ++ ": error: " ++ mistake.message ++ "\n"
  | _ => ""

def exitStatus : Dismissal → ExitStatus
  | mistaken _ _ => .misused
  | _ => .clean

end Dismissal

end Remedy.Command
