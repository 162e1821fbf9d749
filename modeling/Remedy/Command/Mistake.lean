import Remedy.Text.Quoted

/-!
Mistakes on a command line, and their wording.
-/

namespace Remedy.Command

/-- What is wrong with a command line. Options are given by all their names. -/
inductive Mistake where
  | ambiguous (word : String) (names : List String)
  | valueMissing (names : List String)
  | valueUnused (names : List String) (value : String)
  | badChoice (names : List String) (value : String) (choices : List String)
  | unrecognized (words : List String)
  deriving Repr, DecidableEq

namespace Mistake

def subject (names : List String) : String :=
  "argument " ++ "/".intercalate names ++ ": "

def message : Mistake → String
  | ambiguous word names =>
    "ambiguous option: " ++ word ++ " could match " ++ ", ".intercalate names
  | valueMissing names => subject names ++ "expected one argument"
  | valueUnused names value =>
    subject names ++ "ignored explicit argument " ++ Text.quoted value
  | badChoice names value choices =>
    subject names ++ "invalid choice: " ++ Text.quoted value ++ " (choose from " ++
      ", ".intercalate (choices.map Text.quoted) ++ ")"
  | unrecognized words => "unrecognized arguments: " ++ " ".intercalate words

end Mistake

end Remedy.Command
