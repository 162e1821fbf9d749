import Remedy.FileTree.Replace
import Remedy.Generator.Error
import Remedy.Json.Basic
import Remedy.Number.Numeral
import Remedy.Settings.Error

/-!
Faults: everything that can keep an activity from its result, with its class and its wording.
-/

namespace Remedy

inductive Fault where
  | settings (error : SettingsError)
  | generator (error : GeneratorError)
  | file (error : FileError)
  | replacement (error : ReplaceError)
  | type (fault : TypeFault)
  | tooManyDigits (digits : Nat)
  | tooLarge
  | tooDeep (container : Json.Container)
  | unknownFormat (name : String)
  | foreign (kind text : String)
  deriving Repr, DecidableEq

namespace Fault

def message : Fault → String
  | settings error => error.message
  | generator error => error.message
  | file error => error.message
  | replacement error => error.message
  | type fault => fault.message
  | tooManyDigits digits => Number.tooLongMessage digits
  | tooLarge => "int too large to convert to float"
  | tooDeep container => container.tooDeepMessage
  | unknownFormat name => "Unknown format: " ++ name
  | foreign _ text => text

def kind : Fault → String
  | settings _ => "ConfigurationError"
  | generator _ => "BackendError"
  | file error => error.kind
  | replacement error => error.kind
  | type fault => fault.kind
  | tooManyDigits _ => "ValueError"
  | tooLarge => "OverflowError"
  | tooDeep _ => "RecursionError"
  | unknownFormat _ => "ValueError"
  | foreign kind _ => kind

end Fault

inductive Halt where
  | fault (fault : Fault)
  | interrupted
  deriving Repr, DecidableEq

end Remedy
