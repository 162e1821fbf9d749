import Remedy.Generator.Transport
import Remedy.Interpreter
import Remedy.Json.Reader
import Remedy.Text.Decoding

/-!
Bodies of responses. A body has to be a JSON object in one of the encodings of Unicode; the body of
a response that reports an error is quoted in part. A body whose containers are nested too deep is
no failure of the service but one of the program that reads it.
-/

namespace Remedy

open Text (Point)

abbrev Reply := Json (List Point)

abbrev Reply.Members := List (List Point × Reply)

namespace Body

inductive Fault where
  | undecodable (fault : Text.DecodeFault)
  | unreadable (error : Json.ReadError)
  deriving Repr, DecidableEq

def Fault.message : Fault → String
  | undecodable fault => fault.message
  | unreadable error => error.message

def quotedLength : Nat := 200

def excerpt (body : List UInt8) : String :=
  String.ofList ((Text.Utf8.repair body).toList.take quotedLength)

variable [Interpreter]

def document (body : List UInt8) : Except Fault Reply :=
  match Text.decodeDetected body with
  | .error fault => .error (.undecodable fault)
  | .ok points => (Json.ofPoints Interpreter.bodyRoom points).mapError .unreadable

def members (provider : String) (status : Nat) (body : List UInt8) :
    Except Remedy.Fault Reply.Members :=
  match document body with
  | .ok (.obj members) => .ok members
  | .ok json => .error (.generator ⟨provider, .unexpectedJson status json.typeName⟩)
  | .error (.unreadable (.tooDeep container)) => .error (.tooDeep container)
  | .error fault => .error (.generator ⟨provider, .notJson status fault.message⟩)

end Body

end Remedy
