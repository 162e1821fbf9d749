import Remedy.Value

/-!
What goes wrong between asking a text generator and having its answer.
-/

namespace Remedy

/-- Why a text generator gave no answer: the transport failed, a status stands in the way, or the
body is not what it should be. -/
inductive GeneratorCause where
  | transport (kind text : String)
  | transientStatus (status : Nat)
  | status (status : Nat) (text : String)
  | notJson (status : Nat) (detail : String)
  | unexpectedJson (status : Nat) (type : String)
  | malformedCandidate (fault : TypeFault)
  | described (text : String)
  deriving Repr, DecidableEq

structure GeneratorError where
  provider : String
  cause : GeneratorCause
  deriving Repr, DecidableEq

namespace GeneratorError

def message (error : GeneratorError) : String :=
  match error.cause with
  | .transport kind text => error.provider ++ " request failed: " ++ kind ++ ": " ++ text
  | .transientStatus status => error.provider ++ " returned HTTP " ++ toString status
  | .status status text =>
    error.provider ++ " returned HTTP " ++ toString status ++ ": " ++ text
  | .notJson _ detail => error.provider ++ " returned a non-JSON body: " ++ detail
  | .unexpectedJson _ type => error.provider ++ " returned unexpected JSON (" ++ type ++ ")"
  | .malformedCandidate fault =>
    error.provider ++ " returned a malformed candidate: " ++ fault.message
  | .described text => text

/-- The status of the response that a failure is due to; zero if there is none. -/
def statusCode (error : GeneratorError) : Nat :=
  match error.cause with
  | .transientStatus status => status
  | .status status _ => status
  | .notJson status _ => status
  | .unexpectedJson status _ => status
  | _ => 0

end GeneratorError

end Remedy
