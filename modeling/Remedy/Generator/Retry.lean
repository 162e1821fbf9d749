import Remedy.Generator.Body

/-!
Requests with retries. A failure of the transport or a status that tells of a passing trouble is
followed by another attempt, as long as attempts are left; anything else decides the request. The
pause before an attempt doubles each time up to a limit.
-/

namespace Remedy

open Number

structure RetryPolicy where
  timeout : Value
  maxRetries : Value
  delay : Value
  deriving Repr

namespace Retry

def transientStatuses : List Nat := [429, 500, 502, 503, 504]

def isErrorStatus (status : Nat) : Bool :=
  400 ≤ status && status ≤ 599

inductive Judgement where
  | again (error : GeneratorError)
  | settled (result : Except Fault Reply.Members)
  | interrupted

def judge [Interpreter] (provider : String) : Delivery → Judgement
  | .interrupted => .interrupted
  | .failure kind text => .again ⟨provider, .transport kind text⟩
  | .response status body =>
    if transientStatuses.contains status then .again ⟨provider, .transientStatus status⟩
    else if isErrorStatus status then
      .settled (.error (.generator ⟨provider, .status status (Body.excerpt body)⟩))
    else .settled (Body.members provider status body)

def longestPause : Quantity := .real (.ofRatio false 30 1)

def capped (delay : Quantity) : Quantity :=
  if longestPause.lt delay then longestPause else delay

/-- A value times two to a power. Powers beyond the range of double-precision numbers do not
multiply one. -/
def doubled (value : Value) (power : Nat) : Except Fault Quantity :=
  match value with
  | .bool b => .ok (.whole ((if b then 1 else 0) * Int.ofNat (Nat.pow 2 power)))
  | .int n => .ok (.whole (n * Int.ofNat (Nat.pow 2 power)))
  | .float x => if 1024 ≤ power then .error .tooLarge else .ok (.real (x.scale power))
  | .str _ => .error (.type (.notComparable "<" "float" "str"))
  | .list _ => .error (.type (.notComparable "<" "float" "list"))
  | v => .error (.type (.notMultipliable v.typeName "int"))

def pauseAfter (policy : RetryPolicy) (attempt : Nat) : Except Fault Quantity :=
  (doubled policy.delay (attempt - 1)).map capped

/-- A quantity with one decimal place. Whole numbers beyond the range of double-precision numbers
have no such text. -/
def oneDecimal : Quantity → Except Fault String
  | .real x => .ok x.oneDecimal
  | .whole n =>
    match Binary64.ofInt? n with
    | some x => .ok x.oneDecimal
    | none => .error .tooLarge

/-- What happens between a failed attempt and the next one. It is assumed that a pause that cannot
be written ends the request: records go to a handler that lets such a failure out. -/
def interlude (policy : RetryPolicy) (error : GeneratorError) (attempt attempts : Nat) :
    Except Fault Journal :=
  match pauseAfter policy attempt with
  | .error fault => .error fault
  | .ok delay =>
    (oneDecimal delay).map fun text =>
      .warning (error.message ++ " (attempt " ++ toString attempt ++ "/" ++ toString attempts ++
        "); retrying in " ++ text ++ "s") ::
      (if (Quantity.whole 0).lt delay then [.pause delay] else [])

variable [Interpreter] {σ : Type}

/-- Attempts of a request from a number on, of which `left` more may follow it. It is assumed that
every attempt can be posted, so that it comes to a delivery. -/
def attemptFrom (transport : Transport σ) (policy : RetryPolicy) (provider : String)
    (request : Request) (attempts : Nat) : Nat → Nat → σ → Step σ Reply.Members
  | left, attempt, state =>
    let (delivery, state) := transport request state
    let posted : Journal := [.post request]
    match judge provider delivery with
    | .interrupted => (Step.halted state .interrupted).after posted
    | .settled (.ok members) => (Step.done state members).after posted
    | .settled (.error fault) => (Step.halted state (.fault fault)).after posted
    | .again error =>
      match left with
      | 0 => (Step.halted state (.fault (.generator error))).after posted
      | left + 1 =>
        match interlude policy error attempt attempts with
        | .error fault => (Step.halted state (.fault fault)).after posted
        | .ok between =>
          (attemptFrom transport policy provider request attempts left (attempt + 1) state).after
            (posted ++ between)

/-- How many retries a value grants: the value itself, or none if it is not positive. -/
def granted (value : Value) : Except TypeFault Value :=
  (value.compare ">" (fun a b => b.lt a) 0).map fun positive =>
    if positive then value else .int 0

/-- The number of retries that a granted value stands for; it has to be whole. -/
def count (value : Value) : Except TypeFault Nat :=
  match value.quantity? with
  | some (.whole n) => .ok n.toNat
  | some (.real _) => .error (.notWhole "float")
  | none => .error (.notWhole value.typeName)

def post (transport : Transport σ) (policy : RetryPolicy) (provider : String)
    (request : Request) (state : σ) : Step σ Reply.Members :=
  match count policy.maxRetries with
  | .error fault => Step.halted state (.fault (.type fault))
  | .ok retries =>
    attemptFrom transport policy provider request (retries + 1) retries 1 state

end Retry

end Remedy
