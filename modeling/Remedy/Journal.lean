import Remedy.Value

/-!
Journals. Everything that an activity says or does towards the outside, apart from changing files,
is an event: log records, consultations of version control, prompts, requests over the network
and pauses. A journal lists events in the order in which they happened.
-/

namespace Remedy

inductive LogLevel where
  | debug
  | info
  | warning
  | error
  deriving Repr, DecidableEq

namespace LogLevel

def name : LogLevel → String
  | debug => "DEBUG"
  | info => "INFO"
  | warning => "WARNING"
  | error => "ERROR"

def rank : LogLevel → Nat
  | debug => 0
  | info => 1
  | warning => 2
  | error => 3

def reaches (level threshold : LogLevel) : Bool :=
  threshold.rank ≤ level.rank

end LogLevel

structure LogRecord where
  level : LogLevel
  message : String
  deriving Repr, DecidableEq

structure Request where
  url : String
  payload : Value
  parameters : Option Value
  timeout : Value
  deriving Repr

inductive Event where
  | log (record : LogRecord)
  | consult (arguments : List String)
  | prompt (text : String)
  | post (request : Request)
  | pause (delay : Number.Quantity)
  deriving Repr

namespace Event

def debug (message : String) : Event := log ⟨.debug, message⟩

def info (message : String) : Event := log ⟨.info, message⟩

def warning (message : String) : Event := log ⟨.warning, message⟩

def error (message : String) : Event := log ⟨.error, message⟩

def shows (threshold : LogLevel) : Event → Bool
  | log record => record.level.reaches threshold
  | _ => true

end Event

abbrev Journal := List Event

namespace Journal

def records (journal : Journal) : List LogRecord :=
  journal.filterMap fun
    | .log record => some record
    | _ => none

/-- The arguments of all consultations of version control, one after the other. -/
def consultations (journal : Journal) : List String :=
  journal.flatMap fun
    | .consult arguments => arguments
    | _ => []

def prompts (journal : Journal) : List String :=
  journal.filterMap fun
    | .prompt text => some text
    | _ => none

def requests (journal : Journal) : List Request :=
  journal.filterMap fun
    | .post request => some request
    | _ => none

def pauses (journal : Journal) : List Number.Quantity :=
  journal.filterMap fun
    | .pause delay => some delay
    | _ => none

@[simp] theorem records_append (a b : Journal) : (a ++ b).records = a.records ++ b.records := by
  simp [records]

@[simp] theorem prompts_append (a b : Journal) : (a ++ b).prompts = a.prompts ++ b.prompts := by
  simp [prompts]

@[simp] theorem requests_append (a b : Journal) :
    (a ++ b).requests = a.requests ++ b.requests := by
  simp [requests]

@[simp] theorem pauses_append (a b : Journal) : (a ++ b).pauses = a.pauses ++ b.pauses := by
  simp [pauses]

def atLeast (threshold : LogLevel) (journal : Journal) : Journal :=
  journal.filter (Event.shows threshold)

theorem atLeast_cons (threshold : LogLevel) (event : Event) (rest : Journal) :
    atLeast threshold (event :: rest) =
      if event.shows threshold then event :: rest.atLeast threshold
      else rest.atLeast threshold := by
  simp [atLeast, List.filter_cons]

theorem records_atLeast (threshold : LogLevel) (journal : Journal) :
    (journal.atLeast threshold).records =
      journal.records.filter fun record => record.level.reaches threshold := by
  induction journal with
  | nil => rfl
  | cons event rest ih =>
    rw [atLeast_cons]
    cases event with
    | log record =>
      by_cases h : record.level.reaches threshold = true <;>
        simpa [records, Event.shows, h] using ih
    | _ => simpa [records, Event.shows] using ih

end Journal

end Remedy
