import Remedy.Fault
import Remedy.Journal

/-!
Text generators and the transport to them. A transport takes a request and delivers a response, a
failure of its own, or nothing because somebody interrupted it; what it delivers may depend on what
it delivered before. A generator takes a prompt and gives a completion, or none.
-/

namespace Remedy

inductive Delivery where
  | response (status : Nat) (body : List UInt8)
  | failure (kind text : String)
  | interrupted
  deriving Repr, DecidableEq

abbrev Transport (σ : Type) := Request → σ → Delivery × σ

/-- What an activity with a state leads to: its events, the state after it, and its result or what
kept it from one. -/
structure Step (σ α : Type) where
  journal : Journal
  state : σ
  result : Except Halt α

namespace Step

variable {σ α β : Type}

def done (state : σ) (value : α) : Step σ α := ⟨[], state, .ok value⟩

def halted (state : σ) (halt : Halt) : Step σ α := ⟨[], state, .error halt⟩

def attempt (state : σ) (result : Except Fault α) : Step σ α :=
  ⟨[], state, result.mapError .fault⟩

def after (journal : Journal) (step : Step σ α) : Step σ α :=
  { step with journal := journal ++ step.journal }

def andThen (step : Step σ α) (next : α → σ → Step σ β) : Step σ β :=
  match step.result with
  | .error halt => ⟨step.journal, step.state, .error halt⟩
  | .ok value => (next value step.state).after step.journal

@[simp] theorem after_journal (journal : Journal) (step : Step σ α) :
    (step.after journal).journal = journal ++ step.journal := rfl

@[simp] theorem after_state (journal : Journal) (step : Step σ α) :
    (step.after journal).state = step.state := rfl

@[simp] theorem after_result (journal : Journal) (step : Step σ α) :
    (step.after journal).result = step.result := rfl

@[simp] theorem after_nil (step : Step σ α) : step.after [] = step := rfl

@[simp] theorem done_andThen (state : σ) (value : α) (next : α → σ → Step σ β) :
    (done state value).andThen next = next value state := rfl

@[simp] theorem halted_andThen (state : σ) (halt : Halt) (next : α → σ → Step σ β) :
    (halted state halt).andThen next = halted state halt := rfl

@[simp] theorem attempt_ok_andThen (state : σ) (value : α) (next : α → σ → Step σ β) :
    (attempt state (.ok value)).andThen next = next value state := rfl

@[simp] theorem attempt_error_andThen (state : σ) (fault : Fault) (next : α → σ → Step σ β) :
    (attempt state (.error fault)).andThen next = halted state (.fault fault) := rfl

theorem andThen_of_ok {step : Step σ α} {value : α} (ended : step.result = .ok value)
    (next : α → σ → Step σ β) :
    step.andThen next = (next value step.state).after step.journal := by
  simp only [andThen, ended]

theorem andThen_of_error {step : Step σ α} {halt : Halt} (ended : step.result = .error halt)
    (next : α → σ → Step σ β) :
    step.andThen next = ⟨step.journal, step.state, .error halt⟩ := by
  simp only [andThen, ended]

def map (change : α → β) (step : Step σ α) : Step σ β :=
  ⟨step.journal, step.state, step.result.map change⟩

@[simp] theorem map_journal (change : α → β) (step : Step σ α) :
    (step.map change).journal = step.journal := rfl

@[simp] theorem map_state (change : α → β) (step : Step σ α) :
    (step.map change).state = step.state := rfl

@[simp] theorem map_result (change : α → β) (step : Step σ α) :
    (step.map change).result = step.result.map change := rfl

def within {τ : Type} (embed : σ → τ) (step : Step σ α) : Step τ α :=
  ⟨step.journal, embed step.state, step.result⟩

end Step

/-- A generator with a state: a prompt leads to a completion, if there is one. -/
abbrev Generator (σ : Type) := String → σ → Step σ (Option String)

end Remedy
