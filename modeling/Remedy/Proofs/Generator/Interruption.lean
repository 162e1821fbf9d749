import Remedy.Generator.Service

/-!
# Interruptions

A service interrupts nobody by itself: a prompt is interrupted only where the transport of one of
its requests is. Everything else that goes wrong with a request is a fault.
-/

set_option autoImplicit false

namespace Remedy

variable {σ : Type}

def Generator.Uninterrupted (generate : Generator σ) : Prop :=
  ∀ prompt asked, (generate prompt asked).result ≠ .error .interrupted

def Transport.Uninterrupted (transport : Transport σ) : Prop :=
  ∀ request state, (transport request state).1 ≠ .interrupted

namespace Retry

variable [Interpreter] {transport : Transport σ} (calm : transport.Uninterrupted)
  (policy : RetryPolicy)
  (provider : String) (request : Request)

theorem judge_ne_interrupted {delivery : Delivery} (other : delivery ≠ .interrupted) :
    judge provider delivery ≠ .interrupted := by
  cases delivery with
  | response status body =>
    simp only [judge]
    split
    · simp
    · split <;> simp
  | failure kind text => simp [judge]
  | interrupted => exact absurd rfl other

include calm

theorem attemptFrom_ne_interrupted (attempts left attempt : Nat) (state : σ) :
    (attemptFrom transport policy provider request attempts left attempt state).result ≠
      .error .interrupted := by
  induction left generalizing attempt state with
  | zero =>
    have other := judge_ne_interrupted provider (calm request state)
    unfold attemptFrom
    cases judged : judge provider (transport request state).1 with
    | again error => simp [judged, Step.after, Step.halted]
    | settled result => cases result <;> simp [judged, Step.after, Step.halted, Step.done]
    | interrupted => exact absurd judged other
  | succ left ih =>
    have other := judge_ne_interrupted provider (calm request state)
    unfold attemptFrom
    cases judged : judge provider (transport request state).1 with
    | again error =>
      simp only [judged]
      split
      · simp [Step.after, Step.halted]
      · exact ih _ _
    | settled result => cases result <;> simp [judged, Step.after, Step.halted, Step.done]
    | interrupted => exact absurd judged other

theorem post_ne_interrupted (state : σ) :
    (post transport policy provider request state).result ≠ .error .interrupted := by
  simp only [post]
  split
  · simp [Step.halted]
  · exact attemptFrom_ne_interrupted calm policy provider request _ _ _ _

end Retry

theorem Client.generator_uninterrupted [Interpreter] {transport : Transport σ}
    (calm : transport.Uninterrupted)
    (client : Client) : Generator.Uninterrupted (client.generator transport) := by
  intro prompt asked
  have posted := Retry.post_ne_interrupted calm client.policy client.service.name
    (client.request prompt) asked
  simp only [generator, submit, Step.map_result, Step.after_result, Step.andThen]
  split
  · next halt ended =>
    rw [ended] at posted
    intro interrupted
    exact posted (congrArg Except.error (Except.error.inj interrupted))
  · split <;> simp [Step.after, Step.done, Step.halted, Except.map]

end Remedy
