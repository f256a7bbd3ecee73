/-
Retried reads.

A read that times out or gets a malformed response is tried again, after a pause, as often as the
policy allows. Any other failure ends it at once. When the last attempt has failed too, the error says
how many there were and keeps the last cause.
-/
import CalBench.Link.Error
import CalBench.Process.Basic

namespace CalBench

/-- how often a read is tried, and how long to pause between two attempts -/
structure RetryPolicy where
  /-- all attempts, the first one included -/
  attempts : Nat := 1
  backoff : Duration := .ofMillis 100
deriving DecidableEq, Repr, Inhabited

namespace RetryPolicy

/-- a policy with at least one attempt -/
def ofAttempts (attempts : Nat) (backoff : Duration) : RetryPolicy := ⟨max attempts 1, backoff⟩

/-- the policy with the number of attempts of an instruction, if it has one -/
def withAttempts (p : RetryPolicy) (attempts : Option Nat) : RetryPolicy :=
  .ofAttempts (attempts.getD p.attempts) p.backoff

variable {σ α : Type}

/-- tries a read up to `left + 1` more times, after `made` attempts -/
def tryFrom (backoff : Duration) (read : Proc.Fallible σ LinkError α) :
    Nat → Nat → Proc.Fallible σ LinkError (α × Nat)
  | left, made =>
    read.bind fun
      | .ok a => .done (.ok (a, made + 1))
      | .error e =>
        if e.retryable then
          match left with
          | 0 => .done (.error (.readFailure (made + 1) e))
          | left + 1 => (Proc.sleep backoff.ticks).bind fun _ => tryFrom backoff read left (made + 1)
        else .done (.error e)

/-- tries a read as often as the policy allows, and says how many attempts it took -/
def run (p : RetryPolicy) (read : Proc.Fallible σ LinkError α) : Proc.Fallible σ LinkError (α × Nat) :=
  tryFrom p.backoff read (max p.attempts 1 - 1) 0

end RetryPolicy

end CalBench
