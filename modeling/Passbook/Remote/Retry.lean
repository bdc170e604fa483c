import Passbook.Remote.Fault
/-!
Asking again after a stale answer, up to a number of attempts. Every other outcome is final.
-/

namespace Passbook.Retry

variable {m : Type → Type} [Monad m] {α : Type}

/-- A question to a remote ledger. -/
abbrev Question (m : Type → Type) (α : Type) := ExceptT Fault m α

/-- What a question comes to, and how many attempts that takes. -/
structure Ending (α : Type) where
  outcome : Except Fault α
  attempts : UInt32

/-- Asks once as attempt number `attempt`, and again while attempts are left and answers stale. -/
def ask (notice : UInt32 → Fault → m Unit) (question : Question m α) (attempt : UInt32) :
    Nat → m (Ending α)
  | 0 => do
      match ← question.run with
      | .error (.stale _ _) => return ⟨.error (.staleTooOften attempt), attempt⟩
      | outcome => return ⟨outcome, attempt⟩
  | left + 1 => do
      match ← question.run with
      | .error (.stale seen latest) =>
          notice attempt (.stale seen latest)
          ask notice question (attempt + 1) left
      | outcome => return ⟨outcome, attempt⟩

/-- No fewer than one attempt is made. -/
def whileStale (maxAttempts : UInt32) (notice : UInt32 → Fault → m Unit)
    (question : Question m α) : m (Ending α) :=
  ask notice question 1 (max maxAttempts.toNat 1 - 1)

end Passbook.Retry
