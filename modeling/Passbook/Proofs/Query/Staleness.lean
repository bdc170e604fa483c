import Mathlib.Logic.Function.Basic
import Passbook.Proofs.Query.Landings
/-!
A client that is behind at times beside one that never is. If no question is answered with staleness
as often as it may be asked, every question comes to what it comes to of the steady client; only the
order in which lookups land can tell the two apart.
-/

namespace Passbook

open Retry

variable {σ α β γ : Type}

namespace Retry

/-- What a client without a state answers. -/
def verdict (question : Question (StateM Unit) α) : Except Fault α := (answer question ()).1

theorem verdict_bind (question : Question (StateM Unit) α) (next : α → Question (StateM Unit) β) :
    verdict (question >>= next) = verdict question >>= fun value => verdict (next value) := by
  unfold verdict
  rw [answer_bind]
  rcases answer question () with ⟨_ | _, _⟩ <;> rfl

theorem Prompt.error {fault : Fault} (prompt : Prompt (.error fault : Except Fault α)) :
    Prompt (.error fault : Except Fault β) := by
  rintro seen latest ⟨⟩
  exact prompt seen latest rfl

/-- So many stale answers come first, then this one, and the client is fit again. -/
inductive Recovers (fit : σ → Prop) (question : Question (StateM σ) α)
    (outcome : Except Fault α) : Nat → σ → Prop
  | tells {state after : σ} (told : answer question state = (outcome, after)) (sound : fit after) :
      Recovers fit question outcome 0 state
  | lags {stale : Nat} {state after : σ} {seen latest : UInt64}
      (behind : answer question state = (.error (.stale seen latest), after))
      (rest : Recovers fit question outcome stale after) :
      Recovers fit question outcome (stale + 1) state

/-- A fit client answers as the steady one does, after fewer stale answers than there are
attempts. -/
structure Lags (fit : σ → Prop) (attempts : Nat) (question : Question (StateM σ) α)
    (steady : Question (StateM Unit) α) : Prop where
  prompt : Prompt (verdict steady)
  recovers : ∀ state, fit state →
    ∃ stale < attempts, Recovers fit question (verdict steady) stale state

section Lags
variable {fit : σ → Prop} {question : Question (StateM σ) α} {steady : Question (StateM Unit) α}
  {attempts : Nat}

/-- What is made of an answer at once takes no more attempts. -/
theorem Recovers.bind {outcome : Except Fault α} {stale : Nat} {state : σ}
    (recovers : Recovers fit question outcome stale state)
    {next : α → Question (StateM σ) β} {made : α → Except Fault β}
    (finished : ∀ value, next value = ExceptT.mk (pure (made value))) :
    Recovers fit (question >>= next) (outcome >>= made) stale state := by
  induction recovers with
  | tells told sound =>
      refine .tells ?_ sound
      rw [answer_bind, told]
      cases outcome with
      | error fault => rfl
      | ok value =>
          change answer (next value) _ = _
          rw [finished]
          rfl
  | @lags _ state after seen latest behind _ ih =>
      have passed : answer (question >>= next) state = (.error (.stale seen latest), after) := by
        rw [answer_bind, behind]
      exact .lags passed ih

theorem verdict_finish {steadyNext : α → Question (StateM Unit) β} (made : α → Except Fault β)
    (finished : ∀ value, steadyNext value = ExceptT.mk (pure (made value))) :
    verdict (steady >>= steadyNext) = verdict steady >>= made := by
  rw [verdict_bind]
  exact congrArg _ (funext fun value => by rw [finished]; rfl)

theorem Lags.bind (lags : Lags fit attempts question steady)
    {next : α → Question (StateM σ) β} {steadyNext : α → Question (StateM Unit) β}
    {made : α → Except Fault β}
    (finished : ∀ value, next value = ExceptT.mk (pure (made value)))
    (steadyFinished : ∀ value, steadyNext value = ExceptT.mk (pure (made value)))
    (prompt : ∀ value, Prompt (made value)) :
    Lags fit attempts (question >>= next) (steady >>= steadyNext) := by
  refine ⟨?_, fun state sound => ?_⟩
  · rw [verdict_finish made steadyFinished]
    cases own : verdict steady with
    | error fault => exact (own ▸ lags.prompt).error
    | ok value => exact prompt value
  · rw [verdict_finish made steadyFinished]
    obtain ⟨stale, few, recovers⟩ := lags.recovers state sound
    exact ⟨stale, few, recovers.bind finished⟩

end Lags

/-- A client that owes stale answers: as long as it owes one for a call it gives that. -/
def owing [DecidableEq γ] (call : γ) (steady : Question (StateM Unit) α) :
    Question (StateM (γ → Nat)) α :=
  ExceptT.mk do
    let owed ← get
    match owed call with
    | 0 => return verdict steady
    | left + 1 =>
        set (Function.update owed call left)
        return .error (.stale 1 2)

theorem answer_owing [DecidableEq γ] (call : γ) (steady : Question (StateM Unit) α)
    (owed : γ → Nat) : answer (owing call steady) owed =
      match owed call with
      | 0 => (verdict steady, owed)
      | left + 1 => (.error (.stale 1 2), Function.update owed call left) := by
  have opened : answer (owing call steady) owed = StateT.run (match owed call with
      | 0 => pure (verdict steady)
      | left + 1 => do
          set (Function.update owed call left)
          return .error (.stale 1 2) : StateM (γ → Nat) (Except Fault α)) owed := rfl
  rw [opened]
  cases owed call <;> rfl

theorem lags_owing [DecidableEq γ] {steady : Question (StateM Unit) α}
    (prompt : Prompt (verdict steady)) (attempts : Nat) (call : γ) :
    Lags (fun owed => ∀ call, owed call < attempts) attempts (owing call steady) steady where
  prompt := prompt
  recovers owed few := by
    refine ⟨owed call, few call, ?_⟩
    induction own : owed call generalizing owed with
    | zero => exact .tells (by rw [answer_owing, own]) few
    | succ left ih =>
        have behind : answer (owing call steady) owed =
            (.error (.stale 1 2), Function.update owed call left) := by
          rw [answer_owing, own]
        refine .lags behind (ih _ (fun other => ?_) (Function.update_self call left owed))
        by_cases same : other = call
        · have few := few call
          rw [same, Function.update_self]
          omega
        · rw [Function.update_of_ne same]
          exact few other

/-- What follows on an outcome follows on a question that comes to it. -/
theorem Ensures.follow {fit : σ → Prop} {question : Question (StateM σ) α}
    {outcome : Except Fault α} {next : α → Question (StateM σ) β} {made : α → Except Fault β}
    {agree : Except Fault β → Except Fault β → Prop} (first : Ensures fit (· = outcome) question)
    (rest : ∀ value, outcome = .ok value → Ensures fit (agree · (made value)) (next value))
    (faults : ∀ fault, agree (.error fault) (.error fault)) :
    Ensures fit (agree · (outcome >>= made)) (question >>= next) := by
  refine first.bind (fun value own => ?_) fun fault own => ?_
  · rw [← own]
    exact rest value own.symm
  · rw [← own]
    exact faults fault

theorem Ensures.finish {fit : σ → Prop} {question : Question (StateM σ) α}
    {kind : Except Fault α → Prop} {later : Except Fault β → Prop}
    {next : α → Question (StateM σ) β} (first : Ensures fit kind question)
    (made : α → Except Fault β)
    (finished : ∀ value, next value = ExceptT.mk (pure (made value)))
    (holds : ∀ outcome, kind outcome → later (outcome >>= made)) :
    Ensures fit later (question >>= next) := by
  refine first.bind (fun value own => ?_) fun fault own => holds _ own
  rw [finished]
  exact ensures_mk (holds _ own)

end Retry

namespace Lookup
variable {fit : σ → Prop} {width : Nat} {look : Nat → α → StateM σ (Lookup β)}

end Lookup

namespace QueryContext

/-- How often a question is asked. -/
def attempts (context : QueryContext (StateM σ)) : Nat :=
  max context.settings.retry.maxAttempts.toNat 1

/-- The same way to ask a client without a state. -/
def steady (context : QueryContext (StateM σ)) : QueryContext (StateM Unit) where
  chain := context.chain
  settings := context.settings
  notice _ _ _ := pure ()
  tell _ := pure ()

variable {context : QueryContext (StateM σ)} {what : String} {fit : σ → Prop}

end QueryContext

end Passbook
