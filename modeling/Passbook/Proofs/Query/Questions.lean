import Passbook.Proofs.Maps
import Passbook.Query.Basic
/-!
Questions to a client that has a state of its own. Whatever a query answers it has from answers of
its client. A client that answers at once, and keeps a note of what it is asked, is asked one thing
after another, as if no other lookup were ever under way.
-/

namespace Passbook

open MonadAttach (CanReturn)
open LawfulMonadAttach
open Retry (Question Ending)

variable {σ α β γ : Type}

namespace FetchSettings

theorem pageLimit_pos (settings : FetchSettings) : 1 ≤ settings.pageLimit := Nat.le_max_right _ _

theorem pageLimit_lt (settings : FetchSettings) : settings.pageLimit < UInt32.size := by
  have small := settings.pageSize.toNat_lt
  unfold pageLimit
  simp only [UInt32.size]
  omega

end FetchSettings

namespace Retry

/-- What a client answers in a state, and the state that this leaves it in. -/
def answer (question : Question (StateM σ) α) (state : σ) : Except Fault α × σ :=
  StateT.run (ExceptT.run question) state

@[simp] theorem answer_pure (value : α) (state : σ) :
    answer (pure value) state = (.ok value, state) := rfl

@[simp] theorem answer_mk_pure (outcome : Except Fault α) (state : σ) :
    answer (ExceptT.mk (pure outcome)) state = (outcome, state) := rfl

theorem answer_lift (action : StateM σ α) (state : σ) :
    answer (ExceptT.lift action) state =
      (.ok (StateT.run action state).1, (StateT.run action state).2) := rfl

theorem answer_bind (question : Question (StateM σ) α) (next : α → Question (StateM σ) β)
    (state : σ) : answer (question >>= next) state =
      match answer question state with
      | (.ok value, after) => answer (next value) after
      | (.error fault, after) => (.error fault, after) := by
  have opened : answer (question >>= next) state =
      StateT.run (ExceptT.bindCont next (answer question state).1) (answer question state).2 := rfl
  rw [opened]
  rcases answer question state with ⟨_ | _, _⟩ <;> rfl

/-- In some state the client answers the question with this. -/
def Answers (question : Question (StateM σ) α) (value : α) : Prop :=
  ∃ state after, answer question state = (.ok value, after)

theorem eq_of_answers_pure {value other : α}
    (answered : Answers (σ := σ) (pure value) other) : value = other := by
  obtain ⟨state, _, done⟩ := answered
  rw [answer_pure] at done
  cases done
  rfl

theorem exists_of_answers_bind {question : Question (StateM σ) α}
    {next : α → Question (StateM σ) β} {result : β}
    (answered : Answers (question >>= next) result) :
    ∃ value, Answers question value ∧ Answers (next value) result := by
  obtain ⟨state, after, done⟩ := answered
  rw [answer_bind] at done
  rcases first : answer question state with ⟨fault | value, middle⟩
  · simp [first] at done
  · rw [first] at done
    exact ⟨value, ⟨state, middle, first⟩, ⟨middle, after, done⟩⟩

theorem eq_of_answers_mk {outcome : Except Fault α} {value : α}
    (answered : Answers (σ := σ) (ExceptT.mk (pure outcome)) value) : outcome = .ok value := by
  obtain ⟨state, _, done⟩ := answered
  rw [answer_mk_pure] at done
  exact congrArg Prod.fst done

/-- A client that is fit answers the question with an outcome of this kind, and is fit again. -/
def Ensures (fit : σ → Prop) (kind : Except Fault α → Prop) (question : Question (StateM σ) α) :
    Prop :=
  ∀ state, fit state → fit (answer question state).2 ∧ kind (answer question state).1

section Ensures
variable {fit : σ → Prop} {question : Question (StateM σ) α} {kind : Except Fault α → Prop}
  {later : Except Fault β → Prop}

theorem ensures_mk {outcome : Except Fault α} (holds : kind outcome) :
    Ensures fit kind (ExceptT.mk (pure outcome)) :=
  fun _ sound => ⟨sound, holds⟩

theorem Ensures.bind {next : α → Question (StateM σ) β} (first : Ensures fit kind question)
    (rest : ∀ value, kind (.ok value) → Ensures fit later (next value))
    (faults : ∀ fault, kind (.error fault) → later (.error fault)) :
    Ensures fit later (question >>= next) := by
  intro state sound
  obtain ⟨after, holds⟩ := first state sound
  rw [answer_bind]
  generalize answer question state = reached at after holds ⊢
  rcases reached with ⟨fault | value, middle⟩
  · exact ⟨after, faults fault holds⟩
  · exact rest value holds middle after

theorem Ensures.imp (first : Ensures fit kind question) {other : Except Fault α → Prop}
    (weaker : ∀ outcome, kind outcome → other outcome) : Ensures fit other question :=
  fun state sound => (first state sound).imp_right (weaker _)

end Ensures

/-- It is not one of the answers after which a question is asked again. -/
def Prompt (outcome : Except Fault α) : Prop :=
  ∀ seen latest, outcome ≠ .error (.stale seen latest)

theorem prompt_ok (value : α) : Prompt (.ok value) := by rintro _ _ ⟨⟩

section Ask
variable {question : Question (StateM σ) α} {state after : σ} {outcome : Except Fault α}

/-- An answer that is not stale is the last. -/
theorem run_ask_of_prompt (notice : UInt32 → Fault → StateM σ Unit) (attempt : UInt32)
    (left : Nat) (prompt : Prompt outcome) (first : answer question state = (outcome, after)) :
    StateT.run (ask notice question attempt left) state = (⟨outcome, attempt⟩, after) := by
  cases left <;>
  · rw [ask, StateT.run_bind]
    change StateT.run (ExceptT.run question) state = (outcome, after) at first
    rw [first]
    cases outcome with
    | ok value => rfl
    | error fault =>
        cases fault with
        | stale seen latest => exact absurd rfl (prompt seen latest)
        | _ => rfl

/-- A stale answer counts as one attempt. -/
theorem run_ask_of_stale (notice : UInt32 → Fault → StateM σ Unit) (attempt : UInt32)
    (left : Nat) {seen latest : UInt64}
    (first : answer question state = (.error (.stale seen latest), after)) :
    StateT.run (ask notice question attempt left) state =
      match left with
      | 0 => (⟨.error (.staleTooOften attempt), attempt⟩, after)
      | left + 1 => StateT.run (ask notice question (attempt + 1) left)
          (StateT.run (notice attempt (.stale seen latest)) after).2 := by
  cases left <;>
  · rw [ask, StateT.run_bind]
    change StateT.run (ExceptT.run question) state = _ at first
    rw [first]
    rfl

/-- What all attempts come to is an answer of the client that is not stale, unless each was. -/
theorem outcome_of_canReturn_ask {m : Type → Type} [Monad m] [LawfulMonad m] [MonadAttach m]
    [LawfulMonadAttach m] {question : Question m α} {notice : UInt32 → Fault → m Unit}
    {attempt : UInt32} {left : Nat} {ending : Ending α}
    (reached : CanReturn (ask notice question attempt left) ending) :
    (∃ attempts, ending.outcome = .error (.staleTooOften attempts)) ∨
      Prompt ending.outcome ∧ CanReturn question.run ending.outcome := by
  induction left generalizing attempt with
  | zero =>
      obtain ⟨outcome, asked, last⟩ := canReturn_bind_imp' reached
      split at last
      case h_1 =>
        cases eq_of_canReturn_pure last
        exact .inl ⟨attempt, rfl⟩
      case h_2 prompt =>
        cases eq_of_canReturn_pure last
        exact .inr ⟨prompt, asked⟩
  | succ left ih =>
      obtain ⟨outcome, asked, last⟩ := canReturn_bind_imp' reached
      split at last
      case h_1 =>
        obtain ⟨_, -, again⟩ := canReturn_bind_imp' last
        exact ih again
      case h_2 prompt =>
        cases eq_of_canReturn_pure last
        exact .inr ⟨prompt, asked⟩

theorem canReturn_run (action : StateM σ α) (state : σ) :
    CanReturn action (StateT.run action state).1 :=
  ⟨state, (StateT.run action state).2, rfl⟩

/-- No attempts end in staleness. -/
theorem prompt_ask (notice : UInt32 → Fault → StateM σ Unit) (question : Question (StateM σ) α)
    (attempt : UInt32) (left : Nat) (state : σ) :
    Prompt (StateT.run (ask notice question attempt left) state).1.outcome := by
  rcases outcome_of_canReturn_ask (canReturn_run _ state) with ⟨attempts, last⟩ | ⟨prompt, _⟩
  · rw [last]
    rintro _ _ ⟨⟩
  · exact prompt

theorem answers_of_ask {notice : UInt32 → Fault → StateM σ Unit} {attempt : UInt32} {left : Nat}
    {value : α}
    (done : (StateT.run (ask notice question attempt left) state).1.outcome = .ok value) :
    Answers question value := by
  rcases outcome_of_canReturn_ask (canReturn_run _ state) with
    ⟨attempts, last⟩ | ⟨_, asked, after, told⟩
  · cases done.symm.trans last
  · rw [done] at told
    exact ⟨asked, after, told⟩

end Ask

end Retry

namespace QueryContext
variable {context : QueryContext (StateM σ)} {what : String}

theorem answers_of_ask {question : Question (StateM σ) α} {value : α}
    (answered : Retry.Answers (context.ask what question) value) :
    Retry.Answers question value := by
  obtain ⟨_, _, done⟩ := answered
  exact Retry.answers_of_ask (congrArg Prod.fst done)

end QueryContext

/-! A client that keeps a note of all that it is asked, and answers the same in every state. -/

/-- After a full page of what there is to read, the pages are those of the rest. -/
theorem range_pages_of_full {size rest : Nat} (positive : 1 ≤ size) (full : size ≤ rest) :
    List.range (rest / size + 1) = 0 :: (List.range ((rest - size) / size + 1)).map Nat.succ := by
  rw [Nat.div_eq_sub_div positive full, List.range_succ_eq_map]

namespace Retry
variable {note : σ → γ → σ} {question : Question (StateM σ) α}

/-- In every state the question comes to this, and these things are asked on the way. -/
def Tells (note : σ → γ → σ) (question : Question (StateM σ) α) (outcome : Except Fault α)
    (asked : List γ) : Prop :=
  ∀ state, answer question state = (outcome, asked.foldl note state)

theorem tells_pure (note : σ → γ → σ) (value : α) : Tells note (pure value) (.ok value) [] :=
  answer_pure value

theorem tells_mk (note : σ → γ → σ) (outcome : Except Fault α) :
    Tells note (ExceptT.mk (pure outcome)) outcome [] :=
  answer_mk_pure outcome

theorem tells_lift (note : σ → γ → σ) {action : StateM σ Unit}
    (quiet : ∀ state, (StateT.run action state).2 = state) :
    Tells note (ExceptT.lift action) (.ok ()) [] := by
  intro state
  rw [answer_lift, quiet state]
  rfl

theorem Tells.bind {next : α → Question (StateM σ) β} {value : α} {outcome : Except Fault β}
    {asked later : List γ} (first : Tells note question (.ok value) asked)
    (rest : Tells note (next value) outcome later) :
    Tells note (question >>= next) outcome (asked ++ later) := by
  intro state
  rw [answer_bind, first state, List.foldl_append]
  exact rest _

theorem Tells.bind_error {fault : Fault} {asked : List γ}
    (failed : Tells note question (.error fault) asked) (next : α → Question (StateM σ) β) :
    Tells note (question >>= next) (.error fault) asked := by
  intro state
  rw [answer_bind, failed state]

/-- Nothing is asked for what is made of an answer. -/
theorem Tells.finish {value : α} {asked : List γ} (told : Tells note question (.ok value) asked)
    (made : α → β) : Tells note (question >>= fun value => pure (made value)) (.ok (made value))
      asked := by
  intro state
  rw [answer_bind, told state]
  rfl

end Retry

namespace QueryContext
open Retry
variable {context : QueryContext (StateM σ)} {what : String} {note : σ → γ → σ}

theorem tells_ask {question : Question (StateM σ) α} {outcome : Except Fault α} {asked : List γ}
    (prompt : Prompt outcome) (told : Tells note question outcome asked) :
    Tells note (context.ask what question) outcome asked := by
  intro state
  have run := run_ask_of_prompt (context.notice what) 1
    (max context.settings.retry.maxAttempts.toNat 1 - 1) prompt (told state)
  have opened : answer (context.ask what question) state =
      ((StateT.run (whileStale context.settings.retry.maxAttempts (context.notice what) question)
        state).1.outcome,
      (StateT.run (whileStale context.settings.retry.maxAttempts (context.notice what) question)
        state).2) := rfl
  rw [opened, whileStale, run]

end QueryContext

end Passbook
