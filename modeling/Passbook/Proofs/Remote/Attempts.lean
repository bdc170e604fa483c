import Passbook.Proofs.Query.Questions
/-!
How often a question is asked. It is asked until an answer is not stale or the attempts are used up,
and no more often. The attempts are counted in a word that is never full, and whoever repeats them
one by one, as long as there is another wait, comes to the same.
-/

namespace Passbook.Retry

variable {σ τ α : Type}

/-- The client answers call after call from a script, and its state tells how many calls there
were. -/
structure Follows (script : Nat → Except Fault α) (question : Question (StateM σ) α)
    (calls : σ → Nat) : Prop where
  told : ∀ state, (answer question state).1 = script (calls state)
  counted : ∀ state, calls (answer question state).2 = calls state + 1

/-- The first answer of a script after which nothing is asked again. -/
def IsFirst (script : Nat → Except Fault α) (place : Nat) : Prop :=
  Prompt (script place) ∧ ∀ before < place, ¬ Prompt (script before)

theorem IsFirst.unique {script : Nat → Except Fault α} {first second : Nat}
    (one : IsFirst script first) (two : IsFirst script second) : first = second := by
  rcases Nat.lt_trichotomy first second with less | same | greater
  · exact absurd one.1 (two.2 first less)
  · exact same
  · exact absurd two.1 (one.2 second greater)

theorem not_prompt_iff {outcome : Except Fault α} :
    ¬ Prompt outcome ↔ ∃ seen latest, outcome = .error (.stale seen latest) := by
  simp only [Prompt, ne_eq, not_forall, not_not]

/-- How many attempts there are at most. -/
def limit (policy : RetryPolicy) : UInt32 := max policy.maxAttempts 1

theorem toNat_limit (policy : RetryPolicy) :
    (limit policy).toNat = max policy.maxAttempts.toNat 1 := by
  change (if policy.maxAttempts ≤ 1 then (1 : UInt32) else policy.maxAttempts).toNat = _
  split
  case isTrue few =>
    have less : policy.maxAttempts.toNat ≤ 1 := UInt32.le_iff_toNat_le.mp few
    rw [Nat.max_eq_right less]
    rfl
  case isFalse many =>
    have more : 1 < policy.maxAttempts.toNat := UInt32.lt_iff_toNat_lt.mp (UInt32.not_le.mp many)
    rw [Nat.max_eq_left (Nat.le_of_lt more)]

/-! Attempts one by one, and whoever repeats them. -/

/-- What one attempt comes to: an outcome that is final, or a fault that may pass. -/
inductive Trial (α : Type) where
  | settled (outcome : Except Fault α)
  | passing (fault : Fault)

/-- One attempt, counted before it is made. -/
def attempted (most : UInt32) (notice : UInt32 → Fault → StateM σ Unit)
    (question : Question (StateM σ) α) (place : UInt32 × σ) : Trial α × (UInt32 × σ) :=
  let attempt := place.1 + 1
  match answer question place.2 with
  | (.error (.stale seen latest), after) =>
      if most ≤ attempt then (.settled (.error (.staleTooOften attempt)), attempt, after)
      else (.passing (.stale seen latest), attempt,
        (StateT.run (notice attempt (.stale seen latest)) after).2)
  | (outcome, after) => (.settled outcome, attempt, after)

/-- What is relied on of whoever repeats attempts: a final outcome ends them, and after a fault that
may pass the next one is made if there is another wait. Waits are numbered from zero. -/
structure Repeats (wait? : Nat → Option Duration) (trial : τ → Trial α × τ)
    (repeated : Nat → τ → Except Fault α × τ) : Prop where
  settled : ∀ made place outcome after, trial place = (.settled outcome, after) →
    repeated made place = (outcome, after)
  again : ∀ made place fault middle wait, trial place = (.passing fault, middle) →
    wait? made = some wait → repeated made place = repeated (made + 1) middle

section Attempt
variable {question : Question (StateM σ) α} {count : UInt32} {state after : σ}

theorem attempted_of_prompt (most : UInt32) (notice : UInt32 → Fault → StateM σ Unit)
    {outcome : Except Fault α} (prompt : Prompt outcome)
    (first : answer question state = (outcome, after)) :
    attempted most notice question (count, state) = (.settled outcome, count + 1, after) := by
  unfold attempted
  rw [first]
  split
  case h_1 stale =>
    cases stale
    exact absurd rfl (prompt _ _)
  case h_2 same =>
    cases same
    rfl

theorem attempted_of_stale (most : UInt32) (notice : UInt32 → Fault → StateM σ Unit)
    {seen latest : UInt64} (first : answer question state = (.error (.stale seen latest), after)) :
    attempted most notice question (count, state) =
      if most ≤ count + 1 then
        (.settled (.error (.staleTooOften (count + 1))), count + 1, after)
      else (.passing (.stale seen latest), count + 1,
        (StateT.run (notice (count + 1) (.stale seen latest)) after).2) := by
  unfold attempted
  rw [first]

end Attempt

/-- A count below another one is not full. -/
theorem toNat_succ {count most : UInt32} (room : count.toNat < most.toNat) :
    (count + 1).toNat = count.toNat + 1 := by
  have bound := most.toNat_lt
  rw [UInt32.toNat_add, UInt32.toNat_one]
  omega

/-- While there is another wait, repeated attempts come to what asking again comes to. The attempts
made and those left make up the limit, so their count is never full. -/
theorem repeated_eq_ask {wait? : Nat → Option Duration} {most : UInt32}
    {notice : UInt32 → Fault → StateM σ Unit} {question : Question (StateM σ) α}
    {repeated : Nat → UInt32 × σ → Except Fault α × (UInt32 × σ)}
    (repeats : Repeats wait? (attempted most notice question) repeated)
    (unlimited : ∀ made, ∃ wait, wait? made = some wait) (left made : Nat) (count : UInt32)
    (state : σ) (enough : count.toNat + 1 + left = most.toNat) :
    repeated made (count, state) =
      let reached := StateT.run (ask notice question (count + 1) left) state
      (reached.1.outcome, reached.1.attempts, reached.2) := by
  induction left generalizing made count state with
  | zero =>
      rcases first : answer question state with ⟨outcome, after⟩
      by_cases prompt : Prompt outcome
      · rw [run_ask_of_prompt notice _ _ prompt first]
        exact repeats.settled _ _ _ _ (attempted_of_prompt most notice prompt first)
      · obtain ⟨seen, latest, rfl⟩ := not_prompt_iff.mp prompt
        have counted : (count + 1).toNat = count.toNat + 1 :=
          toNat_succ (show count.toNat < most.toNat by omega)
        have last : most ≤ count + 1 := by
          rw [UInt32.le_iff_toNat_le]
          omega
        rw [run_ask_of_stale notice _ _ first]
        apply repeats.settled
        rw [attempted_of_stale most notice first, if_pos last]
  | succ left ih =>
      rcases first : answer question state with ⟨outcome, after⟩
      by_cases prompt : Prompt outcome
      · rw [run_ask_of_prompt notice _ _ prompt first]
        exact repeats.settled _ _ _ _ (attempted_of_prompt most notice prompt first)
      · obtain ⟨seen, latest, rfl⟩ := not_prompt_iff.mp prompt
        have counted : (count + 1).toNat = count.toNat + 1 :=
          toNat_succ (show count.toNat < most.toNat by omega)
        have more : ¬ most ≤ count + 1 := by
          rw [UInt32.le_iff_toNat_le]
          omega
        obtain ⟨wait, another⟩ := unlimited made
        rw [run_ask_of_stale notice _ _ first]
        have next : attempted most notice question (count, state) =
            (.passing (.stale seen latest), count + 1,
              (StateT.run (notice (count + 1) (.stale seen latest)) after).2) := by
          rw [attempted_of_stale most notice first, if_neg more]
        rw [repeats.again _ _ _ _ _ next another]
        apply ih
        omega

/-! A client that answers from a script. -/

section Script
variable {question : Question (StateM σ) α} {script : Nat → Except Fault α} {calls : σ → Nat}

/-- After `asked` more questions: every answer before the last of them was stale, and the last one
stands, unless it is stale too and no attempt is left. -/
theorem run_ask_spec (follows : Follows script question calls)
    {notice : UInt32 → Fault → StateM σ Unit}
    (discreet : ∀ attempt fault state,
      calls (StateT.run (notice attempt fault) state).2 = calls state)
    (left : Nat) (attempt : UInt32) (state : σ) :
    let reached := StateT.run (ask notice question attempt left) state
    ∃ asked ≤ left,
      calls reached.2 = calls state + asked + 1 ∧
      reached.1.attempts = attempt + UInt32.ofNat asked ∧
      (∀ before < asked, ¬ Prompt (script (calls state + before))) ∧
      (Prompt (script (calls state + asked)) ∧
          reached.1.outcome = script (calls state + asked) ∨
        asked = left ∧ ¬ Prompt (script (calls state + asked)) ∧
          reached.1.outcome = .error (.staleTooOften reached.1.attempts)) := by
  induction left generalizing attempt state with
  | zero =>
      rcases first : answer question state with ⟨outcome, after⟩
      have told : script (calls state) = outcome := by rw [← follows.told state, first]
      have counted : calls after = calls state + 1 := by rw [← follows.counted state, first]
      refine ⟨0, Nat.le_refl 0, ?_⟩
      by_cases prompt : Prompt outcome
      · rw [run_ask_of_prompt notice _ _ prompt first]
        simp [counted, told, prompt]
      · obtain ⟨seen, latest, rfl⟩ := not_prompt_iff.mp prompt
        rw [run_ask_of_stale notice _ _ first]
        simp [counted, told, prompt]
  | succ left ih =>
      -- A stale answer is the first of those before the last; the rest come from one call later.
      rcases first : answer question state with ⟨outcome, after⟩
      have told : script (calls state) = outcome := by rw [← follows.told state, first]
      have counted : calls after = calls state + 1 := by rw [← follows.counted state, first]
      by_cases prompt : Prompt outcome
      · rw [run_ask_of_prompt notice _ _ prompt first]
        refine ⟨0, Nat.zero_le _, ?_⟩
        simp [counted, told, prompt]
      · obtain ⟨seen, latest, rfl⟩ := not_prompt_iff.mp prompt
        rw [run_ask_of_stale notice _ _ first]
        simp only
        have quiet := discreet attempt (.stale seen latest) after
        generalize (StateT.run (notice attempt (.stale seen latest)) after).2 = noticed at quiet ⊢
        obtain ⟨asked, within, made, tally, earlier, last⟩ := ih (attempt + 1) noticed
        rw [quiet, counted] at made earlier last
        have onward : ∀ place, calls state + 1 + place = calls state + (place + 1) := by omega
        refine ⟨asked + 1, by omega, by rw [made]; omega, ?_, ?_, ?_⟩
        · rw [tally, UInt32.ofNat_add, UInt32.add_assoc, UInt32.add_comm 1]
          rfl
        · intro before less
          cases before with
          | zero => rwa [Nat.add_zero, told]
          | succ before =>
              rw [← onward]
              exact earlier before (by omega)
        · rw [onward] at last
          exact last.imp_right fun ⟨same, rest⟩ => ⟨congrArg (· + 1) same, rest⟩

end Script

/-- A question is asked until an answer is not stale, which is then the outcome as it is, or as
often as the limit allows, and the outcome then tells how often. One attempt is made at least. No
outcome is a stale answer, the attempts are counted without a carry, and whoever repeats attempts
as long as there is another wait comes to the same. -/
theorem whileStale_exact (policy : RetryPolicy) {question : Question (StateM σ) α}
    {script : Nat → Except Fault α} {calls : σ → Nat} (follows : Follows script question calls)
    (notice : UInt32 → Fault → StateM σ Unit)
    (discreet : ∀ attempt fault state,
      calls (StateT.run (notice attempt fault) state).2 = calls state)
    {state : σ} (unasked : calls state = 0) (schedule : Backoff → Nat → Option Duration)
    (unlimited : ∀ backoff, backoff.elapsedLimit = none →
      ∀ made, ∃ wait, schedule backoff made = some wait)
    {repeated : Nat → UInt32 × σ → Except Fault α × (UInt32 × σ)}
    (repeats : Repeats (schedule policy.backoff) (attempted (limit policy) notice question)
      repeated) :
    let most := max policy.maxAttempts.toNat 1
    let reached := StateT.run (whileStale policy.maxAttempts notice question) state
    (∀ first, IsFirst script first → first < most →
      calls reached.2 = first + 1 ∧ reached.1.outcome = script first) ∧
    ((¬ ∃ first < most, IsFirst script first) →
      calls reached.2 = most ∧ reached.1.outcome = .error (.staleTooOften (limit policy))) ∧
    Prompt reached.1.outcome ∧
    reached.1.attempts.toNat = calls reached.2 ∧
    repeated 0 (0, state) = (reached.1.outcome, reached.1.attempts, reached.2) := by
  intro most reached
  have top := toNat_limit policy
  have bound := (limit policy).toNat_lt
  obtain ⟨asked, within, made, tally, earlier, last⟩ :=
    run_ask_spec follows discreet (most - 1) 1 state
  change calls reached.2 = _ at made
  change reached.1.attempts = _ at tally
  change _ ∧ reached.1.outcome = _ ∨ _ ∧ _ ∧ reached.1.outcome = _ at last
  rw [unasked] at made earlier last
  simp only [Nat.zero_add] at made earlier last
  -- No more attempts than the limit, which is a word, so the count has not come round.
  have counted : reached.1.attempts.toNat = asked + 1 := by
    rw [tally, UInt32.toNat_add, UInt32.toNat_one, UInt32.toNat_ofNat']
    omega
  refine ⟨?_, ?_, prompt_ask notice question 1 (most - 1) state, counted.trans made.symm, ?_⟩
  · intro first isFirst less
    rcases last with ⟨prompt, outcome⟩ | ⟨spent, stale, -⟩
    · have same : asked = first := IsFirst.unique ⟨prompt, earlier⟩ isFirst
      exact ⟨same ▸ made, same ▸ outcome⟩
    · rcases Nat.lt_trichotomy first asked with before | same | after
      · exact absurd isFirst.1 (earlier first before)
      · exact absurd isFirst.1 (same ▸ stale)
      · omega
  · intro unanswered
    rcases last with ⟨prompt, -⟩ | ⟨spent, -, outcome⟩
    · exact absurd ⟨asked, by omega, prompt, earlier⟩ unanswered
    · have full : reached.1.attempts = limit policy := by
        apply UInt32.toNat_inj.mp
        omega
      exact ⟨by omega, full ▸ outcome⟩
  · refine repeated_eq_ask repeats (unlimited policy.backoff rfl) (most - 1) 0 0 state ?_
    rw [UInt32.toNat_zero]
    omega

namespace Sample

/-- Makes one attempt after another, so many at most. -/
def repeating (trial : τ → Trial α × τ) : Nat → τ → Except Fault α × τ
  | 0, place => (.error .noData, place)
  | left + 1, place =>
      match trial place with
      | (.settled outcome, after) => (outcome, after)
      | (.passing _, middle) => repeating trial left middle

section Repeating
variable {trial : τ → Trial α × τ} {rank : τ → Nat}
  (falls : ∀ place fault middle, trial place = (.passing fault, middle) → rank middle < rank place)
include falls

theorem repeating_of_rank_lt (left : Nat) (place : τ) (enough : rank place < left) :
    repeating trial left place = repeating trial (rank place + 1) place := by
  induction left using Nat.strongRecOn generalizing place with
  | _ left ih =>
    obtain ⟨left, rfl⟩ : ∃ fewer, left = fewer + 1 := ⟨left - 1, by omega⟩
    rcases next : trial place with ⟨outcome | fault, middle⟩
    · rw [repeating, repeating, next]
    · have lower := falls place fault middle next
      rw [repeating, repeating, next]
      change repeating trial left middle = repeating trial (rank place) middle
      rw [ih left (by omega) middle (by omega), ih (rank place) (by omega) middle lower]

/-- Where every fault that may pass brings the end nearer, so many attempts are enough. -/
theorem repeats_repeating (wait? : Nat → Option Duration) :
    Repeats wait? trial (fun _ place => repeating trial (rank place + 1) place) where
  settled := by
    intro _ place outcome after last
    rw [repeating, last]
  again := by
    intro _ place fault middle _ next _
    rw [repeating, next]
    exact repeating_of_rank_lt falls (rank place) middle (falls place fault middle next)

end Repeating

/-- The third answer is the first that is not stale. -/
def script (call : Nat) : Except Fault UInt64 := if call < 2 then .error (.stale 1 2) else .ok 7

def question : Question (StateM Nat) UInt64 :=
  ExceptT.mk (modifyGet fun calls => (script calls, calls + 1))

theorem follows_question : Follows script question id := ⟨fun _ => rfl, fun _ => rfl⟩

def silent (_ : UInt32) (_ : Fault) : StateM Nat Unit := pure ()

def policy : RetryPolicy := { maxAttempts := 3 }

def schedule (backoff : Backoff) (made : Nat) : Option Duration :=
  if backoff.elapsedLimit = none then some (backoff.wait (made + 1)) else none

theorem unlimited_schedule (backoff : Backoff) (unlimited : backoff.elapsedLimit = none)
    (made : Nat) : ∃ wait, schedule backoff made = some wait :=
  ⟨_, if_pos unlimited⟩

def trial : UInt32 × Nat → Trial UInt64 × (UInt32 × Nat) :=
  attempted (limit policy) silent question

theorem trial_falls (place : UInt32 × Nat) (fault : Fault) (middle : UInt32 × Nat)
    (next : trial place = (.passing fault, middle)) : 2 - middle.2 < 2 - place.2 := by
  obtain ⟨count, calls⟩ := place
  by_cases few : calls < 2
  · have first : answer question calls = (.error (.stale 1 2), calls + 1) :=
      congrArg (·, calls + 1) (if_pos few)
    rw [trial, attempted_of_stale _ silent first] at next
    split at next
    · cases next
    · cases next
      change 2 - (calls + 1) < 2 - calls
      omega
  · have first : answer question calls = (.ok 7, calls + 1) :=
      congrArg (·, calls + 1) (if_neg few)
    rw [trial, attempted_of_prompt _ silent (prompt_ok 7) first] at next
    cases next

def repeated (_ : Nat) (place : UInt32 × Nat) : Except Fault UInt64 × (UInt32 × Nat) :=
  repeating trial (2 - place.2 + 1) place

theorem repeats_repeated : Repeats (schedule policy.backoff) trial repeated :=
  repeats_repeating trial_falls (schedule policy.backoff)

theorem isFirst_script : IsFirst script 2 := by
  refine ⟨prompt_ok 7, fun before less prompt => ?_⟩
  exact prompt 1 2 (if_pos less)

end Sample

theorem whileStale_exact_sample :
    let reached := StateT.run (whileStale 3 Sample.silent Sample.question) 0
    reached.2 = 3 ∧ reached.1.outcome = .ok 7 ∧ reached.1.attempts.toNat = 3 ∧
      Sample.repeated 0 (0, 0) = (.ok 7, reached.1.attempts, 3) := by
  obtain ⟨answered, _, _, counted, same⟩ :=
    whileStale_exact Sample.policy Sample.follows_question Sample.silent (fun _ _ _ => rfl)
      (rfl : id (0 : Nat) = 0) Sample.schedule Sample.unlimited_schedule Sample.repeats_repeated
  obtain ⟨calls, outcome⟩ := answered 2 Sample.isFirst_script (by decide)
  refine ⟨calls, outcome, counted.trans calls, ?_⟩
  rw [same]
  exact congrArg₂ (fun outcome calls => (outcome, _, calls)) outcome calls

end Passbook.Retry
