import Passbook.Proofs.Query.Questions
import Mathlib.Data.List.Perm.Basic
/-!
What lookups land as, in whatever order: the answers of all, or the failure of one. If each comes to
the same whenever it begins, all that the order decides is in which order the answers stand, and
which failure is the first.
-/

namespace Passbook

open Retry

variable {σ α β γ : Type}

namespace Lookup

/-- What lookups land as: the answers of those under way and of those of the keys, in some order, or
what one of them failed with. -/
def Lands (tells : α → Except Fault β → Prop) (underway : List (Except Fault β)) (keys : List α) :
    Except Fault (List β) → Prop
  | .ok results => ∃ landed, List.Forall₂ (fun key result => tells key (.ok result)) keys landed ∧
      (results.map Except.ok).Perm (underway ++ landed.map .ok)
  | .error fault => .error fault ∈ underway ∨ ∃ key ∈ keys, tells key (.error fault)

section Lands
variable {tells : α → Except Fault β → Prop} {underway other : List (Except Fault β)}
  {keys : List α} {key : α} {outcome : Except Fault β} {results : Except Fault (List β)}

theorem lands_nil : Lands tells [] [] (.ok []) := ⟨[], .nil, .nil⟩

theorem Lands.perm (lands : Lands tells underway keys results) (same : underway.Perm other) :
    Lands tells other keys results := by
  cases results with
  | ok results =>
      obtain ⟨landed, told, perm⟩ := lands
      exact ⟨landed, told, perm.trans (same.append_right _)⟩
  | error fault => exact lands.imp_left same.mem_iff.mp

/-- A lookup that begins is under way. -/
theorem Lands.begin (lands : Lands tells (outcome :: underway) keys results)
    (told : tells key outcome) : Lands tells underway (key :: keys) results := by
  cases results with
  | ok results =>
      obtain ⟨landed, others, perm⟩ := lands
      obtain ⟨result, _, rfl⟩ := List.mem_map.mp (perm.mem_iff.mpr List.mem_cons_self)
      refine ⟨result :: landed, .cons told others, perm.trans ?_⟩
      exact List.perm_middle.symm
  | error fault =>
      rcases lands with here | ⟨other, member, failed⟩
      · rcases List.mem_cons.mp here with rfl | before
        · exact .inr ⟨key, List.mem_cons_self, told⟩
        · exact .inl before
      · exact .inr ⟨other, List.mem_cons_of_mem key member, failed⟩

/-- A lookup that lands comes before all that land later. -/
theorem Lands.land {result : β} (lands : Lands tells underway keys results) :
    Lands tells (.ok result :: underway) keys (results.map (result :: ·)) := by
  cases results with
  | ok results =>
      obtain ⟨landed, told, perm⟩ := lands
      exact ⟨landed, told, perm.cons _⟩
  | error fault => exact lands.imp_left (List.mem_cons_of_mem _)

end Lands

variable {width : Nat} {look : Nat → α → StateM σ (Lookup β)}

theorem answer_cons (outcome : Except Fault β) (more : Question (StateM σ) (List β)) (state : σ) :
    answer (do
      let value ← ExceptT.mk (pure outcome)
      return value :: (← more)) state =
      match outcome with
      | .ok value => ((answer more state).1.map (value :: ·), (answer more state).2)
      | .error fault => (.error fault, state) := by
  rw [answer_bind, answer_mk_pure]
  cases outcome with
  | error fault => rfl
  | ok value =>
      change answer (more >>= fun later => pure (value :: later)) state = _
      rw [answer_bind]
      rcases answer more state with ⟨_ | _, _⟩ <;> rfl

section Ensures
variable {fit : σ → Prop} {tells : α → Except Fault β → Prop} {underway : List (Except Fault β)}
  {key : α} {keys : List α}

theorem ensures_begin {action : StateM σ (Lookup β)}
    {next : Lookup β → Question (StateM σ) (List β)}
    (looked : ∀ state, fit state →
      fit (StateT.run action state).2 ∧ tells key (StateT.run action state).1.outcome)
    (rest : ∀ lookup, Ensures fit (Lands tells (lookup.outcome :: underway) keys) (next lookup)) :
    Ensures fit (Lands tells underway (key :: keys)) (ExceptT.lift action >>= next) := by
  intro state sound
  obtain ⟨after, told⟩ := looked state sound
  obtain ⟨last, lands⟩ := rest (StateT.run action state).1 _ after
  rw [answer_bind, answer_lift]
  exact ⟨last, lands.begin told⟩

theorem ensures_land {landing : Except Fault β} {more : Question (StateM σ) (List β)}
    (rest : Ensures fit (Lands tells underway keys) more) :
    Ensures fit (Lands tells (landing :: underway) keys) (do
      let value ← ExceptT.mk (pure landing)
      return value :: (← more)) := by
  intro state sound
  rw [answer_cons]
  cases landing with
  -- A failure that lands ends all; the others under way are forgotten.
  | error fault => exact ⟨sound, .inl List.mem_cons_self⟩
  | ok value =>
      obtain ⟨last, lands⟩ := rest state sound
      exact ⟨last, lands.land⟩

/-- A lookup that begins is under way until it lands, and it lands once. -/
theorem ensures_landings
    (looked : ∀ moment key state, fit state →
      fit (StateT.run (look moment key) state).2 ∧
        tells key (StateT.run (look moment key) state).1.outcome)
    (now : Nat) (underway : List (Lookup β)) (keys : List α) :
    Ensures fit (Lands tells (underway.map Lookup.outcome) keys)
      (landings width look now underway keys) := by
  induction now, underway, keys using landings.induct width with
  | case1 now =>
      rw [landings]
      exact ensures_mk lands_nil
  | case2 now key keys ih =>
      rw [landings]
      exact ensures_begin (looked now key) ih
  | case3 now first rest ih =>
      rw [landings]
      exact ensures_land ih
  | case4 now first rest key keys room ih =>
      rw [landings, if_pos room]
      refine ensures_begin (looked now key) fun lookup => (ih lookup).imp fun _ lands => ?_
      -- Its place in the queue is a matter of order alone.
      exact lands.perm ((perm_enqueue _ _).map Lookup.outcome)
  | case5 now first rest key keys full ih =>
      rw [landings, if_neg full]
      exact ensures_land ih

end Ensures

/-- Each lookup comes to the same whenever it begins: the keys are asked about in their order, up to
the last that begins before a failure lands. -/
def Unfolds (reply : α → Except Fault β) (call : α → γ) (note : σ → γ → σ)
    (underway : List (Except Fault β)) (keys : List α) (question : Question (StateM σ) (List β)) :
    Prop :=
  ∃ reached outcome, reached <+: keys ∧ (∀ results, outcome = .ok results → reached = keys) ∧
    Lands (fun key landed => landed = reply key) underway keys outcome ∧
    Tells note question outcome (reached.map call)

section Unfolds
variable {reply : α → Except Fault β} {call : α → γ} {note : σ → γ → σ}
  {underway other : List (Except Fault β)} {key : α} {keys : List α}
  {more : Question (StateM σ) (List β)}

theorem unfolds_nil : Unfolds reply call note [] [] (pure []) :=
  ⟨[], .ok [], List.prefix_refl [], fun _ _ => rfl, lands_nil, tells_pure note []⟩

theorem Unfolds.perm (unfolds : Unfolds reply call note underway keys more)
    (same : underway.Perm other) : Unfolds reply call note other keys more := by
  obtain ⟨reached, outcome, before, whole, lands, told⟩ := unfolds
  exact ⟨reached, outcome, before, whole, lands.perm same, told⟩

theorem Unfolds.begin {lookup : Lookup β} {action : StateM σ (Lookup β)}
    {next : Lookup β → Question (StateM σ) (List β)}
    (begun : ∀ state, StateT.run action state = (lookup, note state (call key)))
    (own : lookup.outcome = reply key)
    (unfolds : Unfolds reply call note (lookup.outcome :: underway) keys (next lookup)) :
    Unfolds reply call note underway (key :: keys) (ExceptT.lift action >>= next) := by
  obtain ⟨reached, outcome, before, whole, lands, told⟩ := unfolds
  have asked : Tells note (ExceptT.lift action) (.ok lookup) [call key] := by
    intro state
    rw [answer_lift, begun]
    rfl
  refine ⟨key :: reached, outcome, List.cons_prefix_cons.mpr ⟨rfl, before⟩, ?_, lands.begin own,
    asked.bind told⟩
  intro results done
  rw [whole results done]

theorem unfolds_land {landing : Except Fault β}
    (unfolds : Unfolds reply call note underway keys more) :
    Unfolds reply call note (landing :: underway) keys (do
      let value ← ExceptT.mk (pure landing)
      return value :: (← more)) := by
  cases landing with
  | error fault =>
      refine ⟨[], .error fault, List.nil_prefix, ?_, .inl List.mem_cons_self, ?_⟩
      · rintro results ⟨⟩
      · exact (tells_mk note (.error fault)).bind_error _
  | ok value =>
      obtain ⟨reached, outcome, before, whole, lands, told⟩ := unfolds
      refine ⟨reached, outcome.map (value :: ·), before, ?_, lands.land, ?_⟩
      · cases outcome with
        | error fault => rintro results ⟨⟩
        | ok landed => exact fun _ _ => whole landed rfl
      · refine (tells_mk note (.ok value)).bind ?_
        cases outcome with
        | error fault => exact told.bind_error _
        | ok landed => exact told.finish (value :: ·)

/-- However long each lookup takes and however many are under way at once. -/
theorem unfolds_landings {arrives : Nat → α → Nat}
    (looked : ∀ moment key state,
      StateT.run (look moment key) state = (⟨arrives moment key, reply key⟩, note state (call key)))
    (now : Nat) (underway : List (Lookup β)) (keys : List α) :
    Unfolds reply call note (underway.map Lookup.outcome) keys
      (landings width look now underway keys) := by
  induction now, underway, keys using landings.induct width with
  | case1 now =>
      rw [landings]
      exact unfolds_nil
  | case2 now key keys ih =>
      rw [landings]
      exact .begin (looked now key) rfl (ih _)
  | case3 now first rest ih =>
      rw [landings]
      exact unfolds_land ih
  | case4 now first rest key keys room ih =>
      rw [landings, if_pos room]
      exact .begin (looked now key) rfl ((ih _).perm ((perm_enqueue _ _).map Lookup.outcome))
  | case5 now first rest key keys full ih =>
      rw [landings, if_neg full]
      exact unfolds_land ih

end Unfolds

/-- Two are under way at once, and each takes as long as its key says. -/
example : Id.run (landings 2 (fun now (key : Nat) => pure ⟨now + key, .ok key⟩)
    0 [] [3, 1, 4, 1]).run = .ok [1, 3, 1, 4] := by decide +kernel

/-- What may come of lookups of which each comes to the same: the same answers in some order, or
failures of which one lands first. -/
inductive Alike (outcome : α → Except Fault β) (keys : List α) :
    Except Fault (List β) → Except Fault (List β) → Prop
  | answers {results others landed : List β} (told : keys.mapM outcome = .ok landed)
      (perm : results.Perm landed) (perm' : others.Perm landed) :
      Alike outcome keys (.ok results) (.ok others)
  | faults {first second : α} {fault other : Fault} (one : first ∈ keys) (two : second ∈ keys)
      (failed : outcome first = .error fault) (failed' : outcome second = .error other) :
      Alike outcome keys (.error fault) (.error other)

section Alike
variable {outcome : α → Except Fault β} {keys : List α} {looked others : Except Fault (List β)}

theorem alike_of_lands (lands : Lands (fun key landed => landed = outcome key) [] keys looked) :
    Alike outcome keys looked (keys.mapM outcome) := by
  cases looked with
  | ok results =>
      obtain ⟨landed, told, perm⟩ := lands
      have done : keys.mapM outcome = .ok landed := mapM_eq_ok_iff.mpr (told.imp fun _ _ => Eq.symm)
      rw [done]
      exact .answers done ((List.map_perm_map_iff fun _ _ => Except.ok.inj).mp perm) (.refl _)
  | error fault =>
      obtain ⟨first, one, failed⟩ := lands.resolve_left List.not_mem_nil
      cases done : keys.mapM outcome with
      | ok results =>
          obtain ⟨result, told⟩ := exists_of_mapM_eq_ok done one
          rw [← failed] at told
          cases told
      | error other =>
          obtain ⟨second, two, failed'⟩ := exists_of_mapM_eq_error done
          exact .faults one two failed.symm failed'

theorem Alike.symm (alike : Alike outcome keys looked others) :
    Alike outcome keys others looked := by
  cases alike with
  | answers told perm perm' => exact .answers told perm' perm
  | faults one two failed failed' => exact .faults two one failed' failed

/-- Two orders of landing. -/
theorem Alike.trans {third : Except Fault (List β)} (alike : Alike outcome keys looked others)
    (alike' : Alike outcome keys others third) : Alike outcome keys looked third := by
  cases alike with
  | answers told perm _ =>
      cases alike' with
      | answers told' _ perm' =>
          cases told.symm.trans told'
          exact .answers told perm perm'
  | faults one _ failed _ =>
      cases alike' with
      | faults _ two _ failed' => exact .faults one two failed failed'

end Alike

end Lookup

namespace QueryContext
variable {context : QueryContext (StateM σ)} {what : String} {note : σ → γ → σ}

/-- A lookup comes to what the question about its key comes to. -/
theorem run_look_eq (context : QueryContext (StateM σ)) (what : String) (latency : α → Nat)
    (question : α → Question (StateM σ) β) (now : Nat) (key : α) (state : σ) :
    ((StateT.run (context.look what latency question now key) state).1.outcome,
      (StateT.run (context.look what latency question now key) state).2) =
        answer (context.ask what (question key)) state := rfl

theorem ensures_lookups {fit : σ → Prop} {tells : α → Except Fault β → Prop}
    {question : α → Question (StateM σ) β}
    (asked : ∀ key, Ensures fit (tells key) (context.ask what (question key))) (latency : α → Nat)
    (keys : List α) :
    Ensures fit (Lookup.Lands tells [] keys) (context.lookups what latency question keys) :=
  Lookup.ensures_landings (fun now key state sound => by
    have asked := asked key state sound
    rwa [← run_look_eq context what latency question now] at asked) 0 [] keys

/-- If all lookups answer, each key has an answer of the client, and nothing else is answered. -/
theorem forall₂_of_answers_lookups {latency : α → Nat} {question : α → Question (StateM σ) β}
    {keys : List α} {results : List β}
    (answered : Answers (context.lookups what latency question keys) results) :
    ∃ landed, results.Perm landed ∧
      List.Forall₂ (fun key result => Answers (question key) result) keys landed := by
  obtain ⟨state, after, done⟩ := answered
  have asked : ∀ key, Ensures (fun _ => True)
      (fun outcome => ∀ result, outcome = .ok result → Answers (question key) result)
      (context.ask what (question key)) := fun key state _ =>
    ⟨trivial, fun result told => answers_of_ask ⟨state, _, Prod.ext told rfl⟩⟩
  have lands := (ensures_lookups asked latency keys state trivial).2
  rw [done] at lands
  obtain ⟨landed, told, perm⟩ := lands
  refine ⟨landed, ?_, told.imp fun _ result own => own result rfl⟩
  exact (List.map_perm_map_iff fun _ _ => Except.ok.inj).mp perm

/-- Every answer to a lookup is one that the client gives to the question about its key. -/
theorem exists_of_answers_lookups {latency : α → Nat} {question : α → Question (StateM σ) β}
    {keys : List α} {results : List β}
    (answered : Answers (context.lookups what latency question keys) results) {result : β}
    (member : result ∈ results) : ∃ key ∈ keys, Answers (question key) result := by
  obtain ⟨landed, perm, told⟩ := forall₂_of_answers_lookups answered
  exact exists_of_forall₂ told.flip (perm.mem_iff.mp member)

/-- Nothing is waited for before the first attempt. -/
theorem run_look {question : α → Question (StateM σ) β} {reply : α → Except Fault β}
    {call : α → γ} (prompt : ∀ key, Prompt (reply key))
    (told : ∀ key, Tells note (question key) (reply key) [call key]) (latency : α → Nat)
    (moment : Nat) (key : α) (state : σ) :
    StateT.run (context.look what latency question moment key) state =
      (⟨moment + latency key, reply key⟩, note state (call key)) := by
  have run := run_ask_of_prompt (context.notice what) 1
    (max context.settings.retry.maxAttempts.toNat 1 - 1) (prompt key) (told key state)
  rw [look, StateT.run_bind, whileStale, run]
  rfl

theorem unfolds_lookups (context : QueryContext (StateM σ)) (what : String)
    {question : α → Question (StateM σ) β} {reply : α → Except Fault β} {call : α → γ}
    (prompt : ∀ key, Prompt (reply key))
    (told : ∀ key, Tells note (question key) (reply key) [call key]) (latency : α → Nat)
    (keys : List α) :
    Lookup.Unfolds reply call note [] keys (context.lookups what latency question keys) :=
  Lookup.unfolds_landings (run_look prompt told latency) 0 [] keys

end QueryContext

end Passbook
