import Mathlib.Data.List.Destutter
import Passbook.Proofs.Pass.Course
/-!
What observers see of a pass, whatever is done to its tracker. They see the stages of the road one
after another, up to its end or up to a failure on the way. A tracker goes on counting at any time;
what it has counted shows with the next move that is in order, and nothing shows without one.
-/

namespace Passbook.Pass

namespace Stage

/-- A pass that is not done goes to the stage after its own on the road, or it fails. -/
def InOrder (stage target : Stage) : Prop :=
  stage.isDone = false ∧ (target = .done .failed ∨ [stage, target] <:+: road)

theorem next?_eq_some_iff {stage target : Stage} :
    stage.next? = some target ↔ [stage, target] <:+: road := by
  -- There are seven stages: the road and a failure.
  rcases stage with _ | _ | _ | _ | _ | (_ | _) <;>
    rcases target with _ | _ | _ | _ | _ | (_ | _) <;> decide

theorem canAdvance_iff {stage target : Stage} :
    stage.canAdvance target = true ↔ stage.InOrder target := by
  simp [canAdvance, InOrder, next?_eq_some_iff]

theorem InOrder.ne {stage target : Stage} (order : stage.InOrder target) : stage ≠ target := by
  rintro rfl
  obtain ⟨live, rfl | onward⟩ := order
  · cases live
  · exact absurd (next?_eq_some_iff.mpr onward) (by cases stage <;> simp [next?])

/-- Stages as a pass comes to them: a part of the way, from its start, or such a part that is not
the whole of it and then a failure. -/
def Travelled (way stages : List Stage) : Prop :=
  stages <+: way ∨ ∃ passed, passed ≠ [] ∧ passed <+: way ∧
    (∀ stage ∈ passed, stage.isDone = false) ∧ stages = passed ++ [.done .failed]

theorem Travelled.cons {stage : Stage} {way stages : List Stage} (live : stage.isDone = false)
    (travelled : Travelled way stages) : Travelled (stage :: way) (stage :: stages) := by
  rcases travelled with part | ⟨passed, -, part, running, rfl⟩
  · exact .inl (List.cons_prefix_cons.mpr ⟨rfl, part⟩)
  · refine .inr ⟨stage :: passed, List.cons_ne_nil _ _, List.cons_prefix_cons.mpr ⟨rfl, part⟩, ?_,
      rfl⟩
    exact List.forall_mem_cons.mpr ⟨live, running⟩

theorem next?_of_suffix {stage : Stage} {ahead : List Stage} (placed : stage :: ahead <:+ road) :
    stage.next? = ahead.head? := by
  simp only [road, List.suffix_cons_iff, List.cons.injEq] at placed
  rcases placed with ⟨rfl, rfl⟩ | ⟨rfl, rfl⟩ | ⟨rfl, rfl⟩ | ⟨rfl, rfl⟩ | ⟨rfl, rfl⟩ | ⟨rfl, rfl⟩ |
    off
  case inr.inr.inr.inr.inr.inr => cases List.suffix_nil.mp off
  all_goals rfl

theorem travelled_of_isChain {stage : Stage} {ahead rest : List Stage}
    (placed : stage :: ahead <:+ road) (chain : (stage :: rest).IsChain InOrder) :
    Travelled (stage :: ahead) (stage :: rest) := by
  induction rest generalizing stage ahead with
  | nil => exact .inl (List.prefix_append [stage] ahead)
  | cons next rest ih =>
      obtain ⟨⟨live, rfl | onward⟩, chain⟩ := List.isChain_cons_cons.mp chain
      · cases rest with
        | nil =>
            exact .inr ⟨[stage], List.cons_ne_nil _ _, List.prefix_append [stage] ahead,
              List.forall_mem_singleton.mpr live, rfl⟩
        | cons after rest =>
            have running := (List.isChain_cons_cons.mp chain).1.1
            cases running
      · rw [← next?_eq_some_iff, next?_of_suffix placed] at onward
        obtain ⟨further, rfl⟩ := List.head?_eq_some_iff.mp onward
        exact (ih ((List.suffix_cons _ _).trans placed) chain).cons live

end Stage

namespace Record

def localCount? : Record → Option Nat
  | .localLoaded count => some count
  | _ => none

def remoteCount? : Record → Option Nat
  | .remoteLoaded count => some count
  | _ => none

end Record

namespace Stats

/-- What a list of records comes to: of counts the last one counts, identities stand in the order in
which they were recorded, and what is unchanged is numbered. -/
def counted (addresses : Nat) (entries : List Record) : Stats where
  addresses
  localCount := (entries.filterMap Record.localCount?).getLast?.getD 0
  remoteCount := (entries.filterMap Record.remoteCount?).getLast?.getD 0
  stored := entries.filterMap Record.stored?
  replaced := entries.filterMap Record.replaced?
  unchanged := entries.count .unchanged

theorem counted_concat (addresses : Nat) (entries : List Record) (entry : Record) :
    counted addresses (entries ++ [entry]) = (counted addresses entries).add entry := by
  cases entry <;>
    simp [counted, add, Record.localCount?, Record.remoteCount?, Record.stored?, Record.replaced?]

theorem foldl_add_eq_counted (addresses : Nat) (entries : List Record) :
    entries.foldl add { addresses } = counted addresses entries := by
  induction entries using List.reverseRecOn with
  | nil => rfl
  | append_singleton before entry ih => rw [List.foldl_concat, ih, counted_concat]

end Stats

namespace Tracker

/-- What may be done to a tracker. -/
inductive Action where
  | advance (target : Stage)
  | fail
  | succeed
  | record (entry : Record)
  deriving DecidableEq, Repr

namespace Action

def apply (tracker : Tracker) : Action → Tracker
  | .advance target => tracker.advance target
  | .fail => tracker.fail
  | .succeed => tracker.succeed
  | .record entry => tracker.record entry

/-- The stage to which an action is to bring a pass. -/
def target? : Action → Option Stage
  | .advance target => some target
  | .fail => some (.done .failed)
  | .succeed => some (.done .success)
  | .record _ => none

def entry? : Action → Option Record
  | .record entry => some entry
  | _ => none

/-- All that is recorded, in order. -/
def entries (actions : List Action) : List Record := actions.filterMap entry?

/-- A pass at this stage is brought to that one, as is in order. -/
def Brings (action : Action) (stage target : Stage) : Prop :=
  action.target? = some target ∧ stage.InOrder target

theorem apply_of_target? {action : Action} {target : Stage} (aim : action.target? = some target)
    (tracker : Tracker) : action.apply tracker = tracker.advance target := by
  cases action with
  | record entry => cases aim
  | _ => cases aim; rfl

theorem exists_entry {action : Action} (aimless : action.target? = none) :
    ∃ entry, action = .record entry := by
  cases action with
  | record entry => exact ⟨entry, rfl⟩
  | _ => cases aimless

theorem apply_of_brings {action : Action} {tracker : Tracker} {target : Stage}
    (brings : action.Brings tracker.stage target) : action.apply tracker =
      { tracker with stage := target, published := ⟨target, tracker.stats⟩ } := by
  rw [apply_of_target? brings.1, Tracker.advance, if_pos (Stage.canAdvance_iff.mpr brings.2)]

/-- An action that is no move in order can only count. -/
theorem apply_of_idle {action : Action} {tracker : Tracker}
    (idle : ∀ target, ¬ action.Brings tracker.stage target) :
    ∃ stats, action.apply tracker = { tracker with stats } := by
  cases aim : action.target? with
  | none =>
      obtain ⟨entry, rfl⟩ := exists_entry aim
      exact ⟨tracker.stats.add entry, rfl⟩
  | some target =>
      have barred : ¬ tracker.stage.InOrder target := fun order => idle target ⟨aim, order⟩
      refine ⟨tracker.stats, ?_⟩
      rw [apply_of_target? aim, Tracker.advance, if_neg (mt Stage.canAdvance_iff.mp barred)]

theorem stats_apply (action : Action) (tracker : Tracker) :
    (action.apply tracker).stats = action.entry?.toList.foldl Stats.add tracker.stats := by
  cases action with
  | record entry => rfl
  | _ => exact stats_advance tracker _

end Action

def run (tracker : Tracker) (actions : List Action) : Tracker := actions.foldl Action.apply tracker

/-- What comes of a tracker of a pass over so many addresses. -/
def after (addresses : Nat) (actions : List Action) : Tracker := (start addresses).run actions

/-- None of the actions is a move in order when it comes. -/
def Stays : Tracker → List Action → Prop
  | _, [] => True
  | tracker, action :: rest =>
      (∀ target, ¬ action.Brings tracker.stage target) ∧ (action.apply tracker).Stays rest

/-- Right behind the actions `before` stands the last move in order, which leads to `target`. -/
def LastMove (tracker : Tracker) (actions before : List Action) (target : Stage) : Prop :=
  ∃ action rest, actions = before ++ action :: rest ∧
    action.Brings (tracker.run before).stage target ∧
    (action.apply (tracker.run before)).Stays rest

/-- What observers find at the start and after each action. -/
def found (tracker : Tracker) (actions : List Action) : List Progress :=
  (actions.scanl Action.apply tracker).map published

/-- What observers see, one after another: what they find again is not told again. -/
def shown (tracker : Tracker) (actions : List Action) : List Progress :=
  (tracker.found actions).destutter (· ≠ ·)

section Run
variable {tracker : Tracker} {actions : List Action}

theorem run_append (tracker : Tracker) (first second : List Action) :
    tracker.run (first ++ second) = (tracker.run first).run second :=
  List.foldl_append

theorem stats_run (tracker : Tracker) (actions : List Action) :
    (tracker.run actions).stats = (Action.entries actions).foldl Stats.add tracker.stats := by
  induction actions generalizing tracker with
  | nil => rfl
  | cons action rest ih =>
      rw [run, List.foldl_cons, ← run, ih, Action.stats_apply, ← List.foldl_append]
      cases recorded : action.entry? <;> simp [Action.entries, recorded]

theorem stats_after (addresses : Nat) (actions : List Action) :
    (after addresses actions).stats = .counted addresses (Action.entries actions) := by
  rw [after, stats_run, ← Stats.foldl_add_eq_counted]
  rfl

/-- Without a move in order a tracker only counts. -/
theorem run_of_stays (stays : tracker.Stays actions) :
    ∃ stats, tracker.run actions = { tracker with stats } := by
  induction actions generalizing tracker with
  | nil => exact ⟨tracker.stats, rfl⟩
  | cons action rest ih =>
      obtain ⟨idle, stays⟩ := stays
      obtain ⟨stats, counted⟩ := Action.apply_of_idle idle
      obtain ⟨later, reached⟩ := ih stays
      refine ⟨later, ?_⟩
      rw [run, List.foldl_cons, ← run, reached, counted]

theorem stays_of_isDone (done : tracker.stage.isDone = true) (actions : List Action) :
    tracker.Stays actions := by
  induction actions generalizing tracker with
  | nil => trivial
  | cons action rest ih =>
      have idle (target : Stage) : ¬ action.Brings tracker.stage target := by
        rintro ⟨-, live, -⟩
        rw [done] at live
        cases live
      obtain ⟨stats, counted⟩ := Action.apply_of_idle idle
      refine ⟨idle, ih ?_⟩
      rw [counted]
      exact done

/-- A run has a last move in order, unless it has none at all. -/
theorem stays_or_exists_lastMove (tracker : Tracker) (actions : List Action) :
    tracker.Stays actions ∨ ∃ before target, tracker.LastMove actions before target := by
  induction actions generalizing tracker with
  | nil => exact .inl trivial
  | cons action rest ih =>
      rcases ih (action.apply tracker) with stays | ⟨before, target, last, others, rfl, moved⟩
      · by_cases moves : ∃ target, action.Brings tracker.stage target
        · obtain ⟨target, brings⟩ := moves
          exact .inr ⟨[], target, action, rest, rfl, brings, stays⟩
        · exact .inl ⟨not_exists.mp moves, stays⟩
      · exact .inr ⟨action :: before, target, last, others, rfl, moved⟩

/-- The last move in order shows what was counted before it. -/
theorem run_of_lastMove {before : List Action} {target : Stage}
    (last : tracker.LastMove actions before target) : ∃ stats, tracker.run actions =
      { stage := target, stats, published := ⟨target, (tracker.run before).stats⟩ } := by
  obtain ⟨action, rest, rfl, brings, stays⟩ := last
  obtain ⟨stats, counted⟩ := run_of_stays stays
  refine ⟨stats, ?_⟩
  rw [run_append, run, List.foldl_cons, ← run, counted, Action.apply_of_brings brings]

theorem at_after (addresses : Nat) (actions : List Action) :
    ∃ stage, (after addresses actions).At stage := by
  rcases stays_or_exists_lastMove (start addresses) actions with stays | ⟨before, target, last⟩
  · obtain ⟨stats, counted⟩ := run_of_stays stays
    rw [after, counted]
    exact ⟨.idle, rfl, rfl⟩
  · obtain ⟨stats, moved⟩ := run_of_lastMove last
    rw [after, moved]
    exact ⟨target, rfl, rfl⟩

end Run

section Shown
variable {tracker : Tracker} {action : Action} {actions : List Action}

theorem exists_found (tracker : Tracker) (actions : List Action) :
    ∃ later, tracker.found actions = tracker.published :: later := by
  cases actions with
  | nil => exact ⟨[], rfl⟩
  | cons action rest => exact ⟨_, congrArg _ List.scanl_cons⟩

theorem found_cons : tracker.found (action :: actions) =
    tracker.published :: (action.apply tracker).found actions := by
  rw [found, List.scanl_cons, List.map_cons, found]

theorem shown_cons_of_ne (fresh : tracker.published ≠ (action.apply tracker).published) :
    tracker.shown (action :: actions) =
      tracker.published :: (action.apply tracker).shown actions := by
  obtain ⟨later, begun⟩ := exists_found (action.apply tracker) actions
  rw [shown, found_cons, shown, begun, List.destutter_cons_cons, if_pos fresh,
    List.destutter_cons']

theorem shown_cons_of_eq (same : tracker.published = (action.apply tracker).published) :
    tracker.shown (action :: actions) = (action.apply tracker).shown actions := by
  obtain ⟨later, begun⟩ := exists_found (action.apply tracker) actions
  rw [shown, found_cons, shown, begun, List.destutter_cons_cons, if_neg (not_not.mpr same), same,
    List.destutter_cons']

theorem at_of_brings {target : Stage} (brings : action.Brings tracker.stage target) :
    (action.apply tracker).At target := by
  rw [Action.apply_of_brings brings]
  exact ⟨rfl, rfl⟩

theorem published_of_idle (idle : ∀ target, ¬ action.Brings tracker.stage target) :
    tracker.published = (action.apply tracker).published := by
  obtain ⟨stats, counted⟩ := Action.apply_of_idle idle
  rw [counted]

theorem At.of_idle {stage : Stage} (here : tracker.At stage)
    (idle : ∀ target, ¬ action.Brings tracker.stage target) : (action.apply tracker).At stage := by
  obtain ⟨stats, counted⟩ := Action.apply_of_idle idle
  rw [counted]
  exact ⟨here.reached, here.shown⟩

/-- Observers see nothing but moves in order. -/
theorem isChain_shown {stage : Stage} (here : tracker.At stage) (actions : List Action) :
    ∃ later, (tracker.shown actions).map Progress.stage = stage :: later ∧
      (stage :: later).IsChain Stage.InOrder := by
  induction actions generalizing tracker stage with
  | nil => exact ⟨[], congrArg (fun seen => [seen]) here.shown, List.isChain_singleton _⟩
  | cons action rest ih =>
      by_cases moves : ∃ target, action.Brings tracker.stage target
      · obtain ⟨target, brings⟩ := moves
        have there := at_of_brings brings
        have order : stage.InOrder target := here.reached ▸ brings.2
        -- A move in order changes the stage, so it is not taken for a repetition.
        have fresh : tracker.published ≠ (action.apply tracker).published := by
          intro same
          apply order.ne
          rw [← here.shown, same, there.shown]
        obtain ⟨later, stages, chain⟩ := ih there
        refine ⟨target :: later, ?_, List.isChain_cons_cons.mpr ⟨order, chain⟩⟩
        rw [shown_cons_of_ne fresh, List.map_cons, stages, here.shown]
      · have idle := not_exists.mp moves
        rw [shown_cons_of_eq (published_of_idle idle)]
        exact ih (here.of_idle idle)

theorem travelled_shown (addresses : Nat) (actions : List Action) :
    Stage.Travelled Stage.road (((start addresses).shown actions).map Progress.stage) := by
  obtain ⟨later, stages, chain⟩ := isChain_shown (at_start addresses) actions
  rw [stages]
  exact Stage.travelled_of_isChain (List.suffix_refl _) chain

end Shown

/-- Whatever is done to a tracker, observers see the stages of the road, up to where the pass is or
to a failure on the way, and where they see it there it is. What they see counted is what was
recorded before the last move that was in order, and only that. It shows neither what is recorded
later nor a move out of order, and after the end of the pass they never see anything else. -/
theorem progress_exact (addresses : Nat) (actions : List Action) :
    Stage.Travelled Stage.road (((start addresses).shown actions).map Progress.stage) ∧
    (after addresses actions).published.stage = (after addresses actions).stage ∧
    ((∃ before target, (start addresses).LastMove actions before target ∧
        (after addresses actions).published =
          ⟨target, .counted addresses (Action.entries before)⟩) ∨
      (start addresses).Stays actions ∧
        (after addresses actions).published = ⟨.idle, .counted addresses []⟩) ∧
    (∀ more, (after addresses actions).Stays more →
      (after addresses (actions ++ more)).published = (after addresses actions).published) ∧
    ((after addresses actions).stage.isDone = true → ∀ more,
      (after addresses (actions ++ more)).published = (after addresses actions).published) := by
  have kept (more : List Action) (stays : (after addresses actions).Stays more) :
      (after addresses (actions ++ more)).published = (after addresses actions).published := by
    obtain ⟨stats, counted⟩ := run_of_stays stays
    rw [after, run_append, ← after, counted]
  refine ⟨travelled_shown addresses actions, ?_, ?_, kept, ?_⟩
  · obtain ⟨stage, here⟩ := at_after addresses actions
    exact here.shown.trans here.reached.symm
  · rcases stays_or_exists_lastMove (start addresses) actions with stays | ⟨before, target, last⟩
    · obtain ⟨stats, counted⟩ := run_of_stays stays
      refine .inr ⟨stays, ?_⟩
      rw [after, counted]
      rfl
    · obtain ⟨stats, moved⟩ := run_of_lastMove last
      refine .inl ⟨before, target, last, ?_⟩
      rw [after, moved, ← after, stats_after]
  · intro done more
    exact kept more (stays_of_isDone done more)

/-- A tracker that counts out of turn, is moved out of order, fails and is not left alone then. -/
theorem progress_exact_sample :
    let identity : Identity := ⟨⟨"diem"⟩, 4, 0⟩
    let opened : List Action :=
      [.record (.stored identity), .advance .merged, .advance .localLoaded]
    let pending : List Action := [.record (.remoteLoaded 3), .succeed]
    let failed : List Action := opened ++ pending ++ [.record (.remoteLoaded 5), .fail]
    let others : List Action := [.record .unchanged, .advance .fetching, .fail]
    ((start 2).shown (failed ++ others)).map Progress.stage =
        [.idle, .localLoaded, .done .failed] ∧
      (after 2 opened).published = ⟨.localLoaded, { addresses := 2, stored := [identity] }⟩ ∧
      (after 2 (opened ++ pending)).published = (after 2 opened).published ∧
      (after 2 failed).published =
        ⟨.done .failed, { addresses := 2, remoteCount := 5, stored := [identity] }⟩ ∧
      (after 2 (failed ++ others)).published = (after 2 failed).published := by
  intro identity opened pending failed others
  have stays : (after 2 opened).Stays pending := by
    refine ⟨?_, ?_, trivial⟩
    · rintro target ⟨reached, -⟩
      cases reached
    · rintro target ⟨reached, order⟩
      cases reached
      exact absurd (Stage.canAdvance_iff.mpr order) (by decide)
  have done : (after 2 failed).stage.isDone = true := by decide
  exact ⟨by decide, by decide, (progress_exact 2 opened).2.2.2.1 pending stays, by decide,
    (progress_exact 2 failed).2.2.2.2 done others⟩

end Tracker

end Passbook.Pass
