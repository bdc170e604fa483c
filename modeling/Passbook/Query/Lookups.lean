import Passbook.Remote.Retry
/-!
Lookups of many keys, of which only so many are under way at once. A lookup keeps its place until
it lands, while others begin and land around it; so they land in an order that hangs on how long
each of them takes.
-/

namespace Passbook

open Retry (Question)

structure Lookup (β : Type) where
  /-- When it lands. -/
  moment : Nat
  outcome : Except Fault β

namespace Lookup

variable {m : Type → Type} [Monad m] {α β : Type}

/-- Puts a lookup behind all that land no later. -/
def enqueue (lookup : Lookup β) : List (Lookup β) → List (Lookup β)
  | [] => [lookup]
  | first :: rest =>
      if first.moment ≤ lookup.moment then first :: enqueue lookup rest
      else lookup :: first :: rest

theorem perm_enqueue (lookup : Lookup β) (underway : List (Lookup β)) :
    (lookup.enqueue underway).Perm (lookup :: underway) := by
  induction underway with
  | nil => exact .refl _
  | cons first rest ih =>
      unfold enqueue
      split
      · exact (ih.cons first).trans (.swap lookup first rest)
      · exact .refl _

theorem length_enqueue (lookup : Lookup β) (underway : List (Lookup β)) :
    (lookup.enqueue underway).length = underway.length + 1 :=
  (perm_enqueue lookup underway).length_eq

/-- The answers in the order in which they land. A key is looked up as soon as there is a place
for it and nothing lands before; the first failure that lands ends all. -/
def landings (width : Nat) (look : Nat → α → m (Lookup β)) (now : Nat) :
    List (Lookup β) → List α → Question m (List β)
  | [], [] => pure []
  | [], key :: keys => do
      let lookup ← ExceptT.lift (look now key)
      landings width look now [lookup] keys
  | first :: rest, [] => do
      let answer ← ExceptT.mk (pure first.outcome)
      return answer :: (← landings width look first.moment rest [])
  | first :: rest, key :: keys =>
      if now < first.moment ∧ rest.length + 1 < width then do
        let lookup ← ExceptT.lift (look now key)
        landings width look now (lookup.enqueue (first :: rest)) keys
      else do
        let answer ← ExceptT.mk (pure first.outcome)
        return answer :: (← landings width look first.moment rest (key :: keys))
  termination_by underway keys => underway.length + 2 * keys.length
  decreasing_by
    all_goals simp only [length_enqueue, List.length_cons, List.length_nil]
    all_goals omega

end Lookup

end Passbook
