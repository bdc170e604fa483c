import Passbook.Store
/-!
Writing into single cells of stored rows without any look at what is written, as a tool outside
the library could.
-/

namespace Passbook.Store

inductive Cell where
  | gasPrice (text : String)
  | gasUsed (value : Int64)
  | gasMax (value : Int64)
  | micros (value : Int64)
  | gatewayFee (text : String)
  | sequentialAmount (text : String)
  /-- The amounts of all events. -/
  | eventAmounts (text : String)
  deriving DecidableEq, Repr

namespace Cell

/-- The row with the cell written, and how many places of it were written. -/
def write (row : Row) : Cell → Row × Nat
  | .gasPrice text => ({ row with gasPrice := text }, 1)
  | .gasUsed value => ({ row with gasUsed := value }, 1)
  | .gasMax value => ({ row with gasMax := value }, 1)
  | .micros value => ({ row with micros := value }, 1)
  | .gatewayFee text =>
      match row.body with
      | .block body => ({ row with body := .block { body with gatewayFee := some text } }, 1)
      | .sequential _ => (row, 0)
  | .sequentialAmount text =>
      match row.body with
      | .sequential body => ({ row with body := .sequential { body with amount := text } }, 1)
      | .block _ => (row, 0)
  | .eventAmounts text =>
      match row.body with
      | .block body =>
          let events := body.events.mapValues fun _ event => { event with amount := text }
          ({ row with body := .block { body with events } }, events.size)
      | .sequential _ => (row, 0)

end Cell

def overwrite (store : Store) (identity : Identity) (cell : Cell) : Store × Nat :=
  match store.rows.get? identity with
  | none => (store, 0)
  | some row =>
      let (row, places) := cell.write row
      ({ store with rows := store.rows.insert identity row }, places)

end Passbook.Store
