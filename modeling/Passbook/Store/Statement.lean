/-!
The statement that selects the transactions of some addresses from a store. Each value that it
depends on has a mark in it, and a statement of too many marks is refused before a row is read.
-/

namespace Passbook.Statement

/-- The most marks that a statement may have. -/
def limit : Nat := 32766

/-- The marks of a statement about so many addresses: those of the viewer, the ledger and the start,
and each address once as a sender and once as a receiver. -/
def marks (count : Nat) : Nat := 3 + 2 * count

def isAllowed (count : Nat) : Bool := marks count ≤ limit

/-- How many addresses one statement can ask for. -/
def capacity : Nat := (limit - 3) / 2

example : capacity = 16381 := rfl

theorem isAllowed_iff {count : Nat} : isAllowed count = true ↔ count ≤ capacity := by
  rw [isAllowed, decide_eq_true_eq, marks, capacity, limit]
  omega

/-- The statement up to the marks of the senders. -/
def opening : String :=
  "SELECT t.version, t.tx_index, t.gas_price, t.gas_used, t.gas_max, t.status, t.hash,\n" ++
  "        t.timestamp_us, r.message, r.is_refund, a.account_id, a.message, " ++
  "s.public_key, s.gas_currency, s.currency, s.amount, s.sender, s.receiver\n" ++
  "    FROM ledger_transaction t\n" ++
  "    JOIN sequential_transfer s " ++
  "ON s.chain = t.chain AND s.version = t.version AND s.tx_index = t.tx_index\n" ++
  "    LEFT JOIN sender_remark r\n" ++
  "        ON r.chain = t.chain AND r.version = t.version AND r.tx_index = t.tx_index\n" ++
  "    LEFT JOIN account_remark a\n" ++
  "        ON a.chain = t.chain AND a.version = t.version AND a.tx_index = t.tx_index " ++
  "AND a.account_id = ?\n" ++
  "    WHERE t.chain = ? AND t.version >= ? AND (s.sender IN ("

/-- The marks of so many addresses. -/
def places (count : Nat) : String := ", ".intercalate (List.replicate count "?")

def text (count : Nat) : String :=
  opening ++ places count ++ ") OR s.receiver IN (" ++ places count ++
    "))\n    ORDER BY t.version, t.tx_index"

/-- Where in the statement the first mark stands that is one too many. -/
def excess? (count : Nat) : Option Nat :=
  (((text count).toList.zipIdx.filter fun place => place.1 == '?')[limit]?).map Prod.snd

end Passbook.Statement
