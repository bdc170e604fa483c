import Passbook.Store.Row
import Passbook.Text.Folded
/-!
The local store: transactions by identity, the remarks that people made on them, and the wallets
of accounts. A write takes effect as a whole or not at all. Remarks are not part of transactions:
they stay when a transaction is replaced, and may come before it.
-/

namespace Passbook

/-- An account on a ledger. -/
structure Holder where
  account : Int64
  chain : ChainId
  deriving DecidableEq, Repr, Inhabited

namespace Holder

def order : Holder → Holder → Ordering :=
  compareLex (compareOn Holder.account) (compareOn fun holder => holder.chain.name)

instance : Ord Holder := ⟨order⟩

instance : Std.TransOrd Holder := inferInstanceAs (Std.TransCmp (compareLex _ _))

instance : Std.LawfulEqOrd Holder where
  eq_of_compare {first second} same := by
    have ⟨account, chain⟩ := compareLex_eq_eq.mp (show order first second = .eq from same)
    obtain ⟨account₁, ⟨name₁⟩⟩ := first
    obtain ⟨account₂, ⟨name₂⟩⟩ := second
    have account : account₁ = account₂ := Std.LawfulEqCmp.eq_of_compare account
    have chain : name₁ = name₂ := Std.LawfulEqCmp.eq_of_compare chain
    rw [account, chain]

end Holder

abbrev Rows := SortedMap Identity Row

namespace Rows

/-- Numbers are looked at even if the identity is taken, which leaves the row as it is. -/
def addNew (rows : Rows) (tx : Transaction) : Except StoreProblem Rows := do
  let _ ← Column.version.write tx.identity.version
  let gasUsed ← Column.gasUsed.write tx.gas.used
  let gasMax ← Column.gasMax.write tx.gas.max
  if rows.contains tx.identity then return rows
  else
    let body ← RowBody.ofTransaction tx
    return rows.insert tx.identity {
      gasPrice := toString tx.gas.price
      gasUsed, gasMax, body
      status := tx.status
      hash := tx.hash
      micros := Int64.ofInt tx.timestamp.micros }

/-- All versions are looked at before any other number. -/
def drop (rows : Rows) (batch : List Transaction) : Except StoreProblem Rows := do
  batch.forM fun tx => discard (Column.version.write tx.identity.version)
  return rows.filter fun identity _ => !(batch.map Transaction.identity).contains identity

end Rows

structure Store where
  rows : Rows := .empty
  senderRemarks : SortedMap Identity SenderRemark := .empty
  /-- The remarks of each account. -/
  accountRemarks : SortedMap Int64 (SortedMap Identity String) := .empty
  /-- The wallets of each holder, in the spelling in which they came first. -/
  wallets : SortedMap Holder (SortedMap Text.Folded String) := .empty
  deriving DecidableEq, Inhabited

namespace Store

def empty : Store := {}

instance : EmptyCollection Store := ⟨empty⟩

/-- Adds what is not stored yet. -/
def addNew (store : Store) (batch : List Transaction) : Except StoreProblem Store := do
  return { store with rows := ← batch.foldlM Rows.addNew store.rows }

/-- Of several copies in the batch the first is stored. -/
def replace (store : Store) (batch : List Transaction) : Except StoreProblem Store := do
  return { store with rows := ← batch.foldlM Rows.addNew (← store.rows.drop batch) }

def remark (store : Store) (identity : Identity) (remark : SenderRemark) :
    Except StoreProblem Store := do
  let _ ← Column.version.write identity.version
  return { store with senderRemarks := store.senderRemarks.insert identity remark }

def remarksOf (store : Store) (account : Int64) : SortedMap Identity String :=
  (store.accountRemarks.get? account).getD .empty

def withNote (store : Store) (identity : Identity) (remark : AccountRemark) : Store :=
  let remarks := (store.remarksOf remark.account).insert identity remark.message
  { store with accountRemarks := store.accountRemarks.insert remark.account remarks }

def note (store : Store) (identity : Identity) (remark : AccountRemark) :
    Except StoreProblem Store := do
  let _ ← Column.version.write identity.version
  return store.withNote identity remark

def walletsOf (store : Store) (holder : Holder) : SortedMap Text.Folded String :=
  (store.wallets.get? holder).getD .empty

def link (store : Store) (holder : Holder) (address : String) : Store :=
  let wallets := (store.walletsOf holder).insertIfNew (Text.folded address) address
  { store with wallets := store.wallets.insert holder wallets }

def addressesOf (store : Store) (holder : Holder) : List String :=
  (store.walletsOf holder).values

/-- What is noted on an identity, as a viewer sees it. -/
def annotations (store : Store) (viewer : Option Int64) (identity : Identity) : Annotations :=
  { sender := store.senderRemarks.get? identity
    account := viewer.bind fun account =>
      ((store.remarksOf account).get? identity).map (AccountRemark.mk account) }

/-- Rows of sequential transactions are read before those of block transactions. -/
def read (store : Store) (viewer : Option Int64) (rows : Rows) :
    Except StoreProblem TransactionMap := do
  let ofKind (kind : LedgerKind) := rows.entries.filter fun entry => entry.2.body.kind == kind
  let found ← (ofKind .sequential ++ ofKind .block).mapM fun entry =>
    entry.2.transaction entry.1 (store.annotations viewer entry.1)
  return TransactionMap.ofTransactions found

/-- A position as far as rows can have it. -/
def clamped (start : UInt64) : UInt64 := min start (UInt64.ofNat (Word.limit - 1))

def involves (row : Row) (addresses : List String) : Bool :=
  let wanted := addresses.map Text.folded
  row.body.parties.any fun party => wanted.contains (Text.folded party)

/-- The transactions of a ledger from a position on in which one of the addresses takes part. If
there are too many addresses for one statement nothing is read. -/
def snapshot (store : Store) (chain : ChainId) (addresses : List String) (start : UInt64)
    (viewer : Option Int64) : Except StoreProblem TransactionMap :=
  if Statement.isAllowed addresses.length then
    store.read viewer (store.rows.filter fun identity row =>
      identity.chain == chain && clamped start ≤ identity.version && involves row addresses)
  else .error (.tooManyMarks addresses.length)

def transaction? (store : Store) (identity : Identity) (viewer : Option Int64) :
    Except StoreProblem (Option Transaction) := do
  let _ ← Column.version.write identity.version
  match store.rows.get? identity with
  | none => return none
  | some row => return some (← row.transaction identity (store.annotations viewer identity))

end Store

end Passbook
