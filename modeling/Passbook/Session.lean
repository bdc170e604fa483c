import Passbook.Session.Questions
/-!
One run of the program: every configured ledger is reconciled in turn for those of the given
addresses that are addresses of its kind, and what happens is told line by line.
-/

namespace Passbook

namespace Session

variable {m : Type → Type} [Monad m]

/-- A store that is only read refuses to write anything. -/
def outage (place : StorePlace) (pass : Pass) : Pass.Outage := fun call =>
  let isWriting := match call, pass.phase with
    | .addNew, .adding (_ :: _) _ => true
    | .replace, .replacing (_ :: _) => true
    | _, _ => false
  if place.isReadOnly && isWriting then some .readOnly else none

/-- Reads and shows what is known. -/
def loadPass (around : Surroundings m) (store : Store) (opened : Pass) : m Pass := do
  let (_, loaded) := Pass.step .none store opened .load
  tellFailure around opened loaded
  loaded.updates.head?.forM fun update => tellLoaded around loaded.request update.view
  let moves := Pass.Stage.moves opened.tracker.stage loaded.tracker.stage
  tellMoves around (moves.take 1)
  loaded.updates.forM (tellUpdate around loaded.request.ledger)
  tellMoves around (moves.drop 1)
  return loaded

/-- Merges what the queries come to with what is known. -/
def hearPass (around : Surroundings m) (loaded : Pass) (arrivals : List Pass.Arrival) :
    m Pass := do
  let (_, answered) := Pass.runSteps .none .empty loaded (arrivals.map .receive)
  tellFailure around loaded answered
  match answered.phase, loaded.updates with
  | .adding _ revised, [update] =>
      tellRevised around loaded.request.ledger update.view revised
  | _, _ => pure ()
  tellMoves around (Pass.Stage.moves loaded.tracker.stage answered.tracker.stage)
  return answered

/-- Asks the remote ledger for the addresses of a pass, if it is open. -/
def answerPass (around : Surroundings m) (settings : Settings) (url : String) (loaded : Pass) :
    m Pass := do
  let request := loaded.request
  match Pass.canonicalAddresses request.ledger.kind request.addresses, loaded.problems with
  | .ok canonical, [] =>
      hearPass around loaded (← arrivals around settings request.ledger url canonical)
  | _, _ => hearPass around loaded []

/-- Writes what is new and revised. -/
def writePass (around : Surroundings m) (place : StorePlace) (store : Store) (answered : Pass) :
    m (Store × Pass) := do
  let added := Pass.step (outage place answered) store answered .add
  let replaced := Pass.step (outage place added.2) added.1 added.2 .replace
  around.keepStore place replaced.1
  tellWritten around (store, answered) added
  tellWritten around added replaced
  tellFailure around answered replaced.2
  tellMoves around (Pass.Stage.moves answered.tracker.stage replaced.2.tracker.stage)
  return replaced

/-- A pass after its last step, the store it leaves, and the views that are yet to be shown. -/
structure Conclusion where
  store : Store
  pass : Pass
  unshown : List Pass.Update

/-- All steps of a pass. The merged view is shown before it is written if there is anything to
write. -/
def conduct (around : Surroundings m) (settings : Settings) (place : StorePlace)
    (request : Pass.Request) (url : String) (store : Store) : m Conclusion := do
  let loaded ← loadPass around store { request }
  let answered ← answerPass around settings url loaded
  let merged := answered.updates.drop loaded.updates.length
  let isToWrite := answered.phase != .adding [] []
  (if isToWrite then merged else []).forM (tellUpdate around request.ledger)
  let (after, pass) ← writePass around place store answered
  return ⟨after, pass, if isToWrite then [] else merged⟩

/-- One pass, and how it ended. -/
def reconcile (around : Surroundings m) (settings : Settings) (place : StorePlace)
    (request : Pass.Request) (url : String) (store : Store) : m Conclusion := do
  let name := request.ledger.chain.name
  report around .pass .info ("Reconciling " ++ toString request.addresses.length ++
    " addresses on " ++ name ++ " from " ++ toString request.start.toNat)
  let begun ← around.nanos
  let conclusion ← conduct around settings place request url store
  let ended := conclusion.pass.tracker.published
  let summary := ended.stats.summary (.ofNanos ((← around.nanos) - begun))
  let finished := if ended.stage = .done .success then
    ["Reconciliation pass finished: " ++ summary] else []
  finished.forM (report around .progress .info)
  conclusion.unshown.forM (tellUpdate around request.ledger)
  conclusion.pass.problems.forM fun problem =>
    report around .program .error (name ++ ": " ++ problem.message)
  report around .program .info (name ++ ": " ++ ended.stage.name ++ " " ++ summary)
  return conclusion

/-- The configured ledgers, the sequential one first. -/
def ledgers (settings : Settings) : List (Ledger × String) :=
  let of (kind : LedgerKind) (endpoint : Endpoint) : Ledger × String :=
    (⟨kind, ⟨endpoint.chain⟩⟩, endpoint.url)
  (settings.sequential.map (of .sequential)).toList ++ (settings.block.map (of .block)).toList

/-- The addresses that a kind of ledger can have. -/
def owned (kind : LedgerKind) (addresses : List String) : List String :=
  addresses.filter (Address.isValid kind)

/-- What a ledger is asked for, if it can have any of the addresses. -/
def request? (settings : Settings) (addresses : List String) (ledger : Ledger) :
    Option Pass.Request :=
  match owned ledger.kind addresses with
  | [] => none
  | mine => some { ledger, addresses := mine, start := settings.start }

/-- The passes over ledgers in turn, each from the store that the last one left. -/
def visit (around : Surroundings m) (settings : Settings) (place : StorePlace)
    (addresses : List String) : Store → List (Ledger × String) → m (List Conclusion)
  | _, [] => return []
  | store, (ledger, url) :: rest =>
      match request? settings addresses ledger with
      | none => visit around settings place addresses store rest
      | some request => do
          let conclusion ← reconcile around settings place request url store
          return conclusion :: (← visit around settings place addresses conclusion.store rest)

/-- A store that could only be empty and cannot be written is none, nor is one without a name. -/
def openStore (around : Surroundings m) (place : StorePlace) : m (Except StoreProblem Store) :=
  match place.file with
  | none => return if place.isReadOnly then .error .readOnly else .ok .empty
  | some file =>
      if file.isNamed then around.openStore place else return .error (.cannotOpen place.text)

def visitAll (around : Surroundings m) (settings : Settings) (place : StorePlace)
    (addresses : List String) (store : Store) : m (List Conclusion) := do
  let targets := ledgers settings
  targets.forM fun target =>
    report around .program .info ("Reconciling " ++ target.1.kind.name ++ " ledger " ++
      target.1.chain.name ++ " via " ++ target.2)
  if targets.isEmpty then
    report around .program .warn
      "No chain configured. Set SEQUENTIAL_RPC_URL or BLOCK_EXPLORER_URL"
  visit around settings place addresses store targets

/-- How a run ended, and its passes. -/
structure Ended where
  code : UInt8
  passes : List Conclusion

/-- A pass that fails is told of, but fails nothing else. -/
def runPasses (around : Surroundings m) (settings : Settings) (addresses : List String) :
    m Ended := do
  let around := filtered around settings.log
  if addresses.isEmpty then
    report around .program .warn "No addresses given. Usage: wallet-ledger-sync <address>..."
    return ⟨0, []⟩
  report around .store .info ("Opening ledger store at " ++ settings.storePath)
  let fail (problem : StoreProblem) : m Ended := do
    report around .program .error ("Ledger sync failed: " ++ problem.message)
    return ⟨1, []⟩
  match StorePlace.ofText settings.storePath with
  | .error problem => fail problem
  | .ok place =>
      match ← openStore around place with
      | .error problem => fail problem
      | .ok store => return ⟨0, ← visitAll around settings place addresses store⟩

/-- The exit code. -/
def run (around : Surroundings m) (settings : Settings) (addresses : List String) : m UInt8 :=
  Ended.code <$> runPasses around settings addresses

end Session

end Passbook
