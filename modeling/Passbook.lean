import Passbook.Main
import Passbook.Pass.Timeline
import Passbook.Proofs.Address
import Passbook.Proofs.Amount
import Passbook.Proofs.Ledger.Algebra
import Passbook.Proofs.Ledger.Json
import Passbook.Proofs.Pass.Accumulation
import Passbook.Proofs.Pass.Convergence
import Passbook.Proofs.Pass.Decoding
import Passbook.Proofs.Pass.Durability
import Passbook.Proofs.Pass.Order
import Passbook.Proofs.Pass.Overlap
import Passbook.Proofs.Pass.Partition
import Passbook.Proofs.Pass.Privacy
import Passbook.Proofs.Pass.Progress
import Passbook.Proofs.Pass.Recovery
import Passbook.Proofs.Pass.Remarks
import Passbook.Proofs.Pass.Schedule
import Passbook.Proofs.Pass.Spelling
import Passbook.Proofs.Pass.Start
import Passbook.Proofs.Query.Faults
import Passbook.Proofs.Query.Patience
import Passbook.Proofs.Query.Streams
import Passbook.Proofs.Query.Transfers
import Passbook.Proofs.Remote.Attempts
import Passbook.Proofs.Remote.Clients
import Passbook.Proofs.Remote.Pages
import Passbook.Proofs.Remote.Versions
import Passbook.Proofs.Session.Routing
import Passbook.Proofs.Store.Normalization
import Passbook.Proofs.Store.Refinement
import Passbook.Proofs.Store.Refusals
import Passbook.Proofs.Store.RoundTrip
import Passbook.Proofs.Store.Wallets
import Passbook.Settings.Json
import Passbook.Store.Overwrite
