import Passbook.Json.Parser
import Passbook.Json.Printer
import Passbook.Logging.Settings
import Passbook.Rehearsal.Play
import Passbook.Sql.Play
import Passbook.Table.Lemmas
import Passbook.Proofs.Outcome
import Passbook.Proofs.Advance
import Passbook.Proofs.AllOrNothing
import Passbook.Proofs.Balance
import Passbook.Proofs.DoubleEntry
import Passbook.Proofs.UserLocks
import Passbook.Proofs.References
import Passbook.Proofs.Sessions
import Passbook.Proofs.Uniqueness
import Passbook.Proofs.Fresh
import Passbook.Proofs.Dispatching
import Passbook.Proofs.Sharing
import Passbook.Proofs.TransferOutcome
import Passbook.Proofs.SignUp
import Passbook.Proofs.Profiles
import Passbook.Proofs.Preconditions
import Passbook.Proofs.Absence
import Passbook.Proofs.Draining
import Passbook.Proofs.Failures
import Passbook.Proofs.Callback
import Passbook.Proofs.Retrying
import Passbook.Proofs.Listing
import Passbook.Proofs.Connections
import Passbook.Proofs.Disposition
import Passbook.Proofs.Adjustments
import Passbook.Proofs.Environment
import Passbook.Proofs.Identifiers
import Passbook.Proofs.Opening
import Passbook.Proofs.RoundTrip
import Passbook.Proofs.RowLocks
import Passbook.Proofs.StableOrder
