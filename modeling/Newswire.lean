import Newswire.Main
import Newswire.Message.Compose
import Newswire.Program.Disk
import Newswire.Proofs.Delivery.Histories
import Newswire.Proofs.Delivery.Records
import Newswire.Proofs.Dispatch.Results
import Newswire.Proofs.Dispatch.Shutdown
import Newswire.Proofs.Event.Encoding
import Newswire.Proofs.Execution
import Newswire.Proofs.Fingerprint.Choosing
import Newswire.Proofs.Fingerprint.Order
import Newswire.Proofs.Fingerprint.Stability
import Newswire.Proofs.Json.Lossless
import Newswire.Proofs.Json.Rereading
import Newswire.Proofs.Lease.Tenure
import Newswire.Proofs.Message.Composing
import Newswire.Proofs.Message.Deriving
import Newswire.Proofs.Message.Emptiness
import Newswire.Proofs.Message.Encoding
import Newswire.Proofs.Message.Images
import Newswire.Proofs.Message.Limiting
import Newswire.Proofs.Message.Printing
import Newswire.Proofs.Message.Tables
import Newswire.Proofs.Outage
import Newswire.Proofs.Pattern.Filling
import Newswire.Proofs.Quota.Agreement
import Newswire.Proofs.Quota.Remaining
import Newswire.Proofs.Quota.Undoing
import Newswire.Proofs.Quota.Windows
import Newswire.Proofs.Rejection.Streaks
import Newswire.Proofs.Rule.Encoding
import Newswire.Proofs.Rule.Polarity
import Newswire.Proofs.Rule.Reviewing
import Newswire.Proofs.Run.Accounts
import Newswire.Proofs.Run.Attempts
import Newswire.Proofs.Run.Counting
import Newswire.Proofs.Run.Disabling
import Newswire.Proofs.Run.Exchange
import Newswire.Proofs.Run.Forgetting
import Newswire.Proofs.Run.Histories
import Newswire.Proofs.Run.Housekeeping
import Newswire.Proofs.Run.Interference
import Newswire.Proofs.Run.Quotas
import Newswire.Proofs.Run.Redelivery
import Newswire.Proofs.Run.Rejections
import Newswire.Proofs.Run.Repeats
import Newswire.Proofs.Run.Reservations
import Newswire.Proofs.Run.Resumption
import Newswire.Proofs.Run.Tours
import Newswire.Proofs.Run.Turns
import Newswire.Proofs.Run.Visits
import Newswire.Quota.Notebook
import Newswire.Rule.Review
