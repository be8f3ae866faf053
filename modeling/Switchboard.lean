import Switchboard.Access.Thread
import Switchboard.Backoff
import Switchboard.Main
import Switchboard.Pipeline.Course
import Switchboard.Queue.Traffic
import Switchboard.Route.Thread
import Switchboard.Shutdown.Thread
import Switchboard.Proofs.Roster
import Switchboard.Proofs.Route
import Switchboard.Proofs.Errand
import Switchboard.Proofs.Deed
import Switchboard.Proofs.Act
import Switchboard.Proofs.Custody
import Switchboard.Proofs.Record
import Switchboard.Proofs.Books
import Switchboard.Proofs.Gate
import Switchboard.Proofs.House
import Switchboard.Proofs.Reference
import Switchboard.Proofs.Traffic
import Switchboard.Proofs.Staging
import Switchboard.Proofs.Vetting
import Switchboard.Proofs.Closing
import Switchboard.Proofs.Fifo
import Switchboard.Proofs.Shutdown
import Switchboard.Proofs.Canary
import Switchboard.Proofs.Gatehouse
import Switchboard.Proofs.Bytes
import Switchboard.Proofs.Fields
import Switchboard.Proofs.RequestHead
import Switchboard.Proofs.ReadLimit
import Switchboard.Proofs.Ending
import Switchboard.Proofs.WholeLine
import Switchboard.Proofs.Waking
import Switchboard.Proofs.Answer
import Switchboard.Proofs.Redirect
import Switchboard.Proofs.Drain
import Switchboard.Proofs.Registration
import Switchboard.Proofs.Sharing
import Switchboard.Proofs.Sweeping
import Switchboard.Proofs.Report
import Switchboard.Proofs.Conservation
import Switchboard.Proofs.Serving
import Switchboard.Proofs.Override
import Switchboard.Proofs.Budget
import Switchboard.Proofs.Recall
import Switchboard.Proofs.Stock
import Switchboard.Proofs.Refill
import Switchboard.Proofs.Unwinding
import Switchboard.Proofs.Effort
import Switchboard.Proofs.Backoff
import Switchboard.Proofs.Entrance
import Switchboard.Proofs.Gathering
import Switchboard.Proofs.Sheet
import Switchboard.Proofs.ReadBack
