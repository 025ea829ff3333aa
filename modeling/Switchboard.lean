import Switchboard.Action.Laws
import Switchboard.Cancellation.Session
import Switchboard.Catalog.Demo
import Switchboard.Failure.Json
import Switchboard.Json.Printer
import Switchboard.Json.Reader
import Switchboard.Main
import Switchboard.Outcome.Arithmetic
import Switchboard.Proofs.Catalog.Change
import Switchboard.Proofs.Catalog.ReadSide
import Switchboard.Scenario.Session
import Switchboard.Proofs.Catalog.Decision
import Switchboard.Proofs.Catalog.LastWrite
import Switchboard.Proofs.Broadcast
import Switchboard.Proofs.Catalog.Announcement
import Switchboard.Proofs.Catalog.Atomicity
import Switchboard.Proofs.Attendance
import Switchboard.Proofs.Interruption
import Switchboard.Proofs.Onion
import Switchboard.Proofs.Strategy
import Switchboard.Proofs.Transparency
import Switchboard.Proofs.Unwinding
import Switchboard.Proofs.Correspondence
import Switchboard.Proofs.Lifetimes
import Switchboard.Proofs.Cancellation.Recall
import Switchboard.Proofs.Registered
import Switchboard.Proofs.Railway
import Switchboard.Proofs.Interference
import Switchboard.Proofs.Catalog.Validity
import Switchboard.Proofs.Catalog.Disturbance
import Switchboard.Proofs.Catalog.Search
import Switchboard.Proofs.Expectations
import Switchboard.Proofs.Instrumentation
import Switchboard.Proofs.Suspension
import Switchboard.Proofs.Catalog.Variables
import Switchboard.Proofs.Catalog.Demo
import Switchboard.Proofs.Json.Grammar
import Switchboard.Proofs.Json.Printing
import Switchboard.Proofs.Json.Records
import Switchboard.Proofs.Json.Failures
