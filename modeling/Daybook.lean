import Daybook.Main
import Daybook.Program.Migrator
import Daybook.Program.Seeder
import Daybook.Proofs.Booking.Agreement
import Daybook.Proofs.Booking.AllOrNothing
import Daybook.Proofs.Booking.Balances
import Daybook.Proofs.Booking.Checking
import Daybook.Proofs.Booking.Convergence
import Daybook.Proofs.Booking.Linearization
import Daybook.Proofs.Booking.Refusals
import Daybook.Proofs.Entry.Balanced
import Daybook.Proofs.Entry.Total
import Daybook.Proofs.Json.RoundTrip
import Daybook.Proofs.Money.Nearest
import Daybook.Proofs.Money.Parse
import Daybook.Proofs.Money.Printed
import Daybook.Proofs.Operation.Marks
import Daybook.Proofs.Reconciliation.Analysis
import Daybook.Proofs.Reconciliation.Comparison
import Daybook.Proofs.Reconciliation.Newest
import Daybook.Proofs.Reconciliation.Overview
import Daybook.Proofs.Reference.Canonical
import Daybook.Proofs.Session.History
import Daybook.Proofs.Session.Lifecycle
import Daybook.Proofs.Session.References
import Daybook.Proofs.Simulation.Counts
import Daybook.Proofs.Simulation.Shuffles
import Daybook.Proofs.Stores.Agreement
import Daybook.Proofs.Stores.Journal
import Daybook.Proofs.Stores.Moments
import Daybook.Proofs.Stores.Records
import Daybook.Reconciliation.Service
