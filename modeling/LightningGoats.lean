import LightningGoats.Foundation.Table
import LightningGoats.Foundation.CheckedSum
import LightningGoats.Foundation.Execution
import LightningGoats.Foundation.Text
import LightningGoats.Domain.Uuid
import LightningGoats.Domain.Credit
import LightningGoats.Domain.Pricing
import LightningGoats.Ledger.Conservation
import LightningGoats.Ledger.Attempts
import LightningGoats.Ledger.Announcements
import LightningGoats.Ledger.Provenance
import LightningGoats.Ledger.Settlements
import LightningGoats.Ledger.Deliveries
import LightningGoats.Ledger.Granting
import LightningGoats.Ledger.Families
import LightningGoats.Ledger.Observations
import LightningGoats.Ledger.ObservationRuns
import LightningGoats.Ledger.Intents
import LightningGoats.Ledger.Holds
import LightningGoats.Ledger.FeedRefinement
import LightningGoats.Ledger.PaymentHashes
import LightningGoats.Gateway.RateLimit
import LightningGoats.Gateway.Histories
import LightningGoats.Gateway.Capacity
import LightningGoats.Gateway.Responses
import LightningGoats.Quotes.Bindings
import LightningGoats.Quotes.Budgets
import LightningGoats.Quotes.Rates
import LightningGoats.Ledger.Migration
import LightningGoats.Deploy.Recovery
import LightningGoats.Feeder.OwnerCertificates
import LightningGoats.Ledger.Privacy
import LightningGoats.Quotes.Candles
import LightningGoats.Strike.Amounts
import LightningGoats.Messaging.Rendering
import LightningGoats.Messaging.OverlayOrder
import LightningGoats.Messaging.Passing
import LightningGoats.Ledger.Issuance
import LightningGoats.Quotes.Clocks
import LightningGoats.Foundation.Tasks
import LightningGoats.Ledger.Work
import LightningGoats.Strike.Crediting
import LightningGoats.Strike.DurableWork
import LightningGoats.Strike.Issuing
