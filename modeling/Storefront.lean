import Storefront.Binary64
import Storefront.Call.Limits
import Storefront.Call.Record
import Storefront.Call.Report
import Storefront.Call.Request
import Storefront.Checkout.Dialogue
import Storefront.Checkout.Placement
import Storefront.Collaborator.Broker
import Storefront.Collaborator.Carts
import Storefront.Collaborator.Catalog
import Storefront.Collaborator.Exchange
import Storefront.Collaborator.Mail
import Storefront.Collaborator.Payments
import Storefront.Collaborator.RemoteMail
import Storefront.Collaborator.Scripted
import Storefront.Collaborator.Shipping
import Storefront.Collaborators
import Storefront.Dict
import Storefront.Failure
import Storefront.Failure.Report
import Storefront.Http.Address
import Storefront.Http.Answer
import Storefront.Http.Host
import Storefront.Http.MediaType
import Storefront.Http.Router
import Storefront.Http.Target
import Storefront.Identifier
import Storefront.Json.Decoder
import Storefront.Json.Lookup
import Storefront.Json.Reading
import Storefront.Json.Value
import Storefront.Log
import Storefront.Metrics
import Storefront.Money
import Storefront.Money.Currency
import Storefront.Order.Basic
import Storefront.Order.Event
import Storefront.Order.Json
import Storefront.Order.Request
import Storefront.Progress
import Storefront.Proofs.Binary64.Decimal
import Storefront.Proofs.Binary64.Layout
import Storefront.Proofs.Binary64.Numeral
import Storefront.Proofs.Binary64.Rounding
import Storefront.Proofs.Binary64.UnitRange
import Storefront.Proofs.Binary64.Value
import Storefront.Proofs.Call.Fate
import Storefront.Proofs.Call.Limits
import Storefront.Proofs.Call.Report
import Storefront.Proofs.Checkout.Calls
import Storefront.Proofs.Checkout.Completion
import Storefront.Proofs.Checkout.Conformance
import Storefront.Proofs.Checkout.Conversation
import Storefront.Proofs.Checkout.Diversion
import Storefront.Proofs.Checkout.Failure
import Storefront.Proofs.Checkout.Finish
import Storefront.Proofs.Checkout.Layout
import Storefront.Proofs.Checkout.Milestones
import Storefront.Proofs.Checkout.Plan
import Storefront.Proofs.Checkout.Secrecy
import Storefront.Proofs.Checkout.Sequence
import Storefront.Proofs.Checkout.Sign
import Storefront.Proofs.Checkout.Total
import Storefront.Proofs.Collaborator.Carts
import Storefront.Proofs.Collaborator.Receipts
import Storefront.Proofs.Failure.Report
import Storefront.Proofs.Http.Drill
import Storefront.Proofs.Http.Orders
import Storefront.Proofs.Http.Traffic
import Storefront.Proofs.Json.Decode
import Storefront.Proofs.Json.Scan
import Storefront.Proofs.Money.Display
import Storefront.Proofs.Money.NanoTotal
import Storefront.Proofs.Money.Sum
import Storefront.Proofs.Order.CardMask
import Storefront.Proofs.Order.Event
import Storefront.Proofs.Order.RoundTrip
import Storefront.Proofs.Order.Validation
import Storefront.Proofs.Order.WireType
import Storefront.Proofs.RetainedLog
import Storefront.Proofs.RetainedLog.History
import Storefront.Proofs.Settings.Report
import Storefront.Proofs.Settings.SampledShare
import Storefront.Proofs.Settings.Variables
import Storefront.Proofs.Shop.Alike
import Storefront.Proofs.Shop.Boundary
import Storefront.Proofs.Shop.Calling
import Storefront.Proofs.Shop.Commitment
import Storefront.Proofs.Shop.Detached
import Storefront.Proofs.Shop.Diversion
import Storefront.Proofs.Shop.Forecast
import Storefront.Proofs.Shop.Fulfilment
import Storefront.Proofs.Shop.History
import Storefront.Proofs.Shop.Hosting
import Storefront.Proofs.Shop.Interleaving
import Storefront.Proofs.Shop.Ledger
import Storefront.Proofs.Shop.Moves
import Storefront.Proofs.Shop.OneTrace
import Storefront.Proofs.Shop.Operations
import Storefront.Proofs.Shop.Outbox
import Storefront.Proofs.Shop.Outcome
import Storefront.Proofs.Shop.Pauses
import Storefront.Proofs.Shop.Progress
import Storefront.Proofs.Shop.Promise
import Storefront.Proofs.Shop.Publishing
import Storefront.Proofs.Shop.Rest
import Storefront.Proofs.Shop.Retention
import Storefront.Proofs.Shop.Secrecy
import Storefront.Proofs.Shop.Steady
import Storefront.Proofs.Shop.Stores
import Storefront.Proofs.Shop.Tally
import Storefront.Proofs.Shop.Work
import Storefront.Proofs.Text.Blank
import Storefront.Proofs.Text.Numeral
import Storefront.Proofs.Text.Percent
import Storefront.Proofs.Text.Pieces
import Storefront.Proofs.Text.Quoted
import Storefront.Proofs.Timestamp
import Storefront.Proofs.Trace.Baggage
import Storefront.Proofs.Trace.Canonical
import Storefront.Proofs.Trace.Headers
import Storefront.Proofs.Trace.Journey
import Storefront.Proofs.Trace.Lineage
import Storefront.Proofs.Trace.Members
import Storefront.Proofs.Trace.Relay
import Storefront.Proofs.Trace.Report
import Storefront.Proofs.Trace.Reuse
import Storefront.Proofs.Trace.RoundTrip
import Storefront.RetainedLog
import Storefront.Settings
import Storefront.Settings.Report
import Storefront.Shop
import Storefront.Shop.Announce
import Storefront.Shop.Background
import Storefront.Shop.Call
import Storefront.Shop.Demo
import Storefront.Shop.Placement
import Storefront.Text.Blank
import Storefront.Text.Bytes
import Storefront.Text.CodeRange
import Storefront.Text.Duration
import Storefront.Text.Hidden
import Storefront.Text.Letters
import Storefront.Text.LowerCase
import Storefront.Text.Numeral
import Storefront.Text.Percent
import Storefront.Text.Pieces
import Storefront.Text.Punycode
import Storefront.Text.Quoted
import Storefront.Text.Tail
import Storefront.Timestamp
import Storefront.Trace.Baggage
import Storefront.Trace.Carrier
import Storefront.Trace.Propagation
import Storefront.Trace.Report
import Storefront.Trace.Span
import Storefront.Trace.SpanContext
import Storefront.Trace.State
import Storefront.Trace.Tracer
