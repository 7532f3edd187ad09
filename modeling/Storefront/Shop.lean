import Storefront.Call.Limits
import Storefront.Call.Record
import Storefront.Collaborators
import Storefront.Metrics
import Storefront.Order.Event
import Storefront.Settings
import Storefront.Text.Duration
import Storefront.Trace.Tracer

/-!
# The running shop

All that the service is at a moment: the time, the collaborators, what has been recorded about calls
and spans, the log and the metrics, and the work that goes on in the background. A task in the
background has either not begun or waits for an answer; when it waits, the time at which it goes on
is fixed. Everything that happens to a shop is a function from shops to shops.
-/

namespace Storefront

/-- Failures that are brought about on purpose: whether charges are diverted, and how many more
times than once each event is announced. The service counts announcements in 32 bits, so a shop
stands for it only while `extra` is below `2 ^ 32 - 1`. -/
structure Faults where
  divert : Bool
  extra : Nat
  deriving DecidableEq

/-- A request that has been sent: its span, whether its answer is scripted, the time at which it is
over, and what interrupts it, if its answer does not come first. -/
structure Sent where
  span : Span
  isScripted : Bool
  time : Nat
  interruption : Option Interruption

/-- Work in the background: sending a confirmation, or announcing an order a number of times. What
has been sent and not answered is with it. -/
inductive Task where
  | confirmation (caller : Caller) (confirmation : Confirmation) (sent : Option Sent)
  | announcement (caller : Caller) (order : Order) (copies : Nat) (sent : Option (Sent × Message))

namespace Task

/-- When a task goes on, if it waits. -/
def due? : Task → Option Nat
  | .confirmation _ _ sent => sent.map Sent.time
  | .announcement _ _ _ sent => sent.map fun s ↦ s.1.time

/-- How often a task may still go on. -/
def size : Task → Nat
  | .confirmation .. => 1
  | .announcement _ _ copies _ => copies

/-- Of the tasks that wait, the one that goes on first, with its time and the other tasks; of two at
the same time, the one that has waited longer. -/
def earliest? : List Task → Option (Nat × Task × List Task)
  | [] => none
  | t :: rest =>
      match t.due?, earliest? rest with
      | none, none => none
      | none, some (due, u, others) => some (due, u, t :: others)
      | some due, none => some (due, t, rest)
      | some due, some (other, u, others) =>
          if other < due then some (other, u, t :: others) else some (due, t, rest)

end Task

/-- The service at a moment. Tasks that are over and have not been counted since are in `ended`. -/
structure Shop where
  clock : Nat
  settings : FollowUpSettings
  faults : Faults
  announces : Bool
  collaborators : Collaborators
  calls : CallLog
  tracer : Tracer
  spans : List SpanRecord
  log : List LogLine
  metrics : Metrics
  tasks : List Task
  ended : Nat
  seed : Nat
  orders : Nat

namespace Shop

/-- A shop at time zero to which nothing has happened. -/
def new (settings : FollowUpSettings) (faults : Faults) (announces : Bool)
    (collaborators : Collaborators) (calls : CallLog) (tracer : Tracer) (seed : Nat) : Shop where
  clock := 0
  settings := settings
  faults := faults
  announces := announces
  collaborators := collaborators
  calls := calls
  tracer := tracer
  spans := []
  log := []
  metrics := []
  tasks := []
  ended := 0
  seed := seed
  orders := 0

/-- Write a line to the log. -/
def say (shop : Shop) (line : LogLine) : Shop :=
  { shop with log := shop.log ++ [line] }

/-- Take a measurement. -/
def measure (shop : Shop) (m : Measurement) : Shop :=
  { shop with metrics := m :: shop.metrics }

/-- Start a span. -/
def startSpan (shop : Shop) (name : String) (kind : SpanKind) (parent : Option SpanContext) :
    Span × Shop :=
  let (span, tracer) := shop.tracer.start name kind parent
  (span, { shop with tracer := tracer })

/-- Finish a span, and keep what it has recorded. -/
def finishSpan (shop : Shop) (span : Span) : Shop :=
  { shop with spans := shop.spans ++ span.record?.toList }

/-- Warn of a context whose header may be cut. -/
def warnOf (shop : Shop) (context : Context) : Shop :=
  { shop with log := shop.log ++ context.baggage.warning?.toList }

/-- Count and report the failure of a step that never fails an order. -/
def setback (shop : Shop) (error : BestEffortError) : Shop :=
  (shop.measure (.stepFailed error.step)).say
    ⟨.warn, "best-effort step failed", [("step", error.step.name), ("error", error.message)]⟩

/-- The number of the next order. -/
def nextOrder (shop : Shop) : OrderId :=
  .ofNat (shop.seed + shop.orders)

/-- The settings of a shop as they are shown in a diagnostic. -/
def debug (shop : Shop) : String :=
  let topic := Text.quote shop.settings.topic
  let publishTimeout := Text.duration shop.settings.publishTimeout
  let publisher :=
    if shop.announces then
      "Some(EventPublisher \x7b topic: " ++ topic ++ ", timeout: " ++ publishTimeout ++ ", .. \x7d)"
    else "None"
  "OrderOrchestrator \x7b publisher: " ++ publisher ++
    ", config: OrchestratorConfig \x7b events_topic: " ++ topic ++
    ", event_publish_timeout: " ++ publishTimeout ++
    ", notification_timeout: " ++ Text.duration shop.settings.notificationTimeout ++
    " \x7d, .. \x7d"

/-- Forget the tasks that are over. -/
def reap (shop : Shop) : Shop :=
  { shop with ended := 0 }

/-- The number of tasks that are not over. -/
def pending (shop : Shop) : Nat :=
  shop.tasks.length

end Shop

end Storefront
