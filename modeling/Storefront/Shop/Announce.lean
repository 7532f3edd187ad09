import Storefront.Shop

/-!
# Announcements

How a shop announces an order. The message has the number of the order as its key, the event as its
payload, and headers that lead back to the span of the announcement. An announcement never fails an
order: what went wrong is recorded on its span, logged, and counted. It is given up after a time of
its own, but an answer that comes exactly then still counts.
-/

namespace Storefront.Shop

/-- The earlier of an ending and a time limit of its own, the ending first in a tie. -/
def orTimeout (limit : Nat) (ending : Nat × Option Interruption) :
    Nat × Option Interruption :=
  if ending.1 ≤ limit then ending else (limit, some .deadlineExceeded)

/-- The facts of an announcement, for its span. -/
def announcementFacts (topic key payload : String) : Attributes :=
  [("messaging.operation", .text "publish"), ("messaging.destination.name", .text topic),
    ("messaging.message.key", .text key), ("messaging.message.type", .text PlacedEvent.typeName),
    ("messaging.message.body.size", .int payload.utf8ByteSize)]

/-- Start an announcement: its span, its message, and when it is over. -/
def beginAnnouncement (shop : Shop) (caller : Caller) (order : Order) :
    (Sent × Message) × Shop :=
  let topic := shop.settings.topic
  let key := order.id.text
  let event : PlacedEvent := ⟨order, .ofMillis shop.clock⟩
  let payload := event.toJson.text
  let (span, shop) := shop.startSpan (topic ++ " publish") .producer caller.context.parent
  let span := span.setAttributes (announcementFacts topic key payload)
  let context := caller.context.withParent span.context
  let shop := shop.warnOf context
  let ready := shop.clock + shop.collaborators.sendDelay
  let fate := caller.limits.fate shop.clock (some ready)
  let (time, interruption) :=
    orTimeout (shop.clock + shop.settings.publishTimeout) (fate.ending shop.clock ready)
  ((⟨span, shop.collaborators.scriptsSend, time, interruption⟩,
    ⟨topic, key, payload, inject context RecordHeaders.empty⟩), shop)

/-- Let the broker act and answer. -/
def deliver (shop : Shop) (message : Message) (isScripted : Bool) :
    Except TransportError Receipt × Shop :=
  let (reply, collaborators) := shop.collaborators.send message isScripted
  (reply, { shop with collaborators := collaborators })

/-- A number that may be missing, as it is shown in a diagnostic. -/
def debugNumber : Option Int → String
  | none => "None"
  | some n => "Some(" ++ Text.decimalInt n ++ ")"

/-- The facts of a receipt, for the span of its announcement. -/
def receiptFacts (receipt : Receipt) : Attributes :=
  (receipt.partition.map fun n ↦
      ("messaging.destination.partition.id", .text (Text.decimalInt n))).toList ++
    (receipt.offset.map fun n ↦ ("messaging.message.offset", .int n)).toList

/-- Note that a message was delivered. -/
def delivered (shop : Shop) (span : Span) (receipt : Receipt) : Shop :=
  let line : LogLine := ⟨.debug, "order event delivered",
    [("partition", debugNumber receipt.partition), ("offset", debugNumber receipt.offset)]⟩
  ((shop.say line).measure .eventDelivered).finishSpan (span.setAttributes (receiptFacts receipt))

/-- Note that a message was not delivered. -/
def undelivered (shop : Shop) (span : Span) (error : BestEffortError) : Shop :=
  let line : LogLine := ⟨.warn, "order event not delivered",
    [("step", error.step.name), ("error", error.message)]⟩
  ((shop.say line).measure .eventFailed).finishSpan (span.fail error.message)

/-- What comes of a message: the receipt, unless an interruption comes first. -/
def deliverUnless (shop : Shop) (message : Message) (sent : Sent) :
    Except TransportError Receipt × Shop :=
  match sent.interruption with
  | some reason => (.error reason.toTransport, shop)
  | none => shop.deliver message sent.isScripted

/-- End an announcement: where the message is, or why it was not delivered. -/
def endAnnouncement (shop : Shop) (sent : Sent) (message : Message) :
    Except BestEffortError Receipt × Shop :=
  match shop.deliverUnless message sent with
  | (.ok receipt, shop) => (.ok receipt, shop.delivered sent.span receipt)
  | (.error error, shop) =>
      (.error (.eventPublishFailed error), shop.undelivered sent.span (.eventPublishFailed error))

end Storefront.Shop
