import Storefront.Log
import Storefront.Text.Quoted
import Storefront.Trace.SpanContext

/-!
# Spans

What is recorded about a piece of work while it is done. A span always has a place in a trace, but
only a span of a recorded trace has a record, and only until it is finished; whatever is done to a
span without a record has no effect. A record has room for 128 attributes and 128 events and counts
what no longer fits. Its status only ever rises: from unset to an error, and from there to success.
-/

namespace Storefront

/-- The value of an attribute. -/
inductive AttributeValue where
  | bool (value : Bool)
  | int (value : Int)
  | float (value : Float)
  | text (value : String)

/-- Values under names, in the order in which they were set. -/
abbrev Attributes := List (String × AttributeValue)

/-- Something that happened during a span. -/
structure SpanEvent where
  name : String
  attributes : Attributes

/-- The role of a span in a conversation. -/
inductive SpanKind where
  | internal
  | client
  | server
  | producer
  | consumer
  deriving DecidableEq

/-- The name of a role. -/
def SpanKind.name : SpanKind → String
  | .internal => "Internal"
  | .client => "Client"
  | .server => "Server"
  | .producer => "Producer"
  | .consumer => "Consumer"

/-- How the work went. -/
inductive SpanStatus where
  | unset
  | error (description : String)
  | ok
  deriving DecidableEq

namespace SpanStatus

/-- The status as it is shown in a diagnostic. -/
def debug : SpanStatus → String
  | .unset => "Unset"
  | .error description => "Error \x7b description: " ++ Text.quote description ++ " \x7d"
  | .ok => "Ok"

/-- The second status may replace the first: success replaces everything else, an error replaces
what is unset and errors whose description comes before its own. -/
def isBelow : SpanStatus → SpanStatus → Bool
  | .unset, .unset => false
  | .unset, _ => true
  | .error a, .error b => a < b
  | .error _, .ok => true
  | .error _, .unset => false
  | .ok, _ => false

/-- The greater of two statuses. -/
def raise (old new : SpanStatus) : SpanStatus :=
  if old.isBelow new then new else old

/-- The work failed. -/
def isError : SpanStatus → Bool
  | .error _ => true
  | .unset | .ok => false

end SpanStatus

/-- What a span has recorded. -/
structure SpanRecord where
  name : String
  kind : SpanKind
  context : SpanContext
  parent : Option SpanId
  attributes : Attributes
  events : List SpanEvent
  droppedAttributes : Nat
  droppedEvents : Nat
  status : SpanStatus

namespace SpanRecord

/-- How many attributes a record or an event has room for. -/
def maxAttributes : Nat := 128

/-- How many events a record has room for. -/
def maxEvents : Nat := 128

/-- A record at the start of its span. -/
def start (name : String) (kind : SpanKind) (context : SpanContext) (parent : Option SpanId) :
    SpanRecord :=
  ⟨name, kind, context, parent, [], [], 0, 0, .unset⟩

/-- Add an attribute, or count it if there is no room. -/
def setAttribute (r : SpanRecord) (key : String) (value : AttributeValue) : SpanRecord :=
  if r.attributes.length < maxAttributes then
    { r with attributes := r.attributes ++ [(key, value)] }
  else { r with droppedAttributes := r.droppedAttributes + 1 }

/-- Add an event with as many of its attributes as it has room for, or count it if the record has
no room. -/
def addEvent (r : SpanRecord) (event : SpanEvent) : SpanRecord :=
  if r.events.length < maxEvents then
    let kept : SpanEvent := ⟨event.name, event.attributes.take maxAttributes⟩
    { r with events := r.events ++ [kept] }
  else { r with droppedEvents := r.droppedEvents + 1 }

/-- Raise the status. -/
def setStatus (r : SpanRecord) (status : SpanStatus) : SpanRecord :=
  { r with status := r.status.raise status }

/-- The value that was last set under a name. -/
def attribute? (r : SpanRecord) (key : String) : Option AttributeValue :=
  (r.attributes.reverse.find? fun a ↦ a.1 == key).map Prod.snd

/-- The first event of a name. -/
def event? (r : SpanRecord) (name : String) : Option SpanEvent :=
  r.events.find? fun e ↦ e.name == name

/-- The log line about a finished span that took a number of milliseconds. -/
def logLine (r : SpanRecord) (duration : Nat) : LogLine :=
  ⟨.debug, "span finished",
    [("trace_id", r.context.traceId.text), ("span_id", r.context.spanId.text),
      ("parent_span_id", Text.quoteOption (r.parent.map SpanId.text)), ("name", r.name),
      ("kind", r.kind.name), ("status", r.status.debug),
      ("events", Text.decimal r.events.length), ("duration_ms", Text.decimal duration)]⟩

end SpanRecord

/-- A span: its place in a trace, and what it has recorded so far if it is recording. -/
structure Span where
  context : SpanContext
  record? : Option SpanRecord

namespace Span

/-- The span is recording. -/
def isRecording (s : Span) : Bool :=
  s.record?.isSome

/-- Change what has been recorded, if the span is recording. -/
def update (s : Span) (change : SpanRecord → SpanRecord) : Span :=
  { s with record? := s.record?.map change }

/-- Set an attribute. -/
def setAttribute (s : Span) (key : String) (value : AttributeValue) : Span :=
  s.update fun r ↦ r.setAttribute key value

/-- Set attributes from left to right. -/
def setAttributes (s : Span) (attributes : Attributes) : Span :=
  attributes.foldl (fun s a ↦ s.setAttribute a.1 a.2) s

/-- Add an event. -/
def addEvent (s : Span) (name : String) (attributes : Attributes) : Span :=
  s.update fun r ↦ r.addEvent ⟨name, attributes⟩

/-- Raise the status. -/
def setStatus (s : Span) (status : SpanStatus) : Span :=
  s.update fun r ↦ r.setStatus status

/-- Change the name. -/
def rename (s : Span) (name : String) : Span :=
  s.update fun r ↦ { r with name := name }

/-- Note that the work failed: an event with the wording, and the status. -/
def fail (s : Span) (message : String) : Span :=
  (s.addEvent "exception" [("exception.message", .text message)]).setStatus (.error message)

/-- The span without its record. -/
def finished (s : Span) : Span :=
  { s with record? := none }

end Span

end Storefront
