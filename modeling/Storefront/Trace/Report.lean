import Storefront.Json.Lookup
import Storefront.Trace.Tracer
import Storefront.Trace.Propagation

/-!
# Reports of traces

Contexts and spans as JSON. The numbers that a tracer draws say nothing to a reader, so a
report of spans gives them labels: a span is called by its name and its position among the spans of
that name, and a trace by its position among the traces of the report. Numbers that were not drawn
by the tracer are shown as they are.
-/

namespace Storefront

/-- The numbers, flags, and state of a place in a trace. -/
def SpanContext.toJson (c : SpanContext) : Json :=
  .obj [("trace_id", .str c.traceId.text), ("span_id", .str c.spanId.text),
    ("flags", .int c.flags.toNat), ("sampled", .bool c.isSampled), ("remote", .bool c.isRemote),
    ("valid", .bool c.isValid), ("trace_state", .str c.state.header)]

/-- The place in a trace that an object describes, unless its state cannot be one. -/
def SpanContext.ofReading? (r : Reading) : Option SpanContext := do
  let state ← TraceState.ofMembers? (r.pairs "trace_state")
  return ⟨BitVec.ofNat 128 (r.hex "trace_id"), BitVec.ofNat 64 (r.hex "span_id"),
    UInt8.ofNat (r.nat "flags"), r.flag "remote", state⟩

/-- The entries in order. -/
def Baggage.toJson (b : Baggage) : Json :=
  .arr (b.entries.map fun e ↦ .arr [.str e.1, .str e.2])

namespace Context

/-- The parent and the baggage. -/
def toJson (c : Context) : Json :=
  .obj [("parent", (c.parent.map SpanContext.toJson).getD .null), ("baggage", c.baggage.toJson)]

/-- The context that an object describes, unless the state of its parent cannot be one. -/
def ofReading? (r : Reading) : Option Context := do
  let baggage := Dict.ofList (r.pairs "baggage")
  if (r.member "parent").isNull then return ⟨none, baggage⟩
  let parent ← SpanContext.ofReading? (r.member "parent")
  return ⟨some parent, baggage⟩

end Context

/-- A value as it is; floating point numbers by their bits. -/
def AttributeValue.toJson : AttributeValue → Json
  | .bool b => .bool b
  | .int n => .int n
  | .float x => .obj [("f64", .str (Binary64.hex x))]
  | .text s => .str s

/-- The value that was read. -/
def AttributeValue.ofReading : Reading → AttributeValue
  | .bool b => .bool b
  | .num (.int n) => .int n
  | .str (some s) => .text s
  | r => .float (Float.ofBits (UInt64.ofNat (r.hex "f64")))

/-- Names and values in the order in which they were set. -/
def Attributes.toJson (attributes : Attributes) : Json :=
  .arr (attributes.map fun a ↦ .arr [.str a.1, a.2.toJson])

/-- The name of a status, or the description of an error. -/
def SpanStatus.toJson : SpanStatus → Json
  | .unset => .str "Unset"
  | .ok => .str "Ok"
  | .error description => .obj [("error", .str description)]

/-- The spans of a report, and the tracer that drew their numbers. -/
structure SpanReport where
  spans : List SpanRecord
  tracer : Tracer

namespace SpanReport

/-- The name of the span at a position and its position among the spans of that name. -/
def labelAt (r : SpanReport) (i : Nat) : String :=
  match r.spans[i]? with
  | none => "?"
  | some span =>
      let same := (r.spans.take (i + 1)).filter fun other ↦ other.name == span.name
      span.name ++ "#" ++ Text.decimal same.length

/-- The label of a span. -/
def spanLabel (r : SpanReport) (id : SpanId) : String :=
  if r.tracer.drewSpan id then
    ((r.spans.findIdx? fun span ↦ span.context.spanId == id).map r.labelAt).getD "?"
  else id.text

/-- The traces of the report in order of their first spans, whoever drew their numbers. -/
def traces (r : SpanReport) : List TraceId :=
  (r.spans.map fun span ↦ span.context.traceId).eraseDups

/-- The label of a trace. -/
def traceLabel (r : SpanReport) (id : TraceId) : String :=
  if r.tracer.drewTrace id then
    ((r.traces.findIdx? (· == id)).map fun i ↦ "trace" ++ Text.decimal (i + 1)).getD "?"
  else id.text

/-- A place in a trace with labels. -/
def contextJson (r : SpanReport) (c : SpanContext) : Json :=
  .obj [("trace", .str (r.traceLabel c.traceId)), ("span", .str (r.spanLabel c.spanId)),
    ("sampled", .bool c.isSampled), ("remote", .bool c.isRemote),
    ("trace_state", .str c.state.header)]

/-- One span with labels. -/
def spanJson (r : SpanReport) (span : SpanRecord) : Json :=
  .obj [("span", .str (r.spanLabel span.context.spanId)), ("kind", .str span.kind.name),
    ("trace", .str (r.traceLabel span.context.traceId)),
    ("parent", .str ((span.parent.map r.spanLabel).getD "none")),
    ("trace_state", .str span.context.state.header),
    ("attributes", Attributes.toJson span.attributes),
    ("events", .arr (span.events.map fun e ↦
      .arr [.str e.name, Attributes.toJson e.attributes])),
    ("dropped", .arr [.int span.droppedAttributes, .int span.droppedEvents]),
    ("status", span.status.toJson)]

/-- All spans with labels. -/
def toJson (r : SpanReport) : Json :=
  .arr (r.spans.map r.spanJson)

end SpanReport

end Storefront
