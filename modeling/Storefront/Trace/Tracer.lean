import Storefront.Binary64
import Storefront.Trace.Span

/-!
# Tracers

A tracer starts spans. A span under a valid parent belongs to the parent's trace and is recorded if
the parent is; a span without one begins a trace, and the number of that trace decides whether it is
recorded, so that the given share of all traces is. Numbers are drawn one after the other from a
starting point and are never zero, so a tracer can tell the numbers it has drawn from others.
-/

namespace Storefront

/-- A tracer: which share of traces it records, the point from which it draws numbers, and how many
it has drawn for traces and for spans. -/
structure Tracer where
  ratio : Float
  seed : Nat
  traces : Nat
  spans : Nat

/-- A number that is not zero. All numbers of its width come up in turn. -/
def drawId (width n : Nat) : BitVec width :=
  BitVec.ofNat width (n % (Nat.pow 2 width - 1) + 1)

namespace Tracer

/-- A share moved into the range from zero to one. What is not a number is zero. -/
def clampRatio (ratio : Float) : Float :=
  if ratio.isNaN then Binary64.ofInt 0 else Binary64.clampUnit ratio

/-- A tracer that records a share of all traces and draws numbers from a point on. -/
def new (ratio : Float) (seed : Nat) : Tracer :=
  ⟨clampRatio ratio, seed, 0, 0⟩

/-- A number is among the first so many that were drawn. -/
def isAmong (t : Tracer) (drawn : Nat) {width : Nat} (id : BitVec width) : Bool :=
  t.seed < id.toNat && id.toNat ≤ t.seed + drawn

/-- The number of a trace that this tracer began. -/
def drewTrace (t : Tracer) (id : TraceId) : Bool :=
  t.isAmong t.traces id

/-- The number of a span that this tracer started. -/
def drewSpan (t : Tracer) (id : SpanId) : Bool :=
  t.isAmong t.spans id

/-- A trace is recorded when its number, as a fraction of all numbers, is below the share. -/
def records (t : Tracer) (id : TraceId) : Bool :=
  Binary64.ofInt 1 ≤ t.ratio ||
    id.toNat % Nat.pow 2 64 / 2 < (t.ratio * Binary64.ofInt (Nat.pow 2 63)).toUInt64.toNat

/-- The place of a new span under a parent: the same trace and state, and the parent's flags if the
trace is recorded. -/
def childContext (parent : SpanContext) (id : SpanId) : SpanContext :=
  ⟨parent.traceId, id, if parent.isSampled then parent.flags else 0, false, parent.state⟩

/-- The place of a span that begins a trace. -/
def rootContext (t : Tracer) (trace : TraceId) (id : SpanId) : SpanContext :=
  ⟨trace, id, SpanContext.flagsOf (t.records trace), false, .empty⟩

/-- A span at a place, with a record if its trace is recorded. -/
def spanAt (name : String) (kind : SpanKind) (context : SpanContext) (parent : Option SpanId) :
    Span :=
  ⟨context,
    if context.isSampled then some (SpanRecord.start name kind context parent) else none⟩

/-- Start a span under a parent, or begin a trace if there is no valid one. -/
def start (t : Tracer) (name : String) (kind : SpanKind) (parent : Option SpanContext) :
    Span × Tracer :=
  let id := drawId 64 (t.seed + t.spans)
  match parent.filter SpanContext.isValid with
  | some parent =>
      (spanAt name kind (childContext parent id) (some parent.spanId),
        { t with spans := t.spans + 1 })
  | none =>
      (spanAt name kind (t.rootContext (drawId 128 (t.seed + t.traces)) id) none,
        { t with traces := t.traces + 1, spans := t.spans + 1 })

end Tracer

end Storefront
