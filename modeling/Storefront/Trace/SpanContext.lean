import Storefront.Text.Numeral
import Storefront.Trace.State

/-!
# Span contexts

The place of a span in a trace: the numbers of the trace and of the span, whether the trace is
recorded, and what is passed on with it. `SpanContext.traceparent` writes the numbers as a header
and `SpanContext.ofHeaders?` reads them back; what is read came from elsewhere and says so.
-/

namespace Storefront

/-- The number of a trace. -/
abbrev TraceId := BitVec 128

/-- The number of a span. -/
abbrev SpanId := BitVec 64

/-- A trace number as 32 hexadecimal digits. -/
def TraceId.text (id : TraceId) : String :=
  Text.hexPadded 32 id.toNat

/-- A span number as 16 hexadecimal digits. -/
def SpanId.text (id : SpanId) : String :=
  Text.hexPadded 16 id.toNat

/-- The place of a span in a trace. -/
structure SpanContext where
  traceId : TraceId
  spanId : SpanId
  flags : UInt8
  isRemote : Bool
  state : TraceState
  deriving DecidableEq

namespace SpanContext

/-- Both numbers are set. -/
def isValid (c : SpanContext) : Bool :=
  c.traceId != 0 && c.spanId != 0

/-- The trace is recorded. -/
def isSampled (c : SpanContext) : Bool :=
  c.flags &&& 1 == 1

/-- The name of the header with the numbers. -/
def parentHeader : String := "traceparent"

/-- The name of the header with the state. -/
def stateHeader : String := "tracestate"

/-- Version, trace, span, and whether the trace is recorded. -/
def traceparent (c : SpanContext) : String :=
  "00-" ++ c.traceId.text ++ "-" ++ c.spanId.text ++ "-" ++ if c.isSampled then "01" else "00"

/-- A hexadecimal numeral below a bound, a plus sign before it being allowed. -/
def readHex? (bound : Nat) (cs : List Char) : Option Nat := do
  let n ← Text.hexadecimal? (Text.dropPlus cs)
  if n < bound then some n else none

/-- A number of a trace or of a span: no capital letters, and not zero. -/
def readId? (width : Nat) (cs : List Char) : Option (BitVec width) := do
  if cs.any Char.isUpper then none
  let n ← readHex? (Nat.pow 2 width) cs
  if n = 0 then none else some (BitVec.ofNat width n)

/-- Version, trace, span, and whether the trace is recorded, from a header. Version 0 has exactly
these four parts and flags of at most 2; later versions may have more of both, and version 255
does not exist. -/
def readTraceparent? (header : String) : Option (TraceId × SpanId × Bool) :=
  match Text.terminated '-' (Text.dropEnds Text.isBlank header.toList) with
  | version :: traceId :: spanId :: flags :: more => do
      let version ← readHex? 255 version
      if version = 0 ∧ more ≠ [] then none
      let traceId ← readId? 128 traceId
      let spanId ← readId? 64 spanId
      let flags ← readHex? 256 flags
      if version = 0 ∧ 2 < flags then none
      some (traceId, spanId, flags % 2 = 1)
  | _ => none

/-- The flags of a trace that is recorded, or is not. -/
def flagsOf (sampled : Bool) : UInt8 :=
  if sampled then 1 else 0

/-- The place that two headers describe. A state that cannot be read is left out. -/
def ofHeaders? (parent state : Option String) : Option SpanContext := do
  let (traceId, spanId, sampled) ← readTraceparent? (← parent)
  return ⟨traceId, spanId, flagsOf sampled, true, (state >>= TraceState.ofHeader?).getD .empty⟩

end SpanContext

end Storefront
