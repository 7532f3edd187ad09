import Storefront.Trace.Baggage
import Storefront.Trace.SpanContext

/-!
# Propagation

What crosses from one process to another: the span on whose behalf something is done, and baggage.
A carrier is whatever holds texts under names on the way; `inject` writes a context into one and
`extract` reads it back. Reading never fails: what cannot be understood is no parent, or no entry.
-/

namespace Storefront

/-- The parent span, if there is one, and the baggage. -/
structure Context where
  parent : Option SpanContext
  baggage : Baggage

namespace Context

/-- No parent and no baggage. -/
def empty : Context :=
  ⟨none, .empty⟩

/-- The same baggage under another parent. -/
def withParent (c : Context) (span : SpanContext) : Context :=
  { c with parent := some span }

/-- The parent, if its numbers are set. -/
def validParent? (c : Context) : Option SpanContext :=
  c.parent.filter SpanContext.isValid

end Context

/-- Something that holds texts under names. -/
class Carrier (C : Type) where
  /-- A carrier that holds nothing. -/
  empty : C
  /-- The text under a name. -/
  get? : C → String → Option String
  /-- Put a text under a name, in place of what is there. -/
  set : C → String → String → C
  /-- The names under which there is something. -/
  names : C → List String

section

variable {C : Type} [Carrier C]

/-- Write a context into a carrier: a valid parent as two headers, baggage as one. -/
def inject (context : Context) (carrier : C) : C :=
  let carrier :=
    match context.validParent? with
    | none => carrier
    | some parent =>
        Carrier.set
          (Carrier.set carrier SpanContext.parentHeader parent.traceparent)
          SpanContext.stateHeader parent.state.header
  match context.baggage.header? with
  | none => carrier
  | some header => Carrier.set carrier Baggage.headerName header

/-- Read a context from a carrier. -/
def extract (carrier : C) : Context where
  parent :=
    SpanContext.ofHeaders? (Carrier.get? carrier SpanContext.parentHeader)
      (Carrier.get? carrier SpanContext.stateHeader)
  baggage := ((Carrier.get? carrier Baggage.headerName).map Baggage.ofHeader).getD .empty

end

end Storefront
