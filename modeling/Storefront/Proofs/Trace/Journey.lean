import Storefront.Proofs.Trace.Lineage
import Storefront.Proofs.Trace.RoundTrip

/-!
# Journeys

A context travels in hops. In each it is written into an empty carrier of some kind and read on the
other side, where a tracer starts a span under what was read and the context goes on with that span
as its parent. However many hops there are, whatever carriers they use and whatever share of traces
their tracers record, the trace and the baggage are those of the start and each span is a child of
the one before, `Context.after_keeps_trace`. One hop keeps the invariant, `Hop.keeps`, and a journey
is a list of hops.
-/

namespace Storefront

/-- A kind of carrier. -/
inductive CarrierKind where
  | callMetadata
  | headerFields
  | recordHeaders
  | nameMap

/-- What is read of a context that was written into an empty carrier of a kind. -/
def CarrierKind.pass : CarrierKind → Context → Context
  | .callMetadata, context => extract (inject context CallMetadata.empty)
  | .headerFields, context => extract (inject context HeaderFields.empty)
  | .recordHeaders, context => extract (inject context RecordHeaders.empty)
  | .nameMap, context => extract (inject context NameMap.empty)

/-- A context arrives by a carrier of any kind. -/
theorem CarrierKind.pass_arrives (kind : CarrierKind) (context : Context) :
    context.Arrives (kind.pass context) := by
  cases kind with
  | callMetadata => exact Carrier.isFaithful_callMetadata.arrives context
  | headerFields => exact Carrier.isFaithful_headerFields.arrives context
  | recordHeaders => exact Carrier.isFaithful_recordHeaders.arrives context
  | nameMap => exact Carrier.isFaithful_nameMap.arrives context

/-- One hop: the kind of carrier, and the tracer on the other side with the name and the role of the
span that it starts. -/
structure Hop where
  carrier : CarrierKind
  tracer : Tracer
  name : String
  kind : SpanKind

/-- What a hop leaves behind: the parent that was read, and the span that was started under it. -/
structure Leg where
  parent : Option SpanContext
  span : Span

namespace Hop

/-- The parent that is read from the carrier, and the span under it. -/
def leg (hop : Hop) (context : Context) : Leg :=
  let parent := (hop.carrier.pass context).parent
  ⟨parent, (hop.tracer.start hop.name hop.kind parent).1⟩

/-- The context that goes on: what was read from the carrier, under the span that was started. -/
def next (hop : Hop) (context : Context) : Context :=
  (hop.carrier.pass context).withParent (hop.leg context).span.context

end Hop

namespace Context

/-- The context after some hops. -/
def after : Context → List Hop → Context
  | context, [] => context
  | context, hop :: hops => (hop.next context).after hops

/-- What each of some hops leaves behind. -/
def legs : Context → List Hop → List Leg
  | _, [] => []
  | context, hop :: hops => hop.leg context :: (hop.next context).legs hops

/-- `c.Keeps origin place` says that the context has a place as its parent, in the trace of the
origin and recorded if the origin is, and the baggage of the origin. -/
structure Keeps (c origin : Context) (place : SpanContext) : Prop where
  parent_eq : c.parent = some place
  isValid : place.isValid = true
  trace : ∀ p, origin.parent = some p →
    place.traceId = p.traceId ∧ place.isSampled = p.isSampled
  baggage_eq : c.baggage = origin.baggage

end Context

/-- `leg.Continues place` says that a hop began at a place: the parent that was read is that place,
seen from elsewhere, and the span is its child in the same trace, recorded if the trace is. -/
structure Leg.Continues (leg : Leg) (place : SpanContext) : Prop where
  parent : ∃ p, leg.parent = some p ∧ p.isRemote = true ∧ p.traceId = place.traceId ∧
    p.spanId = place.spanId ∧ p.isSampled = place.isSampled
  isValid : leg.span.context.isValid = true
  traceId_eq : leg.span.context.traceId = place.traceId
  isSampled_eq : leg.span.context.isSampled = place.isSampled
  isRecording_eq : leg.span.isRecording = place.isSampled
  record : ∀ r ∈ leg.span.record?,
    r.context = leg.span.context ∧ r.parent = some place.spanId

/-- `Lineage first legs last` says that the legs lead from one place to another, the span of each
leg being the parent of the next. -/
inductive Lineage : SpanContext → List Leg → SpanContext → Prop where
  | rest (place : SpanContext) : Lineage place [] place
  | hop {first last : SpanContext} {leg : Leg} {legs : List Leg} (h : leg.Continues first)
      (rest : Lineage leg.span.context legs last) : Lineage first (leg :: legs) last

/-- A hop from a valid place starts a span that is a child of that place. -/
theorem Hop.leg_continues (hop : Hop) {context : Context} {place : SpanContext}
    (hparent : context.parent = some place) (hvalid : place.isValid = true) :
    (hop.leg context).Continues place := by
  obtain ⟨p, hp, hremote, htrace, hspan, hsampled⟩ :=
    (hop.carrier.pass_arrives context).parent place hparent hvalid
  have hpvalid : p.isValid = true := by
    rw [SpanContext.isValid_iff, htrace, hspan]
    exact SpanContext.isValid_iff.mp hvalid
  have hbegins := hop.tracer.start_begins hop.name hop.kind (hop.carrier.pass context).parent
  obtain ⟨htrace', hsampled'⟩ := hbegins.follows p hp hpvalid
  refine ⟨⟨p, hp, hremote, htrace, hspan, hsampled⟩, hbegins.isValid, htrace'.trans htrace,
    hsampled'.trans hsampled, hbegins.isRecording_eq.trans (hsampled'.trans hsampled),
    fun r hr ↦ ?_⟩
  obtain ⟨-, -, hcontext, hrecorded, -⟩ := hbegins.record r hr
  rw [hp, Option.filter_some_pos hpvalid, Option.map_some, hspan] at hrecorded
  exact ⟨hcontext, hrecorded⟩

/-- A hop keeps the trace and the baggage of an origin without an empty key. -/
theorem Hop.keeps (hop : Hop) {context origin : Context} {place : SpanContext}
    (hkeys : origin.baggage.get? "" = none) (h : context.Keeps origin place) :
    (hop.next context).Keeps origin (hop.leg context).span.context := by
  have hleg := hop.leg_continues h.parent_eq h.isValid
  refine ⟨rfl, hleg.isValid, fun p hp ↦ ?_, ?_⟩
  · obtain ⟨htrace, hsampled⟩ := h.trace p hp
    exact ⟨hleg.traceId_eq.trans htrace, hleg.isSampled_eq.trans hsampled⟩
  · show (hop.carrier.pass context).baggage = origin.baggage
    rw [(hop.carrier.pass_arrives context).baggage, h.baggage_eq, Dict.erase_eq_self hkeys]

namespace Context

/-- A context that keeps the trace and the baggage of an origin does so after any hops. -/
theorem Keeps.after {origin : Context} (hkeys : origin.baggage.get? "" = none) (hops : List Hop)
    {context : Context} {place : SpanContext} (h : context.Keeps origin place) :
    ∃ last, (context.after hops).Keeps origin last ∧ Lineage place (context.legs hops) last := by
  induction hops generalizing context place with
  | nil => exact ⟨place, h, .rest place⟩
  | cons hop hops ih =>
      obtain ⟨last, hlast, hlineage⟩ := ih (hop.keeps hkeys h)
      exact ⟨last, hlast, .hop (hop.leg_continues h.parent_eq h.isValid) hlineage⟩

/-- Each hop leaves something behind. -/
theorem length_legs (context : Context) (hops : List Hop) :
    (context.legs hops).length = hops.length := by
  induction hops generalizing context with
  | nil => rfl
  | cons hop hops ih => exact congrArg Nat.succ (ih (hop.next context))

/-- However a context with a valid parent and without an empty key travels, it stays in its trace
with its baggage, and each span on the way is a child of the one before. -/
theorem after_keeps_trace {origin : Context} {place : SpanContext}
    (hparent : origin.parent = some place) (hvalid : place.isValid = true)
    (hkeys : origin.baggage.get? "" = none) (hops : List Hop) :
    (origin.legs hops).length = hops.length ∧
      (origin.after hops).baggage = origin.baggage ∧
      ∃ last, (origin.after hops).parent = some last ∧ last.isValid = true ∧
        last.traceId = place.traceId ∧ last.isSampled = place.isSampled ∧
        Lineage place (origin.legs hops) last := by
  have hstart : origin.Keeps origin place := by
    refine ⟨hparent, hvalid, fun p hp ↦ ?_, rfl⟩
    cases hparent.symm.trans hp
    exact ⟨rfl, rfl⟩
  obtain ⟨last, hlast, hlineage⟩ := hstart.after hkeys hops
  obtain ⟨htrace, hsampled⟩ := hlast.trace place hparent
  exact ⟨length_legs origin hops, hlast.baggage_eq, last, hlast.parent_eq, hlast.isValid, htrace,
    hsampled, hlineage⟩

/-- A place in a recorded trace. -/
def demoPlace : SpanContext :=
  ⟨5, 7, 1, false, .empty⟩

/-- A context of that trace with some baggage. -/
def demoOrigin : Context :=
  ⟨some demoPlace, .ofList [("tenant", "blue, green"), ("rank", "")]⟩

/-- A hop by each kind of carrier, to tracers that record all traces or none. -/
def demoHops : List Hop :=
  [⟨.headerFields, .new (Binary64.ofInt 0) 20, "GET /", .server⟩,
    ⟨.callMetadata, .new (Binary64.ofInt 1) 30, "call", .client⟩,
    ⟨.recordHeaders, .new (Binary64.ofInt 0) 7, "orders send", .producer⟩,
    ⟨.nameMap, .new (Binary64.ofInt 1) 0, "orders receive", .consumer⟩]

/-- The context with some baggage stays in its recorded trace for four hops. -/
theorem demo_keeps_trace :
    demoOrigin.parent = some demoPlace ∧ demoPlace.isValid = true ∧
      demoOrigin.baggage.get? "" = none ∧ (demoOrigin.legs demoHops).length = 4 ∧
      (demoOrigin.after demoHops).baggage = demoOrigin.baggage ∧
      ∃ last, (demoOrigin.after demoHops).parent = some last ∧ last.isValid = true ∧
        last.traceId = 5 ∧ last.isSampled = true ∧
        Lineage demoPlace (demoOrigin.legs demoHops) last := by
  have hparent : demoOrigin.parent = some demoPlace := rfl
  have hvalid : demoPlace.isValid = true := rfl
  have hkeys : demoOrigin.baggage.get? "" = none := rfl
  exact ⟨hparent, hvalid, hkeys, after_keeps_trace hparent hvalid hkeys demoHops⟩

end Context

end Storefront
