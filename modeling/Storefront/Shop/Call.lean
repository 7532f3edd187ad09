import Storefront.Shop

/-!
# Calls

How a shop asks its collaborators. A call has a span of its own under the span of its caller, and
the collaborator hears of it through a carrier. `send` is what happens at the start of a call and
fixes when it is over; `settle` is what happens then. If an interruption comes first the
collaborator does nothing; otherwise it acts at the end of its delay. What it answers is checked
before it is believed.
-/

namespace Storefront.Shop

/-- Let the service of a request hear of it. -/
def hear (shop : Shop) (request : Request) (context : Context) : Shop :=
  if shop.collaborators.hears request then
    let calls :=
      match request with
      | .confirm _ =>
          shop.calls.record request.service request.method (inject context HeaderFields.empty)
      | _ => shop.calls.record request.service request.method (inject context CallMetadata.empty)
    { shop with calls := calls }
  else shop

/-- Start a call: its span, the context it travels with, and when it is over. A caller who has
given up before is not heard. -/
def send (shop : Shop) (caller : Caller) (request : Request) : Sent × Shop :=
  let (span, shop) :=
    shop.startSpan (request.service ++ "/" ++ request.method) .client caller.context.parent
  let span := span.setAttributes
    [("rpc.service", .text request.service), ("rpc.method", .text request.method),
      ("app.step", .text request.step.name)]
  let context := caller.context.withParent span.context
  let shop := shop.warnOf context
  let ready := shop.clock + shop.collaborators.delay request
  let fate := caller.limits.fate shop.clock (some ready)
  let (time, interruption) := fate.ending shop.clock ready
  (⟨span, shop.collaborators.scripts request, time, interruption⟩,
    if fate.isStarted then shop.hear request context else shop)

/-- Let the service of a request act and answer. -/
def answer (shop : Shop) (request : Request) (isScripted : Bool) :
    Except CallFailure request.Accepted × Shop :=
  let (reply, collaborators) := shop.collaborators.answer request isScripted
  ((request.accept reply).mapError .transport, { shop with collaborators := collaborators })

/-- What comes of a request: the answer, unless an interruption comes first. -/
def answerUnless (shop : Shop) (request : Request) (sent : Sent) :
    Except CallFailure request.Accepted × Shop :=
  match sent.interruption with
  | some reason => (.error (.interrupted reason), shop)
  | none => shop.answer request sent.isScripted

/-- End a call: what is accepted of its answer, or why there is none. -/
def settle (shop : Shop) (request : Request) (sent : Sent) :
    Except CallFailure request.Accepted × Shop :=
  match shop.answerUnless request sent with
  | (.ok accepted, shop) => (.ok accepted, shop.finishSpan sent.span)
  | (.error failure, shop) => (.error failure, shop.finishSpan (sent.span.fail failure.message))

/-- The end of a call is what comes of the request, and its span is finished. -/
theorem exists_settle_eq (shop : Shop) (request : Request) (sent : Sent) :
    ∃ span, shop.settle request sent =
      ((shop.answerUnless request sent).1, (shop.answerUnless request sent).2.finishSpan span) := by
  unfold settle
  split
  · rename_i h
    exact ⟨sent.span, by rw [h]⟩
  · rename_i failure _ h
    exact ⟨sent.span.fail failure.message, by rw [h]⟩

end Storefront.Shop
