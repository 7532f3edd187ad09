import Storefront.Call.Request
import Storefront.Trace.Span

/-!
# Dialogues

A piece of work as a conversation: it asks collaborators one thing at a time and goes on with what
is accepted of the answer, or with the reason why there is none; it asks once whether charges are
to be diverted; and it makes notes on the way. A dialogue does not know who answers it, when, or
whether an interruption comes first, so what holds of a dialogue holds of every run of it.
-/

namespace Storefront

/-- Something worth noting during a checkout. -/
inductive Note where
  /-- A fact about the order, for its span. -/
  | attribute (key : String) (value : AttributeValue)
  /-- Something that happened, for the span of the order. -/
  | event (name : String) (attributes : Attributes)
  /-- A line for the log. -/
  | line (line : LogLine)
  /-- The checkout has passed from one stage to another. -/
  | progress (id : OrderId) (source target : Stage)
  /-- A step has failed that never fails an order. -/
  | setback (error : BestEffortError)
  /-- An order is complete: it is to be confirmed to an address and announced. -/
  | completed (order : Order) (email : String)

/-- A conversation that ends with a value. -/
inductive Dialogue (α : Type) where
  | done (value : α)
  | ask (request : Request) (next : Except CallFailure request.Accepted → Dialogue α)
  | consult (next : Bool → Dialogue α)
  | note (note : Note) (next : Dialogue α)

namespace Dialogue

variable {α β : Type}

/-- Go on with the value at the end. -/
def bind (d : Dialogue α) (f : α → Dialogue β) : Dialogue β :=
  match d with
  | done value => f value
  | ask request next => ask request fun answer ↦ (next answer).bind f
  | consult next => consult fun diverted ↦ (next diverted).bind f
  | note n next => note n (next.bind f)

/-- Dialogues are composed by going on with the value at the end. -/
instance : Monad Dialogue where
  pure := done
  bind := bind

end Dialogue

/-- A dialogue that ends with a value or with the failure of an order. -/
abbrev Placement := ExceptT PlacementError Dialogue

namespace Placement

/-- Make a note. -/
def note (n : Note) : Placement Unit :=
  ExceptT.mk (.note n (.done (.ok ())))

/-- Ask whether charges are to be diverted. -/
def consult : Placement Bool :=
  ExceptT.mk (.consult fun diverted ↦ .done (.ok diverted))

/-- Ask a collaborator, and fail the order by the error of the step if there is no answer. -/
def ask (request : Request) (failure : TransportError → PlacementError) :
    Placement request.Accepted :=
  ExceptT.mk <| .ask request fun answer ↦
    .done (answer.mapError (PlacementError.ofCall request.step failure))

/-- Ask a collaborator for something without which the order goes on, and end with the reason why
it was not done. -/
def attempt (request : Request) (failure : TransportError → BestEffortError) :
    Placement (Except BestEffortError request.Accepted) :=
  ExceptT.mk <| .ask request fun answer ↦
    .done (.ok (answer.mapError fun e ↦ failure e.toTransport))

/-- Fail the order unless there is a value. -/
def require {α ε : Type} (wrap : ε → PlacementError) (value : Except ε α) : Placement α :=
  ExceptT.mk (.done (value.mapError wrap))

end Placement

end Storefront
