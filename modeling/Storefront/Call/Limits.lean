import Storefront.Failure
import Storefront.Trace.Propagation

/-!
# Callers and their limits

On whose behalf work is done, and when that caller gives up: at a deadline, or when the request is
cancelled. Times are milliseconds of one clock. `Limits.fate` says what becomes of work that would
be ready at some time: it belongs to the earliest of cancellation, deadline, and readiness, and of
two at the same time the one named first wins. Work whose caller has already given up is not
started.
-/

namespace Storefront

/-- When a caller gives up. -/
structure Limits where
  deadline : Option Nat
  cancelAt : Option Nat
  deriving DecidableEq

/-- What becomes of work: it is not started, it ends at a time with or without an interruption, or
it never ends. -/
inductive Fate where
  | refused (reason : Interruption)
  | ends (time : Nat) (interruption : Option Interruption)
  | never
  deriving DecidableEq

namespace Fate

/-- The work is started. -/
def isStarted : Fate → Bool
  | .refused _ => false
  | .ends .. | .never => true

/-- When work is over that is offered at a time and would be ready at another, and how. -/
def ending (now ready : Nat) : Fate → Nat × Option Interruption
  | .refused reason => (now, some reason)
  | .ends time interruption => (time, interruption)
  | .never => (ready, none)

end Fate

namespace Limits

/-- No limits. -/
def none : Limits :=
  ⟨.none, .none⟩

/-- The request is cancelled at a time or was before. -/
def isCancelled (l : Limits) (now : Nat) : Bool :=
  l.cancelAt.any (· ≤ now)

/-- The deadline is at a time or was before. -/
def isOverdue (l : Limits) (now : Nat) : Bool :=
  l.deadline.any (· ≤ now)

/-- Why work is not started at a time. -/
def refusal? (l : Limits) (now : Nat) : Option Interruption :=
  if l.isCancelled now then some .cancelled
  else if l.isOverdue now then some .deadlineExceeded
  else .none

/-- What may end work, each with its time, in the order that settles ties. -/
def ends (l : Limits) (ready : Option Nat) : List (Nat × Option Interruption) :=
  (l.cancelAt.map fun t ↦ (t, some .cancelled)).toList ++
    (l.deadline.map fun t ↦ (t, some .deadlineExceeded)).toList ++
      (ready.map fun t ↦ (t, .none)).toList

/-- The earliest of timed things, the first of those at the same time. -/
def earliest? {α : Type} : List (Nat × α) → Option (Nat × α)
  | [] => .none
  | x :: rest =>
      match earliest? rest with
      | .none => some x
      | some y => if y.1 < x.1 then some y else some x

/-- What becomes of work that is offered at a time and would be ready at another, or never. -/
def fate (l : Limits) (now : Nat) (ready : Option Nat) : Fate :=
  match l.refusal? now with
  | some reason => .refused reason
  | .none =>
      match earliest? (l.ends ready) with
      | .none => .never
      | some (time, interruption) => .ends time interruption

/-- When each of several pieces of work is over, and how: each takes a while and is offered when the
one before it is over. -/
def schedule (l : Limits) (now : Nat) : List Nat → List (Nat × Option Interruption)
  | [] => []
  | lasts :: rest =>
      let ending := (l.fate now (some (now + lasts))).ending now (now + lasts)
      ending :: l.schedule ending.1 rest

end Limits

/-- On whose behalf work is done, and when it is given up. -/
structure Caller where
  context : Context
  limits : Limits

namespace Caller

/-- No inbound context and no limits. -/
def background : Caller :=
  ⟨.empty, .none⟩

/-- The same context without limits, for work that outlives its request. -/
def detached (c : Caller) : Caller :=
  ⟨c.context, .none⟩

/-- The same limits on behalf of another span. -/
def withParent (c : Caller) (span : SpanContext) : Caller :=
  { c with context := c.context.withParent span }

/-- Give up at a time. -/
def withDeadline (c : Caller) (deadline : Nat) : Caller :=
  { c with limits := { c.limits with deadline := some deadline } }

end Caller

end Storefront
