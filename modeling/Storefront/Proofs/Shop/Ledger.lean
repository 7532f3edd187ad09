import Mathlib.Algebra.Group.Prod
import Mathlib.Algebra.Order.Group.Multiset
import Storefront.Proofs.Checkout.Failure
import Storefront.Proofs.Order.Event
import Storefront.Proofs.Trace.Lineage
import Storefront.Proofs.Trace.RoundTrip
import Storefront.Shop

/-!
# The ledger of a shop

Whatever a shop does is an operation: it places an order, asks a collaborator, or announces an
order, with a span of its own and on behalf of a context. `Books.Performs` says what a shop shows of
operations that were started and finished between two moments: the calls that were heard, the spans,
the failures that were counted, and what was sent. `Balanced` says where operations come from and
what becomes of them: each is started because it was owed, and each that was started is finished or
still waits. `Books.Goes` is both together; stretches of work follow one another by
`Books.Goes.trans`.
-/

namespace Storefront

/-- What an operation is about: an order is placed, something is asked of a collaborator, or a
message about an order is published. -/
inductive Matter where
  | place (request : OrderRequest)
  | ask (request : Request)
  | announce (order : Order) (message : Message)

namespace Matter

/-- The name of the span of an operation. -/
def spanName (topic : String) : Matter → String
  | place _ => "PlaceOrder"
  | ask request => request.service ++ "/" ++ request.method
  | announce .. => topic ++ " publish"

/-- The role of the span of an operation. -/
def spanKind : Matter → SpanKind
  | place _ => .server
  | ask _ => .client
  | announce .. => .producer

end Matter

/-- What is owed on behalf of a context. -/
inductive Duty where
  | place (origin : Context) (request : OrderRequest)
  | ask (origin : Context) (request : Request)
  | announce (origin : Context) (order : Order)

/-- On whose behalf something is owed. -/
def Duty.origin : Duty → Context
  | place origin _ | ask origin _ | announce origin _ => origin

/-- An operation: on whose behalf it is, its span at the start, what it is about, and what
interrupts it, if it is a call and its answer does not come first. -/
structure Operation where
  origin : Context
  span : Span
  matter : Matter
  interruption : Option Interruption

namespace Operation

/-- The duty that an operation is to fulfil. -/
def duty (op : Operation) : Duty :=
  match op.matter with
  | .place request => .place op.origin request
  | .ask request => .ask op.origin request
  | .announce order _ => .announce op.origin order

/-- A duty is fulfilled on behalf of its own origin. -/
theorem origin_duty (op : Operation) : op.duty.origin = op.origin := by
  unfold duty
  cases op.matter <;> rfl

/-- The context with which an operation travels. -/
def context (op : Operation) : Context :=
  op.origin.withParent op.span.context

end Operation

/-- How an operation went. -/
inductive Outcome where
  | placed (request : OrderRequest) (result : Except PlacementError Order)
  | asked (call : Call)
  | announced (order : Order) (message : Message) (receipt : Except BestEffortError Receipt)

/-- What has interrupted a call. -/
def Call.interruption? (call : Call) : Option Interruption :=
  match call.answer with
  | .error (.interrupted reason) => some reason
  | _ => none

/-- A call is interrupted if something has interrupted it. -/
theorem Call.isInterrupted_eq (call : Call) : call.isInterrupted = call.interruption?.isSome := by
  obtain ⟨request, answer⟩ := call
  match answer with
  | .ok _ => rfl
  | .error (.interrupted _) => rfl
  | .error (.transport _) => rfl

namespace Outcome

/-- What the operation was about. -/
def matter : Outcome → Matter
  | placed request _ => .place request
  | asked call => .ask call.request
  | announced order message _ => .announce order message

/-- What has interrupted the operation, if it was a call. -/
def interruption? : Outcome → Option Interruption
  | asked call => call.interruption?
  | placed .. | announced .. => none

/-- The operation failed. -/
def failed : Outcome → Bool
  | placed _ result => !result.isOk
  | asked call => !call.succeeded
  | announced _ _ receipt => !receipt.isOk

end Outcome

/-- An operation that was started, and what was heard of it. -/
structure Started where
  operation : Operation
  heard : Option CallRecord

/-- An operation that is over: how it went, and its span at the end. -/
structure Finished where
  origin : Context
  span : Span
  outcome : Outcome
  last : Span

/-- The confirmation that a call has delivered. -/
def Call.confirmed? : Call → Option Confirmation
  | ⟨.confirm confirmation, .ok _⟩ => some confirmation
  | _ => none

/-- The step whose failure is counted, if the call was one of the background. -/
def Call.setback? : Call → Option Step
  | ⟨.confirm _, .error _⟩ => some .sendConfirmation
  | _ => none

namespace Finished

/-- The operation that is over. -/
def operation (f : Finished) : Operation :=
  ⟨f.origin, f.span, f.outcome.matter, f.outcome.interruption?⟩

/-- The record of the span. -/
def record? (f : Finished) : Option SpanRecord :=
  f.last.record?

/-- How the operation went, if someone waits to be told. Nobody waits for what the background
does. -/
def reported? (f : Finished) : Option Outcome :=
  match f.outcome with
  | .placed request result => some (.placed request result)
  | .asked call => if call.request.step = .sendConfirmation then none else some (.asked call)
  | .announced .. => none

/-- The confirmation that was delivered. -/
def confirmed? (f : Finished) : Option Confirmation :=
  match f.outcome with
  | .asked call => call.confirmed?
  | .placed .. | .announced .. => none

/-- The message that was delivered. -/
def delivered? (f : Finished) : Option Message :=
  match f.outcome with
  | .announced _ message (.ok _) => some message
  | _ => none

/-- The step whose failure is counted. -/
def setback? (f : Finished) : Option Step :=
  match f.outcome with
  | .asked call => call.setback?
  | .announced _ _ (.error _) => some .publishEvent
  | .placed .. | .announced _ _ (.ok _) => none

end Finished

/-- The message is about the order and goes to the topic. -/
structure Message.Announces (message : Message) (topic : String) (order : Order) : Prop where
  topic_eq : message.topic = topic
  key_eq : message.key = order.id.text
  payload : ∃ time, Decoder.document PlacedEvent.decoder message.payload = .ok ⟨order, time⟩

/-- An operation that was started has a span of its own, and its context is what arrives. -/
structure Started.IsSound (topic : String) (s : Started) : Prop where
  /-- The span is at its start, under that of the origin. -/
  begins : s.operation.span.Begins (s.operation.matter.spanName topic)
    s.operation.matter.spanKind s.operation.origin.parent
  /-- Whoever hears of a request hears whose it is. -/
  heard : ∀ record ∈ s.heard, ∃ request, s.operation.matter = .ask request ∧
    record.service = request.service ∧ record.method = request.method ∧
    s.operation.context.Arrives record.context
  /-- A message is about the order, and its headers say whose it is. -/
  message : ∀ order message, s.operation.matter = .announce order message →
    message.Announces topic order ∧ s.operation.context.Arrives (extract message.headers)

/-- `s.IsHeard hears` says that a request is heard only where someone is there to hear of it, and is
heard there unless it is interrupted. -/
def Started.IsHeard (hears : Request → Bool) (s : Started) : Prop :=
  ∀ request, s.operation.matter = .ask request →
    (s.heard.isSome = true → hears request = true) ∧
      (s.operation.interruption = none → s.heard.isSome = hears request)

/-- The log with one more record, if it records anything. -/
def CallLog.entered (log : CallLog) (record : CallRecord) : CallLog :=
  if log.capacity = some 0 then log else log.push record

/-- A log that records anything counts every record. -/
theorem CallLog.total_foldl_entered {log : CallLog} (h : log.capacity ≠ some 0)
    (records : List CallRecord) :
    (records.foldl entered log).total = log.total + records.length := by
  induction records generalizing log with
  | nil => rfl
  | cons record rest ih =>
      have hentered : log.entered record = log.push record := if_neg h
      have hrest : (rest.foldl entered (log.push record)).total = log.total + 1 + rest.length :=
        ih h
      rw [List.foldl_cons, hentered, hrest, List.length_cons]
      omega

/-- What is on record about a shop and its operations. -/
structure Books where
  settings : FollowUpSettings
  announces : Bool
  collaborators : Collaborators
  calls : CallLog
  spans : List SpanRecord
  metrics : Metrics

/-- What is on record about a shop. -/
def Shop.books (shop : Shop) : Books :=
  ⟨shop.settings, shop.announces, shop.collaborators, shop.calls, shop.spans, shop.metrics⟩

/-- What is taken of a single element. -/
theorem filterMap_singleton {α β : Type} (f : α → Option β) (x : α) :
    [x].filterMap f = (f x).toList := by
  rw [List.filterMap_cons, List.filterMap_nil]
  cases f x <;> rfl

/-- A failure that is counted is counted under its step. -/
theorem Metrics.count_stepFailed (m : Metrics) (failed step : Step) :
    List.count (.stepFailed step) (.stepFailed failed :: m) =
      m.count (.stepFailed step) + [failed].count step := by
  by_cases h : failed = step
  · rw [h, List.count_cons_self, List.count_cons_self, List.count_nil]
  · have hne : Measurement.stepFailed failed ≠ .stepFailed step := fun heq ↦
      h (Measurement.stepFailed.inj heq)
    rw [List.count_cons_of_ne hne, List.count_cons_of_ne h, List.count_nil, Nat.add_zero]

namespace Books

/-- `b.Performs fixed started finished later` says that between two moments these operations were
started and those were finished, each in this order, and what is on record of them; and that those
who hear of requests are the same all the time, if they are `fixed`. -/
structure Performs (fixed : Prop) (b : Books) (started : List Started) (finished : List Finished)
    (later : Books) : Prop where
  settings_eq : later.settings = b.settings
  announces_eq : later.announces = b.announces
  hears_eq : fixed → later.collaborators.hears = b.collaborators.hears
  /-- What was heard is in the log of calls. -/
  calls_eq : later.calls = (started.filterMap Started.heard).foldl CallLog.entered b.calls
  /-- What the spans have recorded is kept when they are finished. -/
  spans_eq : later.spans = b.spans ++ finished.filterMap Finished.record?
  /-- Failures in the background are counted. -/
  count_eq : ∀ step, step ≠ .emptyCart → later.metrics.count (.stepFailed step) =
    b.metrics.count (.stepFailed step) + (finished.filterMap Finished.setback?).count step
  started_sound : ∀ s ∈ started, s.IsSound b.settings.topic
  /-- Nothing is missed of what there is to hear. -/
  started_heard : fixed → ∀ s ∈ started, s.IsHeard b.collaborators.hears
  finished_sound : ∀ f ∈ finished, f.span.EndsAs f.outcome.failed f.last
  /-- Collaborators that answer for themselves keep what was delivered. -/
  outbox : b.collaborators.scripted = .none → later.collaborators.scripted = .none ∧
    later.collaborators.mail.sent =
      (finished.filterMap Finished.confirmed?).foldl RetainedLog.push
        b.collaborators.mail.sent ∧
    later.collaborators.broker.messages =
      (finished.filterMap Finished.delivered?).foldl RetainedLog.push
        b.collaborators.broker.messages

namespace Performs

variable {fixed : Prop} {b later last : Books} {started more : List Started}
  {finished further : List Finished}

/-- At one moment nothing is performed. -/
theorem refl (b : Books) : b.Performs fixed [] [] b where
  settings_eq := rfl
  announces_eq := rfl
  hears_eq _ := rfl
  calls_eq := rfl
  spans_eq := (List.append_nil _).symm
  count_eq _ _ := by rw [List.filterMap_nil, List.count_nil, Nat.add_zero]
  started_sound _ h := absurd h List.not_mem_nil
  started_heard _ _ h := absurd h List.not_mem_nil
  finished_sound _ h := absurd h List.not_mem_nil
  outbox h := ⟨h, rfl, rfl⟩

/-- What is performed in two stretches is performed in one. -/
theorem trans (hfirst : b.Performs fixed started finished later)
    (hsecond : later.Performs fixed more further last) :
    b.Performs fixed (started ++ more) (finished ++ further) last where
  settings_eq := hsecond.settings_eq.trans hfirst.settings_eq
  announces_eq := hsecond.announces_eq.trans hfirst.announces_eq
  hears_eq h := (hsecond.hears_eq h).trans (hfirst.hears_eq h)
  calls_eq := by
    rw [hsecond.calls_eq, hfirst.calls_eq, List.filterMap_append, List.foldl_append]
  spans_eq := by
    rw [hsecond.spans_eq, hfirst.spans_eq, List.filterMap_append, List.append_assoc]
  count_eq step hstep := by
    rw [hsecond.count_eq step hstep, hfirst.count_eq step hstep, List.filterMap_append,
      List.count_append, Nat.add_assoc]
  started_sound := by
    have hmore := hsecond.started_sound
    rw [hfirst.settings_eq] at hmore
    rw [List.forall_mem_append]
    exact ⟨hfirst.started_sound, hmore⟩
  started_heard h := by
    have hmore := hsecond.started_heard h
    rw [hfirst.hears_eq h] at hmore
    rw [List.forall_mem_append]
    exact ⟨hfirst.started_heard h, hmore⟩
  finished_sound := by
    rw [List.forall_mem_append]
    exact ⟨hfirst.finished_sound, hsecond.finished_sound⟩
  outbox h := by
    obtain ⟨hscripted, hsent, hmessages⟩ := hfirst.outbox h
    obtain ⟨hscripted', hsent', hmessages'⟩ := hsecond.outbox hscripted
    refine ⟨hscripted', ?_, ?_⟩
    · rw [hsent', hsent, List.filterMap_append, List.foldl_append]
    · rw [hmessages', hmessages, List.filterMap_append, List.foldl_append]

/-- An operation is finished when its span, its failure if it failed, and what it delivered are on
record. -/
theorem of_finished {f : Finished} (hends : f.span.EndsAs f.outcome.failed f.last)
    (hlater : later = { b with
      collaborators := later.collaborators
      spans := b.spans ++ f.record?.toList
      metrics := later.metrics })
    (hhears : later.collaborators.hears = b.collaborators.hears)
    (hcount : ∀ step, step ≠ .emptyCart → later.metrics.count (.stepFailed step) =
      b.metrics.count (.stepFailed step) + f.setback?.toList.count step)
    (houtbox : b.collaborators.scripted = .none → later.collaborators.scripted = .none ∧
      later.collaborators.mail.sent =
        f.confirmed?.toList.foldl RetainedLog.push b.collaborators.mail.sent ∧
      later.collaborators.broker.messages =
        f.delivered?.toList.foldl RetainedLog.push b.collaborators.broker.messages) :
    b.Performs fixed [] [f] later where
  settings_eq := (congrArg Books.settings hlater :)
  announces_eq := (congrArg Books.announces hlater :)
  hears_eq _ := hhears
  calls_eq := (congrArg Books.calls hlater :)
  spans_eq := by
    rw [filterMap_singleton]
    exact (congrArg Books.spans hlater :)
  count_eq := by
    rw [filterMap_singleton]
    exact hcount
  started_sound _ h := absurd h List.not_mem_nil
  started_heard _ _ h := absurd h List.not_mem_nil
  finished_sound := by
    rw [List.forall_mem_singleton]
    exact hends
  outbox := by
    rw [filterMap_singleton, filterMap_singleton]
    exact houtbox

/-- A measurement that counts no failure in the background is no operation. -/
theorem measured (b : Books) {m : Measurement}
    (h : ∀ step, step ≠ .emptyCart → m ≠ .stepFailed step) :
    b.Performs fixed [] [] { b with metrics := m :: b.metrics } :=
  { refl b with
    count_eq := fun step hstep ↦ List.count_cons_of_ne (h step hstep) }

end Performs

end Books

/-- What is still to be done: duties for which nothing was started, and operations that wait. -/
abbrev Load := Multiset Duty × Multiset Operation

/-- Duties that are owed together. -/
theorem owed_add_owed (d e : Multiset Duty) : ((d, 0) + (e, 0) : Load) = (d + e, 0) := by
  rw [Prod.mk_add_mk, add_zero]

/-- `Balanced load started finished left` says that what was started was owed before and is not owed
after, and that what was finished waited before or was started, and waits no more. -/
def Balanced (load : Load) (started : List Started) (finished : List Finished) (left : Load) :
    Prop :=
  load.1 = ↑(started.map fun s ↦ s.operation.duty) + left.1 ∧
    ↑(started.map Started.operation) + load.2 = ↑(finished.map Finished.operation) + left.2

namespace Balanced

variable {load left rest : Load} {started more : List Started} {finished further : List Finished}

/-- Where nothing is done everything is left. -/
theorem refl (load : Load) : Balanced load [] [] load :=
  ⟨(zero_add _).symm, rfl⟩

/-- What is left of a first stretch is what the second one starts from. -/
theorem trans (hfirst : Balanced load started finished left)
    (hsecond : Balanced left more further rest) :
    Balanced load (started ++ more) (finished ++ further) rest := by
  obtain ⟨howed, hwaiting⟩ := hfirst
  obtain ⟨howed', hwaiting'⟩ := hsecond
  refine ⟨?_, ?_⟩
  · rw [howed, howed', List.map_append, ← Multiset.coe_add, add_assoc]
  · rw [List.map_append, List.map_append, ← Multiset.coe_add, ← Multiset.coe_add]
    calc
      _ = ↑(more.map Started.operation) + (↑(started.map Started.operation) + load.2) := by ac_rfl
      _ = ↑(finished.map Finished.operation) + (↑(more.map Started.operation) + left.2) := by
        rw [hwaiting]
        ac_rfl
      _ = _ := by rw [hwaiting', add_assoc]

/-- What is to be done besides is left. -/
theorem frame (h : Balanced load started finished left) (extra : Load) :
    Balanced (load + extra) started finished (left + extra) := by
  obtain ⟨howed, hwaiting⟩ := h
  refine ⟨?_, ?_⟩
  · rw [Prod.fst_add, Prod.fst_add, howed, add_assoc]
  · rw [Prod.snd_add, Prod.snd_add, ← add_assoc, hwaiting, add_assoc]

/-- Where nothing waited and nothing is left, what was started is what was finished, and it was
owed. -/
theorem perm_of_zero {owed : Multiset Duty} (h : Balanced (owed, 0) started finished 0) :
    (started.map Started.operation).Perm (finished.map Finished.operation) ∧
      ↑(finished.map fun f ↦ f.operation.duty) = owed := by
  obtain ⟨howed, hwaiting⟩ := h
  rw [Prod.snd_zero, add_zero, add_zero] at hwaiting
  rw [Prod.fst_zero, add_zero] at howed
  have hperm := Multiset.coe_eq_coe.mp hwaiting
  have hduties := hperm.map Operation.duty
  rw [List.map_map, List.map_map] at hduties
  exact ⟨hperm, (Multiset.coe_eq_coe.mpr hduties.symm).trans howed.symm⟩

/-- Where there was nothing to be done nothing is done. -/
theorem eq_nil_of_zero (h : Balanced 0 started finished 0) : started = [] ∧ finished = [] := by
  obtain ⟨hperm, hduties⟩ := perm_of_zero h
  obtain rfl := List.map_eq_nil_iff.mp (Multiset.coe_eq_zero _ |>.mp hduties)
  exact ⟨List.map_eq_nil_iff.mp hperm.eq_nil, rfl⟩

end Balanced

namespace Books

/-- `b.Goes fixed load reports later left` says that a stretch of work takes one load to another,
what is reported of it to those who wait, and whether those who hear of requests are the same. -/
def Goes (fixed : Prop) (b : Books) (load : Load) (reports : List Outcome) (later : Books)
    (left : Load) : Prop :=
  ∃ started finished, b.Performs fixed started finished later ∧
    Balanced load started finished left ∧ finished.filterMap Finished.reported? = reports

namespace Goes

variable {fixed : Prop} {b later last : Books} {load left rest : Load}
  {reports more : List Outcome}

/-- At one moment nothing is done. -/
theorem refl (b : Books) (load : Load) : b.Goes fixed load [] b load :=
  ⟨[], [], .refl b, .refl load, rfl⟩

/-- Two stretches of work make up one. -/
theorem trans (hfirst : b.Goes fixed load reports later left)
    (hsecond : later.Goes fixed left more last rest) :
    b.Goes fixed load (reports ++ more) last rest := by
  obtain ⟨started, finished, hperforms, hbalanced, rfl⟩ := hfirst
  obtain ⟨started', finished', hperforms', hbalanced', rfl⟩ := hsecond
  exact ⟨_, _, hperforms.trans hperforms', hbalanced.trans hbalanced', List.filterMap_append⟩

/-- A stretch of work of which nothing is reported before another one. -/
theorem trans_quiet (hfirst : b.Goes fixed load [] later left)
    (hsecond : later.Goes fixed left reports last rest) : b.Goes fixed load reports last rest :=
  hfirst.trans hsecond

/-- What is to be done besides is left. -/
theorem frame (h : b.Goes fixed load reports later left) (extra : Load) :
    b.Goes fixed (load + extra) reports later (left + extra) := by
  obtain ⟨started, finished, hperforms, hbalanced, hreports⟩ := h
  exact ⟨started, finished, hperforms, hbalanced.frame extra, hreports⟩

/-- What is on record but no operation may be added. -/
theorem of_performs (h : b.Performs fixed [] [] later) (load : Load) :
    b.Goes fixed load [] later load :=
  ⟨[], [], h, .refl load, rfl⟩

/-- Where nothing comes to be owed, what is on record but no operation may be added. -/
theorem of_idle (h : b.Performs fixed [] [] later) {d : Multiset Duty} (hidle : d = 0)
    (load : Load) : b.Goes fixed (load + (d, 0)) [] later load := by
  rw [hidle, ← Prod.zero_eq_mk, add_zero]
  exact of_performs h load

/-- No work announces orders that were not announced before. -/
theorem announces_eq (h : b.Goes fixed load reports later left) :
    later.announces = b.announces := by
  obtain ⟨_, _, hperforms, -, -⟩ := h
  exact hperforms.announces_eq

end Goes

end Books

/-- Elements whose images are given in two parts can be sorted into two parts. -/
theorem exists_perm_append {α β : Type} {f : α → β} {xs : List α} {first rest : Multiset β}
    (h : ↑(xs.map f) = first + rest) :
    ∃ ys zs, xs.Perm (ys ++ zs) ∧ ↑(ys.map f) = first ∧ ↑(zs.map f) = rest := by
  have himage : ∀ {s : Multiset α} {t : Multiset β},
      Multiset.Rel (fun x y ↦ f x = y) s t ↔ s.map f = t := fun {s t} ↦ by
    rw [← Multiset.rel_eq, Multiset.rel_map_left]
  rw [← Multiset.map_coe, ← himage, Multiset.rel_add_right] at h
  obtain ⟨s, t, hs, ht, hxs⟩ := h
  obtain ⟨ys, rfl⟩ := Quot.exists_rep s
  obtain ⟨zs, rfl⟩ := Quot.exists_rep t
  exact ⟨ys, zs, Multiset.coe_eq_coe.mp hxs, himage.mp hs, himage.mp ht⟩

/-- Elements whose images are given in parts can be sorted into parts. -/
theorem exists_perm_flatten {α β : Type} {f : α → β} {xs : List α} {parts : List (Multiset β)}
    (h : ↑(xs.map f) = parts.sum) :
    ∃ xss : List (List α), xs.Perm xss.flatten ∧
      List.Forall₂ (fun part ys ↦ ↑(ys.map f) = part) parts xss := by
  induction parts generalizing xs with
  | nil =>
      have hnil : xs.map f = [] := Multiset.coe_eq_zero _ |>.mp h
      rw [List.map_eq_nil_iff] at hnil
      exact ⟨[], by rw [hnil]; rfl, .nil⟩
  | cons part parts ih =>
      rw [List.sum_cons] at h
      obtain ⟨ys, zs, hperm, hys, hzs⟩ := exists_perm_append h
      obtain ⟨zss, hzss, hparts⟩ := ih hzs
      exact ⟨ys :: zss, hperm.trans (hzss.append_left ys), .cons hys hparts⟩

/-- What is done for two loads together, until nothing is left, can be sorted into what is done for
the one and for the other. -/
theorem Balanced.exists_split {load other : Load} {started : List Started}
    {finished : List Finished} (h : Balanced (load + other) started finished 0) :
    ∃ begun further ended closed, started.Perm (begun ++ further) ∧
      finished.Perm (ended ++ closed) ∧ Balanced load begun ended 0 ∧
      Balanced other further closed 0 := by
  obtain ⟨howed, hwaiting⟩ := h
  rw [Prod.fst_add, Prod.fst_zero, add_zero] at howed
  obtain ⟨begun, further, hstarted, hbegun, hfurther⟩ := exists_perm_append howed.symm
  have hoperations : ↑(started.map Started.operation) =
      (↑(begun.map Started.operation) + ↑(further.map Started.operation) : Multiset Operation) := by
    rw [Multiset.coe_add, ← List.map_append]
    exact Multiset.coe_eq_coe.mpr (hstarted.map _)
  rw [Prod.snd_add, Prod.snd_zero, add_zero, hoperations, add_add_add_comm] at hwaiting
  obtain ⟨ended, closed, hfinished, hended, hclosed⟩ := exists_perm_append hwaiting.symm
  exact ⟨begun, further, ended, closed, hstarted, hfinished,
    ⟨hbegun.symm.trans (add_zero _).symm, hended.symm.trans (add_zero _).symm⟩,
    ⟨hfurther.symm.trans (add_zero _).symm, hclosed.symm.trans (add_zero _).symm⟩⟩

end Storefront
