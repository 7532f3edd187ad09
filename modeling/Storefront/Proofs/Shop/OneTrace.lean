import Storefront.Proofs.Shop.History

/-!
# An order stays in one trace

Everything that is done for an order is done under its server span, and that span is a child of the
inbound parent if there is a valid one. `place_stays_in_trace` says so of an order that comes to a
result, when the background has come to rest: what is heard of each call, of the confirmation, and
of each announcement carries the place of that operation's own span in the trace of the server span;
the spans that are recorded are the server span and one for each operation, a child of the server
span; and a span is marked as an error exactly if its own work failed. A call that is answered is
heard wherever someone is there to hear of it, so nothing of it is missing on record. Tasks of
earlier orders may still be pending when the order is placed, so what is done for these is told
apart.
-/

namespace Storefront

/-- What is received names a place as its remote parent, and has the baggage but for an entry under
the empty key. -/
structure Context.Carries (received : Context) (place : SpanContext) (baggage : Baggage) :
    Prop where
  parent : ∃ q, received.parent = some q ∧ q.isRemote = true ∧ q.traceId = place.traceId ∧
    q.spanId = place.spanId ∧ q.isSampled = place.isSampled
  baggage : received.baggage = baggage.erase ""

/-- What arrives of a context under a valid place carries that place. -/
theorem Context.Arrives.carries {origin received : Context} {place : SpanContext}
    (h : (origin.withParent place).Arrives received) (hvalid : place.isValid = true) :
    received.Carries place origin.baggage :=
  ⟨h.parent place rfl hvalid, h.baggage⟩

/-- An operation from its start to its end. -/
structure Job where
  started : Started
  finished : Finished
  same : finished.operation = started.operation

namespace Job

/-- What the operation is about. -/
def matter (j : Job) : Matter :=
  j.started.operation.matter

/-- The duty that the operation was to fulfil. -/
def duty (j : Job) : Duty :=
  j.started.operation.duty

/-- The place of the span of the operation. -/
def place (j : Job) : SpanContext :=
  j.started.operation.span.context

/-- `j.BelongsTo server topic baggage hears` says that an operation was done under a server span and
on behalf of its baggage, where some requests are heard. -/
structure BelongsTo (j : Job) (server : SpanContext) (topic : String) (baggage : Baggage)
    (hears : Request → Bool) : Prop where
  /-- The span has a number of its own. -/
  spanId_ne_zero : j.place.spanId ≠ 0
  /-- The span is in the trace of the server span. -/
  traceId_eq : j.place.traceId = server.traceId
  /-- The span is as much recorded as the server span. -/
  isSampled_eq : j.place.isSampled = server.isSampled
  /-- Who hears of a request hears the place of that very span. -/
  heard : ∀ record ∈ j.started.heard, ∃ request, j.matter = .ask request ∧
    hears request = true ∧ record.service = request.service ∧ record.method = request.method ∧
    record.context.Carries j.place baggage
  /-- A request that is answered was heard if someone was there. -/
  isSome_heard : ∀ call, j.finished.outcome = .asked call → call.isInterrupted = false →
    j.started.heard.isSome = hears call.request
  /-- Who reads a message about an order reads the place of that very span, too. -/
  message : ∀ order message, j.matter = .announce order message →
    message.Announces topic order ∧ (extract message.headers).Carries j.place baggage
  /-- The operation is recorded if the server span is. -/
  isSome_record : j.finished.record?.isSome = server.isSampled
  /-- The record is that of a child of the server span, and an error exactly if the operation
  failed. -/
  record : ∀ r ∈ j.finished.record?, r.name = j.matter.spanName topic ∧
    r.kind = j.matter.spanKind ∧ r.context = j.place ∧ r.parent = some server.spanId ∧
    r.status.isError = j.finished.outcome.failed

/-- An operation on behalf of a server span belongs to it. -/
theorem belongsTo {j : Job} {context : Context} {server : SpanContext} {topic : String}
    {hears : Request → Bool} (horigin : j.duty.origin = context.withParent server)
    (hvalid : server.isValid = true)
    (hstarted : j.started.IsSound topic) (hheard : j.started.IsHeard hears)
    (hends : j.finished.span.EndsAs j.finished.outcome.failed j.finished.last) :
    j.BelongsTo server topic context.baggage hears := by
  have horigin : j.started.operation.origin = context.withParent server :=
    j.started.operation.origin_duty.symm.trans horigin
  have hspan : j.finished.span = j.started.operation.span := congrArg Operation.span j.same
  have hbegins := hstarted.begins
  rw [horigin] at hbegins
  obtain ⟨htrace, hsampled⟩ := hbegins.follows server rfl hvalid
  obtain ⟨-, hspanId⟩ := SpanContext.isValid_iff.mp hbegins.isValid
  rw [hspan] at hends
  obtain ⟨hrecorded, hrecord⟩ := hbegins.of_endsAs hends
  -- What arrives of the context of the operation carries the place of its span.
  have hcarries : ∀ {received : Context}, j.started.operation.context.Arrives received →
      received.Carries j.place context.baggage := by
    intro received harrives
    rw [Operation.context, horigin] at harrives
    have hcarried : received.Carries j.place (context.withParent server).baggage :=
      harrives.carries hbegins.isValid
    exact hcarried
  refine ⟨hspanId, htrace, hsampled, ?_, ?_, ?_, hrecorded.trans hsampled, ?_⟩
  · intro record hmem
    obtain ⟨request, hmatter, hservice, hmethod, harrives⟩ := hstarted.heard record hmem
    have hthere := (hheard request hmatter).1 (Option.isSome_of_mem hmem)
    exact ⟨request, hmatter, hthere, hservice, hmethod, hcarries harrives⟩
  · intro call houtcome hanswered
    -- What the end of the operation tells was fixed at its start.
    have hmatter : j.started.operation.matter = .ask call.request := by
      rw [← j.same, Finished.operation, houtcome]
      rfl
    have huninterrupted : j.started.operation.interruption = none := by
      rw [call.isInterrupted_eq] at hanswered
      rw [← j.same, Finished.operation, houtcome]
      exact Option.isNone_iff_eq_none.mp (Option.isSome_eq_false_iff.mp hanswered)
    exact (hheard call.request hmatter).2 huninterrupted
  · intro order message hmatter
    obtain ⟨hannounces, harrives⟩ := hstarted.message order message hmatter
    exact ⟨hannounces, hcarries harrives⟩
  · intro r hr
    obtain ⟨hname, hkind, hcontext, hparent, herror⟩ := hrecord r hr
    rw [Context.withParent, Option.filter_some_pos hvalid] at hparent
    exact ⟨hname, hkind, hcontext, hparent, herror⟩

/-- Operations that were started and are over are jobs. -/
theorem exists_of_perm {started : List Started} {finished : List Finished}
    (h : (started.map Started.operation).Perm (finished.map Finished.operation)) :
    ∃ jobs : List Job, jobs.map Job.started = started ∧ (jobs.map Job.finished).Perm finished := by
  have hends : List.Forall₂ (fun op (f : Finished) ↦ f.operation = op)
      (finished.map Finished.operation) finished := by
    rw [List.forall₂_map_left_iff]
    exact List.forall₂_same.mpr fun _ _ ↦ rfl
  obtain ⟨sorted, hsorted, hperm⟩ := List.perm_comp_forall₂ h hends
  rw [List.forall₂_map_left_iff] at hsorted
  suffices ∃ jobs : List Job, jobs.map Job.started = started ∧ jobs.map Job.finished = sorted by
    obtain ⟨jobs, hstarted, hfinished⟩ := this
    exact ⟨jobs, hstarted, hfinished ▸ hperm⟩
  clear hperm hends h
  induction hsorted with
  | nil => exact ⟨[], rfl, rfl⟩
  | @cons s f _ _ hsame _ ih =>
      obtain ⟨jobs, rfl, rfl⟩ := ih
      exact ⟨⟨s, f, hsame⟩ :: jobs, rfl, rfl⟩

end Job

/-- What is owed is done in the background, and nobody waits to be told of it. -/
def Duty.IsQuiet : Duty → Prop
  | place .. => False
  | ask _ request => request.step = .sendConfirmation
  | announce .. => True

/-- Nothing is reported of what is done in the background. -/
theorem Finished.reported?_eq_none {f : Finished} (h : f.operation.duty.IsQuiet) :
    f.reported? = none := by
  obtain ⟨origin, span, outcome, last⟩ := f
  cases outcome with
  | placed request result => exact h.elim
  | asked call => exact if_pos h
  | announced order message receipt => rfl

/-- What is still to be done for tasks is done in the background. -/
theorem isQuiet_loadOf (tasks : List Task) :
    (∀ d ∈ (loadOf tasks).1, d.IsQuiet) ∧ ∀ op ∈ (loadOf tasks).2, op.duty.IsQuiet := by
  have htask : ∀ task : Task,
      (∀ d ∈ task.load.1, d.IsQuiet) ∧ ∀ op ∈ task.load.2, op.duty.IsQuiet := by
    intro task
    match task with
    | .confirmation caller c none => simp [Task.load, Duty.IsQuiet, Request.step]
    | .confirmation caller c (some sent) =>
        simp [Task.load, Duty.IsQuiet, Request.step, Operation.duty]
    | .announcement caller order copies none =>
        simp +contextual [Task.load, Duty.IsQuiet, Multiset.mem_replicate]
    | .announcement caller order copies (some sent) =>
        simp +contextual [Task.load, Duty.IsQuiet, Multiset.mem_replicate, Operation.duty]
  induction tasks with
  | nil => exact ⟨fun _ h ↦ absurd h (Multiset.notMem_zero _),
      fun _ h ↦ absurd h (Multiset.notMem_zero _)⟩
  | cons task rest ih =>
      obtain ⟨hduties, hoperations⟩ := htask task
      rw [loadOf_cons]
      refine ⟨fun d hd ↦ ?_, fun op hop ↦ ?_⟩
      · exact (Multiset.mem_add.mp hd).elim (hduties d) (ih.1 d)
      · exact (Multiset.mem_add.mp hop).elim (hoperations op) (ih.2 op)

/-- Nothing is reported of what is done for tasks. -/
theorem reports_of_balanced {tasks : List Task} {started : List Started} {finished : List Finished}
    (h : Balanced (loadOf tasks) started finished 0) :
    finished.filterMap Finished.reported? = [] := by
  obtain ⟨howed, hwaiting⟩ := h
  obtain ⟨hduties, hoperations⟩ := isQuiet_loadOf tasks
  rw [Prod.fst_zero, add_zero] at howed
  rw [Prod.snd_zero, add_zero] at hwaiting
  refine List.filterMap_eq_nil_iff.mpr fun f hf ↦ Finished.reported?_eq_none ?_
  have hmem : f.operation ∈ (↑(started.map Started.operation) + (loadOf tasks).2) := by
    rw [hwaiting]
    exact Multiset.mem_coe.mpr (List.mem_map_of_mem hf)
  -- The operation was owed or under way.
  rcases Multiset.mem_add.mp hmem with hstarted | hunderway
  · obtain ⟨s, hs, hsame⟩ := List.mem_map.mp (Multiset.mem_coe.mp hstarted)
    rw [← hsame]
    refine hduties _ ?_
    rw [howed]
    exact Multiset.mem_coe.mpr (List.mem_map_of_mem hs)
  · exact hoperations _ hunderway

/-- What is done on behalf of an order is done under one context. -/
theorem origin_of_mem_orderDuties {announces : Bool} {extra : Nat} {origin : Context}
    {request : OrderRequest} {calls : List Call} {result : Except PlacementError Order} {d : Duty}
    (h : d ∈ orderDuties announces extra origin request calls result) : d.origin = origin := by
  rcases Multiset.mem_add.mp h with hcall | hfollows
  · obtain ⟨call, -, rfl⟩ := List.mem_map.mp (Multiset.mem_coe.mp hcall)
    rfl
  · cases result with
    | error error => exact absurd hfollows (Multiset.notMem_zero d)
    | ok order =>
        rcases Multiset.mem_add.mp hfollows with hconfirm | hannounce
        · split at hconfirm
          · exact absurd hconfirm (Multiset.notMem_zero d)
          · rw [Multiset.mem_singleton.mp hconfirm]
            rfl
        · split at hannounce
          · rw [Multiset.eq_of_mem_replicate hannounce]
            rfl
          · exact absurd hannounce (Multiset.notMem_zero d)

/-- The trace of an order: the server span at its start and at its end, and what was done under
it. -/
structure OrderTrace where
  server : Span
  last : Span
  jobs : List Job

namespace OrderTrace

/-- The operations that were finished under the server span, and that of the order itself. -/
def finished (t : OrderTrace) (origin : Context) (request : OrderRequest)
    (result : Except PlacementError Order) : List Finished :=
  ⟨origin, t.server, .placed request result, t.last⟩ :: t.jobs.map Job.finished

/-- The operations that were started under the server span, and that of the order itself. -/
def started (t : OrderTrace) (origin : Context) (request : OrderRequest) : List Started :=
  ⟨⟨origin, t.server, .place request, none⟩, none⟩ :: t.jobs.map Job.started

/-- `t.IsOf shop origin request calls result` says that everything done for an order in a shop is in
the trace of the order. -/
structure IsOf (t : OrderTrace) (shop : Shop) (origin : Context) (request : OrderRequest)
    (calls : List Call) (result : Except PlacementError Order) : Prop where
  /-- The server span is under the inbound parent. -/
  begins : t.server.Begins "PlaceOrder" .server origin.parent
  /-- The server span is recorded if its trace is. -/
  isSome_record : t.last.record?.isSome = t.server.context.isSampled
  /-- The server span is an error exactly if the order was not placed. -/
  record : ∀ r ∈ t.last.record?,
    t.server.Records "PlaceOrder" .server origin.parent (!result.isOk) r
  /-- What was done is what was owed on behalf of the server span: each call, the confirmation, and
  each announcement. -/
  duties : ↑(t.jobs.map Job.duty) = orderDuties shop.announces shop.faults.extra
    (origin.withParent t.server.context) request calls result
  /-- Each call that was needed for the order went as the order was told. -/
  reported : (t.jobs.filterMap fun j ↦ j.finished.reported?).Perm (calls.map Outcome.asked)
  belongs : ∀ j ∈ t.jobs, j.BelongsTo t.server.context shop.settings.topic origin.baggage
    shop.collaborators.hears

end OrderTrace

namespace Shop

variable {shop final : Shop} {caller : Caller} {abandonAt : Option Nat} {request : OrderRequest}
  {result : Except PlacementError Order}

/-- `shop.Shows t started finished later` says that what is on record between two moments is the
trace of an order and what was done for the tasks there were before. -/
structure Shows (shop : Shop) (t : OrderTrace) (started : List Started) (finished : List Finished)
    (later : Shop) : Prop where
  /-- What was owed or under way before is done. -/
  cleared : Balanced (loadOf shop.tasks) started finished 0
  /-- What collaborators have heard is what was heard of these operations. -/
  calls : ∃ heard : List CallRecord,
    heard.Perm ((t.jobs.filterMap fun j ↦ j.started.heard) ++ started.filterMap Started.heard) ∧
    later.calls = heard.foldl CallLog.entered shop.calls
  /-- Nothing that there was to hear for earlier orders is missing. -/
  listened : ∀ s ∈ started, s.IsHeard shop.collaborators.hears
  /-- The spans that were recorded are the server span and one for each operation. -/
  spans : ∃ recorded : List SpanRecord,
    recorded.Perm (t.last.record?.toList ++ (t.jobs.filterMap fun j ↦ j.finished.record?) ++
      finished.filterMap Finished.record?) ∧
    later.spans = shop.spans ++ recorded
  /-- The failures that are counted are those of the background. -/
  setbacks : ∀ step, step ≠ .emptyCart → later.metrics.count (.stepFailed step) =
    shop.metrics.count (.stepFailed step) +
      (t.jobs.filterMap fun j ↦ j.finished.setback?).count step +
      (finished.filterMap Finished.setback?).count step
  /-- Collaborators that answer for themselves have the confirmations that were delivered. -/
  confirmations : shop.collaborators.scripted = .none → ∃ confirmations : List Confirmation,
    confirmations.Perm ((t.jobs.filterMap fun j ↦ j.finished.confirmed?) ++
      finished.filterMap Finished.confirmed?) ∧
    later.collaborators.mail.sent =
      confirmations.foldl RetainedLog.push shop.collaborators.mail.sent
  /-- They have the messages that were delivered, too. -/
  messages : shop.collaborators.scripted = .none → ∃ messages : List Message,
    messages.Perm ((t.jobs.filterMap fun j ↦ j.finished.delivered?) ++
      finished.filterMap Finished.delivered?) ∧
    later.collaborators.broker.messages =
      messages.foldl RetainedLog.push shop.collaborators.broker.messages

section

variable {later : Books} {t : OrderTrace} {all begun : List Started} {closed ended : List Finished}
  {origin : Context}

/-- Operations that were started on behalf of the server span of an order are in its trace. -/
theorem isOf_of_performs {calls : List Call} (h : shop.books.Performs True all closed later)
    (hall : all.Perm (t.started origin request ++ begun))
    (hclosed : closed.Perm (t.finished origin request result ++ ended))
    (hduties : ↑(t.jobs.map Job.duty) = orderDuties shop.announces shop.faults.extra
      (origin.withParent t.server.context) request calls result)
    (hreported : (t.jobs.filterMap fun j ↦ j.finished.reported?).Perm (calls.map Outcome.asked)) :
    t.IsOf shop origin request calls result := by
  have hsound : ∀ s ∈ t.started origin request, s.IsSound shop.settings.topic :=
    fun s hs ↦ h.started_sound s (hall.mem_iff.mpr (List.mem_append_left _ hs))
  have hheard : ∀ s ∈ t.started origin request, s.IsHeard shop.collaborators.hears :=
    fun s hs ↦ h.started_heard trivial s (hall.mem_iff.mpr (List.mem_append_left _ hs))
  have hends : ∀ f ∈ t.finished origin request result, f.span.EndsAs f.outcome.failed f.last :=
    fun f hf ↦ h.finished_sound f (hclosed.mem_iff.mpr (List.mem_append_left _ hf))
  have hbegins := (hsound _ List.mem_cons_self).begins
  obtain ⟨hrecorded, hrecord⟩ := hbegins.of_endsAs (hends _ List.mem_cons_self)
  refine ⟨hbegins, hrecorded, hrecord, hduties, hreported, fun j hj ↦ ?_⟩
  have howed : j.duty ∈ orderDuties shop.announces shop.faults.extra
      (origin.withParent t.server.context) request calls result := by
    rw [← hduties]
    exact Multiset.mem_coe.mpr (List.mem_map_of_mem hj)
  exact Job.belongsTo (origin_of_mem_orderDuties howed) hbegins.isValid
    (hsound _ (List.mem_cons_of_mem _ (List.mem_map_of_mem hj)))
    (hheard _ (List.mem_cons_of_mem _ (List.mem_map_of_mem hj)))
    (hends _ (List.mem_cons_of_mem _ (List.mem_map_of_mem hj)))

/-- Operations in the trace of an order and those for earlier tasks are what is on record. -/
theorem shows_of_performs {later : Shop} (h : shop.books.Performs True all closed later.books)
    (hall : all.Perm (t.started origin request ++ begun))
    (hclosed : closed.Perm (t.finished origin request result ++ ended))
    (hcleared : Balanced (loadOf shop.tasks) begun ended 0) : shop.Shows t begun ended later := by
  -- The operation of the order itself comes first in its trace.
  have hfinished : ∀ {β : Type} (f : Finished → Option β), (closed.filterMap f).Perm
      ((f ⟨origin, t.server, .placed request result, t.last⟩).toList ++
        (t.jobs.filterMap fun j ↦ f j.finished) ++ ended.filterMap f) := by
    intro β f
    refine (hclosed.filterMap f).trans (.of_eq ?_)
    rw [OrderTrace.finished, List.filterMap_append, ← List.singleton_append,
      List.filterMap_append, filterMap_singleton, List.filterMap_map]
    rfl
  have hstarted : (all.filterMap Started.heard).Perm
      ((t.jobs.filterMap fun j ↦ j.started.heard) ++ begun.filterMap Started.heard) := by
    refine (hall.filterMap _).trans (.of_eq ?_)
    rw [OrderTrace.started, List.filterMap_append, List.filterMap_cons_none rfl,
      List.filterMap_map]
    rfl
  have hlistened : ∀ s ∈ begun, s.IsHeard shop.collaborators.hears := fun s hs ↦
    h.started_heard trivial s (hall.mem_iff.mpr (List.mem_append_right _ hs))
  refine ⟨hcleared, ⟨_, hstarted, h.calls_eq⟩, hlistened, ⟨_, hfinished _, h.spans_eq⟩,
    fun step hstep ↦ ?_,
    fun hscripted ↦ ⟨_, hfinished _, (h.outbox hscripted).2.1⟩,
    fun hscripted ↦ ⟨_, hfinished _, (h.outbox hscripted).2.2⟩⟩
  have hcount := h.count_eq step hstep
  rw [(hfinished Finished.setback?).count_eq, List.count_append, ← Nat.add_assoc] at hcount
  exact hcount

end

/-- When an order has come to a result and the background has come to rest, everything that was done
for the order is in one trace, and on record is that trace and what was done for earlier orders. All
tasks of a shop with a history are live, `History.goes`. -/
theorem place_stays_in_trace (hlive : shop.IsLive)
    (h : shop.place caller abandonAt request = (some result, final)) :
    final.drain.2.tasks = [] ∧
    ∃ events t started finished, shop.Places caller abandonAt request events result final ∧
      t.IsOf shop caller.context request (callsOf events) result ∧
      shop.Shows t started finished final.drain.2 := by
  obtain ⟨events, hplaces⟩ := place_eq_some_iff.mp h
  obtain ⟨server, opened, closing, last, hopen, ⟨started, finished, hconverse, hbalanced, hreports⟩,
    hclose, hfinal⟩ := hplaces.exists_stages True
  obtain ⟨started', finished', hdrain, hbalanced', hquiet⟩ := final.drain_goes True
  have hrest := tasks_drain (hfinal hlive)
  refine ⟨hrest, events, ?_⟩
  have hperforms := hopen.trans (hconverse.trans (hclose.trans hdrain))
  -- What is done apart from the operation of the order itself is sorted into what the order gave to
  -- do and what there was before.
  have hdone := hbalanced.trans hbalanced'
  rw [hrest, loadOf_nil] at hdone
  obtain ⟨begun, own, ended, closed, hstarted, hfinished, hbefore, hown⟩ := hdone.exists_split
  obtain ⟨hoperations, -⟩ := hown.perm_of_zero
  obtain ⟨jobs, rfl, hjobs⟩ := Job.exists_of_perm hoperations
  have hall : List.Perm
      (⟨⟨caller.context, server, .place request, none⟩, none⟩ :: (started ++ started'))
      (OrderTrace.started ⟨server, last, jobs⟩ caller.context request ++ begun) :=
    (hstarted.trans List.perm_append_comm).cons _
  have hclosed : List.Perm
      (finished ++ ⟨caller.context, server, .placed request result, last⟩ :: finished')
      (OrderTrace.finished ⟨server, last, jobs⟩ caller.context request result ++ ended) :=
    List.perm_middle.trans
      (((hfinished.trans List.perm_append_comm).trans (hjobs.symm.append_right ended)).cons _)
  refine ⟨⟨server, last, jobs⟩, begun, ended, hplaces,
    isOf_of_performs hperforms hall hclosed ?_ ?_,
    shows_of_performs hperforms hall hclosed hbefore⟩
  · have howed := hown.1
    rw [Prod.fst_zero, add_zero, List.map_map] at howed
    exact howed.symm
  · have hreported := hfinished.filterMap Finished.reported?
    rw [List.filterMap_append, List.filterMap_append, hreports, hquiet, List.append_nil,
      reports_of_balanced hbefore, List.nil_append] at hreported
    have hsorted := hjobs.filterMap Finished.reported?
    rw [List.filterMap_map] at hsorted
    exact hsorted.trans hreported.symm

/-- The demonstration shop with a record of all calls. -/
def recordingShop : Shop :=
  { Demo.start .standard 0 0 with calls := .unbounded }

/-- The demonstration shop places an order that is to be confirmed in one trace. Its seven calls and
the confirmation are heard, each on behalf of its own span. -/
theorem demo_place_stays_in_trace : ∃ order final events t,
    recordingShop.place .background none demoAddressed = (some (.ok order), final) ∧
      final.drain.2.tasks = [] ∧
      OrderTrace.IsOf t recordingShop .empty demoAddressed (callsOf events) (.ok order) ∧
      recordingShop.Shows t [] [] final.drain.2 ∧
      (t.jobs.filterMap fun j ↦ j.started.heard).length = 8 := by
  have htasks : recordingShop.tasks = [] := rfl
  have hplaced :
      (recordingShop.place .background none demoAddressed).1.any Except.isOk = true := rfl
  have hcounted :
      (recordingShop.place .background none demoAddressed).2.drain.2.calls.total = 8 := by
    decide +kernel
  obtain ⟨result, final, hplace⟩ := recordingShop.exists_place .background demoAddressed
  rw [hplace] at hplaced hcounted
  cases result with
  | error => cases hplaced
  | ok order =>
      obtain ⟨hrest, events, t, started, finished, -, htrace, hshows⟩ :=
        place_stays_in_trace (isLive_of_nil htasks) hplace
      have hcleared := hshows.cleared
      rw [htasks, loadOf_nil] at hcleared
      obtain ⟨rfl, rfl⟩ := hcleared.eq_nil_of_zero
      obtain ⟨heard, hperm, hcalls⟩ := hshows.calls
      have hrecords : recordingShop.calls.capacity ≠ some 0 := by decide
      have htotal : recordingShop.calls.total = 0 := rfl
      rw [hcalls, CallLog.total_foldl_entered hrecords, htotal, Nat.zero_add, hperm.length_eq,
        List.filterMap_nil, List.append_nil] at hcounted
      exact ⟨order, final, events, t, hplace, hrest, htrace, hshows, hcounted⟩

end Shop

end Storefront
