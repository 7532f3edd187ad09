import Storefront.Trace.Tracer

/-!
# Where spans belong

A span that is started under a valid parent belongs to the trace of its parent and is recorded if
the parent is; in any case its own numbers are set, `Tracer.start_begins`. While the work goes on
its record only grows, and at the end it is marked as an error exactly if the work failed,
`Span.Begins.of_endsAs`. As long as there is room every event that is added is kept,
`Span.Bears.addEvent`.
-/

namespace Storefront

/-- A number that is drawn is not zero. -/
theorem drawId_ne_zero {width : Nat} (hwidth : 0 < width) (n : Nat) : drawId width n ≠ 0 := by
  have htwo : 2 ≤ 2 ^ width := Nat.pow_le_pow_right (n := 2) Nat.two_pos hwidth
  have hbelow : n % (2 ^ width - 1) < 2 ^ width - 1 := Nat.mod_lt n (by omega)
  intro hzero
  have htoNat : (n % (2 ^ width - 1) + 1) % 2 ^ width = 0 := congrArg BitVec.toNat hzero
  rw [Nat.mod_eq_of_lt (by omega)] at htoNat
  omega

/-- A place is valid exactly if neither of its numbers is zero. -/
theorem SpanContext.isValid_iff {c : SpanContext} :
    c.isValid = true ↔ c.traceId ≠ 0 ∧ c.spanId ≠ 0 := by
  unfold isValid
  rw [Bool.and_eq_true, bne_iff_ne, bne_iff_ne]

/-- Two records of the same piece of work that went equally well. -/
structure SpanRecord.SameWork (r other : SpanRecord) : Prop where
  name_eq : other.name = r.name
  kind_eq : other.kind = r.kind
  context_eq : other.context = r.context
  parent_eq : other.parent = r.parent
  status_eq : other.status = r.status

namespace SpanRecord.SameWork

variable {r second third : SpanRecord}

/-- A record is one of its own work. -/
theorem refl (r : SpanRecord) : r.SameWork r :=
  ⟨rfl, rfl, rfl, rfl, rfl⟩

/-- Records of the same work as a third one. -/
theorem trans (h : r.SameWork second) (h' : second.SameWork third) : r.SameWork third :=
  ⟨h'.1.trans h.1, h'.2.trans h.2, h'.3.trans h.3, h'.4.trans h.4, h'.5.trans h.5⟩

/-- An attribute does not change the work. -/
theorem setAttribute (r : SpanRecord) (key : String) (value : AttributeValue) :
    r.SameWork (r.setAttribute key value) := by
  unfold SpanRecord.setAttribute
  split <;> exact ⟨rfl, rfl, rfl, rfl, rfl⟩

/-- An event does not change the work. -/
theorem addEvent (r : SpanRecord) (event : SpanEvent) : r.SameWork (r.addEvent event) := by
  unfold SpanRecord.addEvent
  split <;> exact ⟨rfl, rfl, rfl, rfl, rfl⟩

end SpanRecord.SameWork

namespace Span

/-- `span.Grows grown` says that facts and events have been added to what the span recorded. -/
def Grows (span grown : Span) : Prop :=
  ∃ change : SpanRecord → SpanRecord,
    grown = span.update change ∧ ∀ r : SpanRecord, r.SameWork (change r)

namespace Grows

variable {span grown last : Span}

/-- Nothing need be added. -/
theorem refl (span : Span) : span.Grows span := by
  refine ⟨id, ?_, SpanRecord.SameWork.refl⟩
  show span = ⟨span.context, span.record?.map id⟩
  rw [Option.map_id_fun]
  rfl

/-- What has grown may grow further. -/
theorem trans (h : span.Grows grown) (h' : grown.Grows last) : span.Grows last := by
  obtain ⟨change, rfl, hchange⟩ := h
  obtain ⟨change', rfl, hchange'⟩ := h'
  refine ⟨change' ∘ change, ?_, fun r ↦ (hchange r).trans (hchange' _)⟩
  unfold update
  rw [Option.map_map]

/-- An attribute is added. -/
theorem setAttribute (span : Span) (key : String) (value : AttributeValue) :
    span.Grows (span.setAttribute key value) :=
  ⟨_, rfl, fun r ↦ .setAttribute r key value⟩

/-- Attributes are added. -/
theorem setAttributes (span : Span) (attributes : Attributes) :
    span.Grows (span.setAttributes attributes) := by
  induction attributes generalizing span with
  | nil => exact refl span
  | cons a rest ih => exact (setAttribute span a.1 a.2).trans (ih _)

/-- An event is added. -/
theorem addEvent (span : Span) (name : String) (attributes : Attributes) :
    span.Grows (span.addEvent name attributes) :=
  ⟨_, rfl, fun r ↦ .addEvent r ⟨name, attributes⟩⟩

end Grows

/-- `span.EndsAs failed last` says that the span is `last` when its work is over and has failed or
not. -/
inductive EndsAs (span : Span) : Bool → Span → Prop where
  | done {last} (h : span.Grows last) : EndsAs span false last
  | failed {grown} (h : span.Grows grown) (message : String) :
      EndsAs span true (grown.fail message)

/-- `span.Begins name kind parent` says that the span is at its start: it has a place of its own
under the parent, and a record of nothing but that place if its trace is recorded. -/
structure Begins (span : Span) (name : String) (kind : SpanKind) (parent : Option SpanContext) :
    Prop where
  /-- The numbers of the span are set. -/
  isValid : span.context.isValid = true
  /-- The span belongs to the trace of a valid parent and is recorded if the parent is. -/
  follows : ∀ p, parent = some p → p.isValid = true →
    span.context.traceId = p.traceId ∧ span.context.isSampled = p.isSampled
  /-- There is a record if the trace is recorded. -/
  isRecording_eq : span.isRecording = span.context.isSampled
  /-- The record says where the span is and that nothing has failed. -/
  record : ∀ r ∈ span.record?, r.name = name ∧ r.kind = kind ∧ r.context = span.context ∧
    r.parent = (parent.filter SpanContext.isValid).map SpanContext.spanId ∧ r.status = .unset

/-- `span.Records name kind parent failed r` says what is known of the record of a span that began
under the parent and is over. -/
structure Records (span : Span) (name : String) (kind : SpanKind) (parent : Option SpanContext)
    (failed : Bool) (r : SpanRecord) : Prop where
  name_eq : r.name = name
  kind_eq : r.kind = kind
  context_eq : r.context = span.context
  parent_eq : r.parent = (parent.filter SpanContext.isValid).map SpanContext.spanId
  isError_eq : r.status.isError = failed

namespace Begins

variable {span last grown : Span} {name : String} {kind : SpanKind} {parent : Option SpanContext}
  {failed : Bool}

/-- A span to which facts are added is still at its start. -/
theorem of_grows (h : span.Begins name kind parent) (hgrows : span.Grows grown) :
    grown.Begins name kind parent := by
  obtain ⟨change, rfl, hchange⟩ := hgrows
  refine ⟨h.isValid, h.follows, ?_, ?_⟩
  · show (span.record?.map change).isSome = _
    rw [Option.isSome_map]
    exact h.isRecording_eq
  · intro r hr
    obtain ⟨r₀, hr₀, rfl⟩ := Option.map_eq_some_iff.mp hr
    obtain ⟨hname, hkind, hcontext, hparent, hstatus⟩ := h.record r₀ hr₀
    obtain ⟨hname', hkind', hcontext', hparent', hstatus'⟩ := hchange r₀
    exact ⟨hname'.trans hname, hkind'.trans hkind, hcontext'.trans hcontext,
      hparent'.trans hparent, hstatus'.trans hstatus⟩

/-- The record of a span that is over is marked as an error exactly if the work failed. -/
theorem of_endsAs (h : span.Begins name kind parent) (hends : span.EndsAs failed last) :
    last.record?.isSome = span.context.isSampled ∧
      ∀ r ∈ last.record?, span.Records name kind parent failed r := by
  cases hends with
  | done hgrows =>
      have hlast := h.of_grows hgrows
      obtain ⟨change, rfl, hchange⟩ := hgrows
      refine ⟨hlast.isRecording_eq, fun r hr ↦ ?_⟩
      obtain ⟨hname, hkind, hcontext, hparent, hstatus⟩ := hlast.record r hr
      exact ⟨hname, hkind, hcontext, hparent, by rw [hstatus]; rfl⟩
  | failed hgrows message =>
      -- The event of the failure is one more thing recorded; then the status rises from unset.
      have hgrown := h.of_grows (hgrows.trans
        (.addEvent _ "exception" [("exception.message", .text message)]))
      obtain ⟨change, rfl, hchange⟩ := hgrows
      unfold fail
      refine ⟨?_, fun r hr ↦ ?_⟩
      · rw [setStatus, update, Option.isSome_map]
        exact hgrown.isRecording_eq
      · obtain ⟨r₀, hr₀, rfl⟩ := Option.map_eq_some_iff.mp hr
        obtain ⟨hname, hkind, hcontext, hparent, hstatus⟩ := hgrown.record r₀ hr₀
        refine ⟨hname, hkind, hcontext, hparent, ?_⟩
        show (r₀.status.raise (.error message)).isError = true
        rw [hstatus]
        rfl

end Begins

end Span

namespace Span

variable {span : Span} {names : List String}

/-- `span.Bears names` says that the events on record have these names, if there is a record. -/
def Bears (span : Span) (names : List String) : Prop :=
  ∀ r ∈ span.record?, r.events.map SpanEvent.name = names

namespace Bears

/-- What keeps the events keeps their names. -/
theorem update (h : span.Bears names) {change : SpanRecord → SpanRecord}
    (hchange : ∀ r : SpanRecord, (change r).events = r.events) :
    (span.update change).Bears names := by
  intro r hr
  obtain ⟨before, hbefore, rfl⟩ := Option.map_eq_some_iff.mp hr
  rw [hchange]
  exact h before hbefore

/-- An attribute is no event. -/
theorem setAttribute (h : span.Bears names) (key : String) (value : AttributeValue) :
    (span.setAttribute key value).Bears names := by
  refine h.update fun r ↦ ?_
  unfold SpanRecord.setAttribute
  split <;> rfl

/-- Attributes are no events. -/
theorem setAttributes (h : span.Bears names) (attributes : Attributes) :
    (span.setAttributes attributes).Bears names := by
  induction attributes generalizing span with
  | nil => exact h
  | cons a rest ih => exact ih (h.setAttribute a.1 a.2)

/-- An event is added if there is room. -/
theorem addEvent (h : span.Bears names) (hroom : names.length < SpanRecord.maxEvents)
    (name : String) (attributes : Attributes) :
    (span.addEvent name attributes).Bears (names ++ [name]) := by
  intro r hr
  obtain ⟨before, hbefore, rfl⟩ := Option.map_eq_some_iff.mp hr
  have hnames := h before hbefore
  have hlength : before.events.length < SpanRecord.maxEvents := by
    rw [← hnames, List.length_map] at hroom
    exact hroom
  unfold SpanRecord.addEvent
  rw [if_pos hlength, List.map_append, hnames]
  rfl

/-- A failure is an event. -/
theorem fail (h : span.Bears names) (hroom : names.length < SpanRecord.maxEvents)
    (message : String) : (span.fail message).Bears (names ++ ["exception"]) :=
  (h.addEvent hroom "exception" [("exception.message", .text message)]).update fun _ ↦ rfl

end Bears

end Span

namespace Tracer

/-- The place under a valid parent is in the trace of the parent, and as much recorded. -/
theorem isSampled_childContext (parent : SpanContext) (id : SpanId) :
    (childContext parent id).isSampled = parent.isSampled := by
  unfold childContext
  cases h : parent.isSampled with
  | true => exact h
  | false =>
      show ((0 : UInt8) &&& 1 == 1) = false
      decide

/-- A span at a valid place is at its start. -/
theorem spanAt_begins {name : String} {kind : SpanKind} {context : SpanContext}
    {parent : Option SpanContext} (hvalid : context.isValid = true)
    (hfollows : ∀ p, parent = some p → p.isValid = true →
      context.traceId = p.traceId ∧ context.isSampled = p.isSampled) :
    (spanAt name kind context
      ((parent.filter SpanContext.isValid).map SpanContext.spanId)).Begins name kind parent := by
  refine ⟨hvalid, hfollows, ?_, ?_⟩
  · unfold spanAt Span.isRecording
    cases context.isSampled <;> rfl
  · intro r hr
    obtain ⟨-, hr⟩ := Option.ite_none_right_eq_some.mp hr
    cases hr
    exact ⟨rfl, rfl, rfl, rfl, rfl⟩

/-- A span that a tracer starts is at its start. -/
theorem start_begins (t : Tracer) (name : String) (kind : SpanKind)
    (parent : Option SpanContext) : (t.start name kind parent).1.Begins name kind parent := by
  have hspanId : ∀ n, drawId 64 n ≠ 0 := drawId_ne_zero (by decide)
  have htraceId : ∀ n, drawId 128 n ≠ 0 := drawId_ne_zero (by decide)
  unfold start
  cases hparent : parent.filter SpanContext.isValid with
  | none =>
      show (spanAt name kind _ (Option.map SpanContext.spanId none)).Begins name kind parent
      rw [← hparent]
      refine spanAt_begins (SpanContext.isValid_iff.mpr ⟨htraceId _, hspanId _⟩)
        fun p hp hvalid ↦ ?_
      simp [hp, hvalid] at hparent
  | some p =>
      obtain ⟨hp, hvalid⟩ := Option.filter_eq_some_iff.mp hparent
      obtain ⟨htrace, -⟩ := SpanContext.isValid_iff.mp hvalid
      show (spanAt name kind _ (Option.map SpanContext.spanId (some p))).Begins name kind parent
      rw [← hparent]
      refine spanAt_begins (SpanContext.isValid_iff.mpr ⟨htrace, hspanId _⟩) fun q hq _ ↦ ?_
      cases hp.symm.trans hq
      exact ⟨rfl, isSampled_childContext p _⟩

/-- A span that is started has no events. -/
theorem start_bears (t : Tracer) (name : String) (kind : SpanKind)
    (parent : Option SpanContext) : (t.start name kind parent).1.Bears [] := by
  have hspanAt : ∀ context parent, (spanAt name kind context parent).Bears [] := by
    intro context parent r hr
    obtain ⟨-, hr⟩ := Option.ite_none_right_eq_some.mp hr
    cases hr
    rfl
  unfold start
  dsimp only
  split <;> exact hspanAt _ _

end Tracer

end Storefront
