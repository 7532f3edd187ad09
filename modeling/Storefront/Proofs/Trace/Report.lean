import Storefront.Proofs.Binary64.Layout
import Storefront.Proofs.Json.Decode
import Storefront.Proofs.Text.Pieces
import Storefront.Proofs.Trace.Relay
import Storefront.Trace.Report

/-!
# What reports of traces tell

A report of spans shows labels in place of the numbers that a tracer drew, and still shows the
whole tree: which spans are one, which span is the parent of which, and which spans share a trace,
`SpanReport.shows_tree`. The role, the attributes, the events, and the status of a span are shown as
they are, `SpanReport.spanJson_tells`. Labels of spans and of traces are given in the same way,
`nameAmong`, and they tell their numbers apart as long as the labels of two positions differ and
hold a character that no other name holds, `Labels`. A context is shown without labels;
`Context.toJson_injective` says that nothing of it is lost, and `Context.exists_ofReading` that
every context can be described.
-/

namespace Storefront

/-- A value is read as it is written. -/
theorem AttributeValue.ofReading_toJson (value : AttributeValue) :
    AttributeValue.ofReading (.ofJson value.toJson) = value := by
  cases value with
  | bool | int | text => rfl
  | float x => exact congrArg AttributeValue.float (Binary64.ofBits_hex x)

/-- Different attributes are written differently. -/
theorem Attributes.toJson_injective : Function.Injective Attributes.toJson := by
  have hvalue : Function.Injective AttributeValue.toJson := fun v w h ↦ by
    rw [← v.ofReading_toJson, h, w.ofReading_toJson]
  intro xs ys h
  refine List.map_injective_iff.mpr (fun x y hxy ↦ ?_) (Json.arr.inj h)
  simp only [Json.arr.injEq, List.cons.injEq, Json.str.injEq, and_true] at hxy
  exact Prod.ext hxy.1 (hvalue hxy.2)

/-- No two roles have one name. -/
theorem SpanKind.name_injective : Function.Injective SpanKind.name := by
  intro k l h
  cases k <;> cases l <;> first | rfl | simp only [name, String.reduceEq] at h

/-- The description of an error is an object, and the other statuses have names. -/
theorem SpanStatus.toJson_injective : Function.Injective SpanStatus.toJson := by
  intro s t h
  cases s <;> cases t <;> simp [toJson] at h
  case error.error => rw [h]
  all_goals rfl

/-- Different events are written differently. -/
theorem SpanEvent.json_injective : Function.Injective fun e : SpanEvent ↦
    Json.arr [.str e.name, Attributes.toJson e.attributes] := by
  rintro ⟨name, attributes⟩ ⟨other, others⟩ h
  simp only [Json.arr.injEq, List.cons.injEq, Json.str.injEq, and_true] at h
  rw [h.1, Attributes.toJson_injective h.2]

/-- The name of a number in a report: the label of its position among some numbers, a question mark
if it is not among them, and its digits if it was not drawn. -/
def nameAmong {width : Nat} (ids : List (BitVec width)) (drew : BitVec width → Bool)
    (labelAt : Nat → String) (digits : Nat) (id : BitVec width) : String :=
  if drew id then ((ids.findIdx? (· == id)).map labelAt).getD "?"
  else Text.hexPadded digits id.toNat

/-- The labels of different positions differ, and all of them hold a character that is neither a
question mark nor a digit. -/
structure Labels (labelAt : Nat → String) (count : Nat) (mark : Char) : Prop where
  inj : ∀ i < count, ∀ j < count, labelAt i = labelAt j → i = j
  mem : ∀ i < count, mark ∈ (labelAt i).toList
  notDigit : Text.hexDigit? mark = none
  ne : mark ≠ '?'

section

variable {width digits : Nat} {ids : List (BitVec width)} {drew : BitVec width → Bool}
  {labelAt : Nat → String} {mark : Char} {id a b : BitVec width}

/-- A name is a label, a question mark, or the digits of the number. -/
theorem nameAmong_cases (ids : List (BitVec width)) (drew : BitVec width → Bool)
    (labelAt : Nat → String) (digits : Nat) (id : BitVec width) :
    (∃ i, ids[i]? = some id ∧ nameAmong ids drew labelAt digits id = labelAt i) ∨
      (id ∉ ids ∧ nameAmong ids drew labelAt digits id = "?") ∨
      nameAmong ids drew labelAt digits id = Text.hexPadded digits id.toNat := by
  unfold nameAmong
  split
  · cases hfound : ids.findIdx? (· == id) with
    | none =>
        refine .inr (.inl ⟨fun hmem ↦ ?_, rfl⟩)
        simpa using List.findIdx?_eq_none_iff.mp hfound id hmem
    | some i =>
        obtain ⟨hi, hat, -⟩ := List.findIdx?_eq_some_iff_getElem.mp hfound
        exact .inl ⟨i, by rw [List.getElem?_eq_getElem hi, eq_of_beq hat], rfl⟩
  · exact .inr (.inr rfl)

namespace Labels

/-- A label is not the name of a number without one. -/
theorem ne_unlabelled (h : Labels labelAt ids.length mark) {i : Nat} (hi : ids[i]? = some id) :
    labelAt i ≠ "?" ∧ ∀ n, labelAt i ≠ Text.hexPadded digits n := by
  have hmem := h.mem i (List.getElem?_eq_some_iff.mp hi).1
  refine ⟨fun heq ↦ ?_, fun n heq ↦ ?_⟩
  · rw [heq] at hmem
    exact h.ne (by simpa using hmem)
  · rw [heq] at hmem
    exact Text.not_mem_hexPadded h.notDigit digits n hmem

/-- The name of a number that is among the others is the name of no other number. -/
theorem nameAmong_inj (h : Labels labelAt ids.length mark) (ha : a ∈ ids) :
    nameAmong ids drew labelAt digits a = nameAmong ids drew labelAt digits b ↔ a = b := by
  refine ⟨fun heq ↦ ?_, congrArg _⟩
  have hcases := nameAmong_cases ids drew labelAt digits
  rcases hcases a with ⟨i, hi, hname⟩ | ⟨hnot, -⟩ | hname
  · obtain ⟨hquestion, hdigits⟩ := h.ne_unlabelled hi
    rcases hcases b with ⟨j, hj, hother⟩ | ⟨-, hother⟩ | hother
    · have hij : i = j := h.inj i (List.getElem?_eq_some_iff.mp hi).1 j
        (List.getElem?_eq_some_iff.mp hj).1 (hname.symm.trans (heq.trans hother))
      subst hij
      exact Option.some_inj.mp (hi.symm.trans hj)
    · exact absurd (hname.symm.trans (heq.trans hother)) hquestion
    · exact absurd (hname.symm.trans (heq.trans hother)) (hdigits _)
  · exact absurd ha hnot
  · have hshown := hname.symm.trans heq
    rcases hcases b with ⟨j, hj, hother⟩ | ⟨-, hother⟩ | hother
    · exact absurd (hshown.trans hother).symm ((h.ne_unlabelled hj).2 _)
    · have hmem : '?' ∈ (Text.hexPadded digits a.toNat).toList := by simp [hshown, hother]
      exact absurd hmem (Text.not_mem_hexPadded rfl digits _)
    · exact BitVec.eq_of_toNat_eq (Text.hexPadded_inj.mp (hshown.trans hother))

/-- A text without the mark that is neither a question mark nor digits is no name. -/
theorem nameAmong_ne (h : Labels labelAt ids.length mark) {s : String} (hmark : mark ∉ s.toList)
    (hquestion : s ≠ "?") {c : Char} (hc : c ∈ s.toList) (hdigit : Text.hexDigit? c = none)
    (id : BitVec width) : nameAmong ids drew labelAt digits id ≠ s := by
  rcases nameAmong_cases ids drew labelAt digits id with ⟨i, hi, hname⟩ | ⟨-, hname⟩ | hname
  · rw [hname]
    rintro rfl
    exact hmark (h.mem i (List.getElem?_eq_some_iff.mp hi).1)
  · exact hname ▸ hquestion.symm
  · rw [hname]
    rintro rfl
    exact Text.not_mem_hexPadded hdigit digits _ hc

end Labels

end

namespace SpanReport

variable (r : SpanReport)

/-- The numbers of the spans. -/
def spanIds : List SpanId :=
  r.spans.map fun span ↦ span.context.spanId

/-- How many of the spans up to a position have a name. -/
def countTo (i : Nat) (name : String) : Nat :=
  ((r.spans.take (i + 1)).filter fun other ↦ other.name == name).length

/-- The label of a position in the report. -/
theorem labelAt_eq {i : Nat} (h : i < r.spans.length) :
    r.labelAt i = r.spans[i].name ++ "#" ++ Text.decimal (r.countTo i r.spans[i].name) := by
  simp only [labelAt, List.getElem?_eq_getElem h, countTo]

/-- A span is counted under its name, and so are all spans before it. -/
theorem countTo_lt {i j : Nat} (hij : i < j) (hj : j < r.spans.length) :
    r.countTo i r.spans[j].name < r.countTo j r.spans[j].name := by
  have hbefore : (r.spans.take (i + 1)).Sublist (r.spans.take j) :=
    List.take_sublist_take_left hij
  have hcount := (hbefore.filter fun other ↦ other.name == r.spans[j].name).length_le
  have hlast : r.spans.take (j + 1) = r.spans.take j ++ [r.spans[j]] := by simp
  unfold countTo
  rw [hlast, List.filter_append, List.length_append]
  simp only [BEq.rfl, List.filter_cons_of_pos, List.filter_nil, List.length_singleton]
  omega

/-- The label of a position tells the name and the number of spans of that name. The name may hold
the sign between the two, but the number cannot. -/
theorem labelAt_inj {i j : Nat} (hi : i < r.spans.length) (hj : j < r.spans.length)
    (h : r.labelAt i = r.labelAt j) : i = j := by
  rw [r.labelAt_eq hi, r.labelAt_eq hj] at h
  have hchars := congrArg String.toList h
  simp only [String.toList_append, List.append_assoc] at hchars
  obtain ⟨hname, hcount⟩ := Text.append_separator_inj_right
    (Text.not_mem_decimal rfl _) (Text.not_mem_decimal rfl _) hchars
  have hname := String.toList_inj.mp hname
  have hcount := Text.decimal_inj.mp (String.toList_inj.mp hcount)
  rcases Nat.lt_trichotomy i j with hlt | heq | hlt
  · have := r.countTo_lt hlt hj
    rw [hname] at hcount
    omega
  · exact heq
  · have := r.countTo_lt hlt hi
    rw [← hname] at hcount
    omega

/-- Spans are named by the labels of their positions. -/
theorem spanLabel_eq (id : SpanId) :
    r.spanLabel id = nameAmong r.spanIds r.tracer.drewSpan r.labelAt 16 id := by
  unfold spanLabel nameAmong spanIds
  rw [List.findIdx?_map]
  rfl

/-- Labels of spans hold a number sign. -/
theorem labels_spans : Labels r.labelAt r.spanIds.length '#' where
  inj i hi j hj h := by
    simp only [spanIds, List.length_map] at hi hj
    exact r.labelAt_inj hi hj h
  mem i hi := by
    simp only [spanIds, List.length_map] at hi
    simp [r.labelAt_eq hi]
  notDigit := rfl
  ne := by decide

/-- Traces are named by their positions. -/
theorem traceLabel_eq (id : TraceId) :
    r.traceLabel id = nameAmong r.traces r.tracer.drewTrace
      (fun i ↦ "trace" ++ Text.decimal (i + 1)) 32 id :=
  rfl

/-- Labels of traces begin with a letter that is no digit. -/
theorem labels_traces :
    Labels (fun i ↦ "trace" ++ Text.decimal (i + 1)) r.traces.length 't' where
  inj i _ j _ h := by
    have hdecimal := Text.decimal_inj.mp (String.append_right_inj "trace" |>.mp h)
    omega
  mem i _ := by simp
  notDigit := rfl
  ne := by decide

/-- A report shows which spans are one and which share a trace, and the parent that a span shows is
another span of the report exactly if it is its parent. -/
theorem shows_tree {span : SpanRecord} (hspan : span ∈ r.spans) (other : SpanRecord) :
    (r.spanLabel span.context.spanId = r.spanLabel other.context.spanId ↔
        span.context.spanId = other.context.spanId) ∧
      (r.traceLabel span.context.traceId = r.traceLabel other.context.traceId ↔
        span.context.traceId = other.context.traceId) ∧
      ((other.parent.map r.spanLabel).getD "none" = r.spanLabel span.context.spanId ↔
        other.parent = some span.context.spanId) ∧
      ((other.parent.map r.spanLabel).getD "none" = "none" ↔ other.parent = none) := by
  have hspanId : span.context.spanId ∈ r.spanIds := List.mem_map_of_mem hspan
  have htraceId : span.context.traceId ∈ r.traces :=
    List.mem_eraseDups.mpr (List.mem_map_of_mem hspan)
  have hid : ∀ id, r.spanLabel span.context.spanId = r.spanLabel id ↔ span.context.spanId = id :=
    fun id ↦ by
      rw [r.spanLabel_eq, r.spanLabel_eq]
      exact r.labels_spans.nameAmong_inj hspanId
  have hnone : ∀ id, r.spanLabel id ≠ "none" := fun id ↦ by
    rw [r.spanLabel_eq]
    exact r.labels_spans.nameAmong_ne (by decide) (by decide) (c := 'n') (by decide) rfl id
  refine ⟨hid _, ?_, ?_, ?_⟩
  · rw [r.traceLabel_eq, r.traceLabel_eq]
    exact r.labels_traces.nameAmong_inj htraceId
  · cases other.parent with
    | none => simpa using (hnone _).symm
    | some parent =>
        rw [Option.map_some, Option.getD_some, Option.some_inj, eq_comm, hid, eq_comm]
  · cases other.parent with
    | none => simp
    | some parent => simpa using hnone parent

/-- Two spans that are shown alike are one, with the same role, attributes, events, and status. -/
theorem spanJson_tells {span other : SpanRecord} (hspan : span ∈ r.spans)
    (h : r.spanJson span = r.spanJson other) :
    span.context.spanId = other.context.spanId ∧ span.context.traceId = other.context.traceId ∧
      span.kind = other.kind ∧ span.attributes = other.attributes ∧
      span.events = other.events ∧ span.status = other.status := by
  simp only [spanJson, Json.obj.injEq, List.cons.injEq, Prod.mk.injEq, true_and, and_true,
    Json.str.injEq, Json.arr.injEq] at h
  obtain ⟨hlabel, hkind, htrace, -, -, hattributes, hevents, -, hstatus⟩ := h
  obtain ⟨hsame, hsameTrace, -⟩ := r.shows_tree hspan other
  exact ⟨hsame.mp hlabel, hsameTrace.mp htrace, SpanKind.name_injective hkind,
    Attributes.toJson_injective hattributes,
    List.map_injective_iff.mpr SpanEvent.json_injective hevents,
    SpanStatus.toJson_injective hstatus⟩

end SpanReport

/-- Nothing of a place is lost. -/
theorem SpanContext.toJson_injective : Function.Injective SpanContext.toJson := by
  rintro ⟨trace, span, flags, remote, state⟩ ⟨trace', span', flags', remote', state'⟩ h
  simp only [toJson, Json.obj.injEq, List.cons.injEq, Prod.mk.injEq, true_and, and_true,
    Json.str.injEq, Json.int.injEq, Json.bool.injEq, TraceId.text, SpanId.text,
    Text.hexPadded_inj, Int.natCast_inj] at h
  obtain ⟨htrace, hspan, hflags, -, hremote, -, hheader⟩ := h
  have hstate := state.ofHeader?_header
  rw [hheader, state'.ofHeader?_header, Option.some_inj] at hstate
  rw [BitVec.eq_of_toNat_eq htrace, BitVec.eq_of_toNat_eq hspan, UInt8.toNat_inj.mp hflags,
    hremote, hstate]

/-- Entries are written in order. -/
theorem Baggage.toJson_injective : Function.Injective Baggage.toJson := by
  rintro ⟨entries, hsorted⟩ ⟨others, hother⟩ h
  have hentries : entries = others :=
    List.map_injective_iff.mpr (fun x y hxy ↦ by simpa [Prod.ext_iff] using hxy) (Json.arr.inj h)
  subst hentries
  rfl

/-- Nothing of a context is lost. -/
theorem Context.toJson_injective : Function.Injective Context.toJson := by
  rintro ⟨parent, baggage⟩ ⟨other, others⟩ h
  simp only [toJson, Json.obj.injEq, List.cons.injEq, Prod.mk.injEq, true_and, and_true] at h
  obtain ⟨hparent, hbaggage⟩ := h
  have hplace := Json.optional_injective SpanContext.toJson_injective (fun _ h ↦ by cases h)
  rw [hplace hparent, Baggage.toJson_injective hbaggage]

/-- Pairs are read as they are written. -/
theorem Reading.pairs_eq {r : Reading} {name : String} {entries : List (String × String)}
    (h : r.items name = ofItems (entries.map fun e ↦ .arr [.str e.1, .str e.2])) :
    r.pairs name = entries := by
  rw [pairs, h]
  clear h
  induction entries with
  | nil => rfl
  | cons e rest ih => exact congrArg (e :: ·) ih

/-- Every place can be described. -/
theorem SpanContext.exists_ofReading (c : SpanContext) :
    ∃ members, ofReading? (.ofJson (.obj members)) = some c := by
  refine ⟨[("trace_id", .str c.traceId.text), ("span_id", .str c.spanId.text),
    ("flags", .int c.flags.toNat), ("remote", .bool c.isRemote),
    ("trace_state", .arr (c.state.members.map fun m ↦ .arr [.str m.1, .str m.2]))], ?_⟩
  generalize hr : Reading.ofJson (.obj _) = r
  have hstate : r.pairs "trace_state" = c.state.members := Reading.pairs_eq (by subst hr; rfl)
  have htrace : r.hex "trace_id" = (Text.hexadecimal? c.traceId.text.toList).getD 0 := by
    subst hr
    rfl
  have hspan : r.hex "span_id" = (Text.hexadecimal? c.spanId.text.toList).getD 0 := by
    subst hr
    rfl
  have hflags : r.nat "flags" = c.flags.toNat := by
    subst hr
    rfl
  have hremote : r.flag "remote" = c.isRemote := by
    subst hr
    rfl
  have hmembers : TraceState.ofMembers? c.state.members = some c.state := dif_pos c.state.valid
  rw [TraceId.text, Text.hexadecimal?_hexPadded] at htrace
  rw [SpanId.text, Text.hexadecimal?_hexPadded] at hspan
  simp only [ofReading?, hstate, hmembers, htrace, hspan, hflags, hremote]
  simp

/-- Every context can be described. -/
theorem Context.exists_ofReading (c : Context) : ∃ j, ofReading? (.ofJson j) = some c := by
  have hbaggage : Dict.ofList c.baggage.entries = c.baggage := Dict.ofList_of_perm (.refl _)
  obtain ⟨parent, baggage⟩ := c
  cases parent with
  | none =>
      refine ⟨.obj [("baggage", baggage.toJson)], ?_⟩
      have hpairs : (Reading.ofJson (.obj [("baggage", baggage.toJson)])).pairs "baggage" =
          baggage.entries := Reading.pairs_eq rfl
      have hnull : ((Reading.ofJson (.obj [("baggage", baggage.toJson)])).member
          "parent").isNull = true := rfl
      simp only [ofReading?, hpairs, hnull, hbaggage]
      rfl
  | some place =>
      obtain ⟨members, hplace⟩ := place.exists_ofReading
      refine ⟨.obj [("parent", .obj members), ("baggage", baggage.toJson)], ?_⟩
      generalize hr : Reading.ofJson (.obj _) = r
      have hpairs : r.pairs "baggage" = baggage.entries := Reading.pairs_eq (by subst hr; rfl)
      have hparent : r.member "parent" = .ofJson (.obj members) := by
        subst hr
        rfl
      have hnull : (Reading.ofJson (.obj members)).isNull = false := rfl
      simp only [ofReading?, hpairs, hparent, hnull, hplace, hbaggage]
      rfl

end Storefront
