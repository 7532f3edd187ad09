import Storefront.Failure.Report
import Storefront.Proofs.Binary64.Layout
import Storefront.Proofs.Checkout.Failure
import Storefront.Proofs.Order.RoundTrip
import Storefront.Proofs.Text.Quoted

/-!
# What reports of failures tell

A failure is told by its report: failed calls, interruptions, defects of requests, causes of amounts
that could not be formed, and steps that fail no order. The wording alone is enough where it begins
with something that no other cause begins with, `Text.byStart`, and holds the rest between marks
that the rest does not hold, `Text.append_between_inj`. The report of a failed placement tells it as
long as the name in it holds no such mark, `PlacementError.toJson_inj`, and tells the step in any
case, `Checkout.Ends.failsAt_of_toJson`. Everything that can fail a call, refuse a request, or
prevent an amount has a description from which it is read, `exists_ofReading`.
-/

namespace Storefront

namespace Text

/-- What is known of a text by its first characters. -/
def byStart (n : Nat) (table : List (List Char × String)) (s : String) : Option String :=
  table.lookup (s.toList.take n)

/-- What a text begins with is not changed by what follows it. -/
theorem byStart_append {n : Nat} (table : List (List Char × String)) {s : String}
    (h : n ≤ s.toList.length) (t : String) : byStart n table (s ++ t) = byStart n table s := by
  rw [byStart, String.toList_append, List.take_append_of_le_length h, byStart]

/-- What a text begins with is not changed by two or three texts that follow it. -/
theorem byStart_append_append {n : Nat} (table : List (List Char × String)) {s : String}
    (h : n ≤ s.toList.length) (t u v : String) :
    byStart n table (s ++ t ++ u) = byStart n table s ∧
      byStart n table (s ++ t ++ u ++ v) = byStart n table s := by
  simp only [String.append_assoc, byStart_append table h, and_self]

/-- Where the first characters of a wording tell its kind, one wording has one kind. -/
theorem eq_of_byStart {α : Type} {n : Nat} {table : List (List Char × String)}
    {wording kind : α → String} (hstart : ∀ a, byStart n table (wording a) = some (kind a))
    {a b : α} (h : wording a = wording b) : kind a = kind b :=
  Option.some_inj.mp (by rw [← hstart a, h, hstart b])

/-- Texts that do not hold the first character of a mark can be told from what follows the mark. -/
theorem append_mark_inj {c : Char} {rest : List Char} {mark a b x y : String}
    (h : a ++ mark ++ x = b ++ mark ++ y) (hmark : mark.toList = c :: rest) (ha : c ∉ a.toList)
    (hb : c ∉ b.toList) : a = b ∧ x = y := by
  have hchars := congrArg String.toList h
  simp only [String.toList_append, hmark, List.append_assoc, List.cons_append] at hchars
  obtain ⟨hbefore, hafter⟩ := append_separator_inj ha hb hchars
  exact ⟨String.toList_injective hbefore, String.toList_injective (List.append_cancel_left hafter)⟩

/-- What stands between two marks can be told from the text, and so can what follows. -/
theorem append_between_inj {c : Char} {rest : List Char} {opening mark a b x y : String}
    (h : opening ++ a ++ mark ++ x = opening ++ b ++ mark ++ y) (hmark : mark.toList = c :: rest)
    (ha : c ∉ a.toList) (hb : c ∉ b.toList) : a = b ∧ x = y := by
  refine append_mark_inj ?_ hmark ha hb
  simpa only [String.append_assoc, String.append_right_inj] using h

end Text

/-- A report tells all that was put into it. -/
theorem report_inj {kind other message wording : String} {more rest : List (String × Json)} :
    report kind message more = report other wording rest ↔
      kind = other ∧ message = wording ∧ more = rest := by
  simp [report]

namespace TransportError

/-- The kinds of failed calls, by what their wordings begin with. -/
def openings : List (List Char × String) :=
  [(['c', 'o'], "Unavailable"), (['d', 'e'], "DeadlineExceeded"), (['c', 'a'], "Cancelled"),
    (['s', 't'], "Status"), (['i', 'n'], "InvalidResponse"), (['f', 'a'], "Encode")]

/-- The wording of a failed call tells its kind. -/
theorem byStart_message (e : TransportError) :
    Text.byStart 2 openings e.message = some e.kind := by
  cases e with
  | unavailable => exact Text.byStart_append _ (by decide) _
  | deadlineExceeded | cancelled => rfl
  | status => exact (Text.byStart_append_append _ (by decide) _ _ _).2
  | invalidResponse => exact Text.byStart_append _ (by decide) _
  | encode => exact Text.byStart_append _ (by decide) _

/-- Different failed calls are worded differently. -/
theorem message_injective : Function.Injective message := by
  intro e f h
  have hkind := Text.eq_of_byStart byStart_message h
  cases e <;> cases f <;> simp only [kind, String.reduceEq] at hkind
  case deadlineExceeded.deadlineExceeded => rfl
  case cancelled.cancelled => rfl
  case status.status code message other wording =>
    obtain ⟨hcode, hmessage⟩ := Text.append_between_inj h rfl
      (Text.not_mem_decimal rfl code) (Text.not_mem_decimal rfl other)
    rw [Text.decimal_inj.mp hcode, hmessage]
  all_goals rw [String.append_right_inj _ |>.mp h]

/-- A failed call is told by its report. -/
theorem toJson_injective : Function.Injective toJson := fun _ _ h ↦
  message_injective (report_inj.mp h).2.1

/-- Every failed call can be described. -/
theorem exists_ofReading (e : TransportError) : ∃ j, ofReading (.ofJson j) = e := by
  cases e with
  | unavailable reason =>
      exact ⟨.obj [("kind", .str "Unavailable"), ("message", .str reason)], rfl⟩
  | deadlineExceeded => exact ⟨.obj [("kind", .str "DeadlineExceeded")], rfl⟩
  | cancelled => exact ⟨.obj [("kind", .str "Cancelled")], rfl⟩
  | status code message =>
      exact ⟨.obj [("kind", .str "Status"), ("code", .int code), ("message", .str message)], rfl⟩
  | invalidResponse reason =>
      exact ⟨.obj [("kind", .str "InvalidResponse"), ("message", .str reason)], rfl⟩
  | encode reason => exact ⟨.obj [("kind", .str "Encode"), ("message", .str reason)], rfl⟩

end TransportError

/-- An interruption is told by its report. -/
theorem Interruption.toJson_injective : Function.Injective Interruption.toJson := by
  intro i j h
  obtain ⟨-, hmessage, -⟩ := report_inj.mp h
  cases i <;> cases j <;> first | rfl | simp [Interruption.message] at hmessage

/-- The failure of a step that never fails an order is told by its report. -/
theorem BestEffortError.toJson_injective : Function.Injective BestEffortError.toJson := by
  intro e f h
  obtain ⟨hkind, hmessage, -⟩ := report_inj.mp h
  cases e <;> cases f <;> simp only [BestEffortError.kind, String.reduceEq] at hkind
  all_goals
    rw [TransportError.message_injective (String.append_right_inj _ |>.mp hmessage)]

namespace RequestDefect

/-- The kinds of defects, by what their wordings begin with. -/
def openings : List (List Char × String) :=
  [("user id is required".toList.take 18, "MissingUserId"),
    ("currency code is required".toList.take 18, "MissingCurrency"),
    ("unsupported currency code ".toList.take 18, "InvalidCurrency"),
    ("shipping address is required".toList.take 18, "MissingAddress"),
    ("shipping address field '".toList.take 18, "IncompleteAddress"),
    ("credit card is required".toList.take 18, "MissingCreditCard"),
    ("credit card field '".toList.take 18, "IncompleteCreditCard")]

/-- The wording of a defect tells its kind. -/
theorem byStart_message (d : RequestDefect) :
    Text.byStart 18 openings d.message = some d.kind := by
  cases d with
  | missingUser | missingCurrency | missingAddress | missingCard => rfl
  | invalidCurrency => exact Text.byStart_append _ (by decide) _
  | incompleteAddress => exact (Text.byStart_append_append _ (by decide) _ _ "").1
  | incompleteCard => exact (Text.byStart_append_append _ (by decide) _ _ "").1

/-- Different defects are worded differently. -/
theorem message_injective : Function.Injective message := by
  intro d e h
  have hkind := Text.eq_of_byStart byStart_message h
  cases d <;> cases e <;> simp only [kind, String.reduceEq] at hkind
  case invalidCurrency.invalidCurrency =>
    rw [Text.quote_injective (String.append_right_inj _ |>.mp h)]
  case incompleteAddress.incompleteAddress =>
    rw [String.append_right_inj _ |>.mp (String.append_left_inj _ |>.mp h)]
  case incompleteCard.incompleteCard =>
    rw [String.append_right_inj _ |>.mp (String.append_left_inj _ |>.mp h)]
  all_goals rfl

/-- A defect is told by its report. -/
theorem toJson_injective : Function.Injective toJson := fun _ _ h ↦
  message_injective (report_inj.mp h).2.1

/-- Every defect can be described. -/
theorem exists_ofReading (d : RequestDefect) : ∃ j, ofReading (.ofJson j) = d := by
  cases d with
  | missingUser => exact ⟨.obj [("kind", .str "MissingUserId")], rfl⟩
  | missingCurrency => exact ⟨.obj [("kind", .str "MissingCurrency")], rfl⟩
  | invalidCurrency text =>
      exact ⟨.obj [("kind", .str "InvalidCurrency"), ("code", .str text)], rfl⟩
  | missingAddress => exact ⟨.obj [("kind", .str "MissingAddress")], rfl⟩
  | incompleteAddress field =>
      exact ⟨.obj [("kind", .str "IncompleteAddress"), ("field", .str field)], rfl⟩
  | missingCard => exact ⟨.obj [("kind", .str "MissingCreditCard")], rfl⟩
  | incompleteCard field =>
      exact ⟨.obj [("kind", .str "IncompleteCreditCard"), ("field", .str field)], rfl⟩

end RequestDefect

/-- Only letters are in a code. -/
theorem CurrencyCode.not_mem_text (code : CurrencyCode) {c : Char} (hc : c.isUpper = false) :
    c ∉ code.text.toList := fun hmem ↦ by
  rw [code.isCode.2 c hmem] at hc
  cases hc

/-- A code is its text. -/
theorem CurrencyCode.text_injective : Function.Injective CurrencyCode.text := by
  rintro ⟨text, hcode⟩ ⟨other, hother⟩ h
  obtain rfl : text = other := h
  rfl

namespace MoneyError

/-- The kinds of causes, by what their wordings begin with. -/
def openings : List (List Char × String) :=
  [("Currency mismatch: ".toList.take 9, "CurrencyMismatch"),
    ("Money arithmetic overflow".toList.take 9, "Overflow"),
    ("Invalid money value: units ".toList.take 9, "InvalidNanos"),
    ("Invalid currency code: ".toList.take 9, "InvalidCurrencyCode"),
    ("Cannot convert non-finite value ".toList.take 9, "NonFinite")]

/-- The wording of a cause tells its kind. -/
theorem byStart_message (e : MoneyError) : Text.byStart 9 openings e.message = some e.kind := by
  cases e with
  | currencyMismatch => exact (Text.byStart_append_append _ (by decide) _ _ _).2
  | overflow => rfl
  | invalidNanos => exact (Text.byStart_append_append _ (by decide) _ _ _).2
  | invalidCurrencyCode => exact Text.byStart_append _ (by decide) _
  | nonFinite => exact (Text.byStart_append_append _ (by decide) _ _ "").1

/-- Different causes are worded differently. -/
theorem message_injective : Function.Injective message := by
  intro e f h
  have hkind := Text.eq_of_byStart byStart_message h
  cases e <;> cases f <;> simp only [kind, String.reduceEq] at hkind
  case currencyMismatch.currencyMismatch left right source target =>
    obtain ⟨hleft, hright⟩ := Text.append_between_inj h rfl
      (left.not_mem_text rfl) (source.not_mem_text rfl)
    rw [CurrencyCode.text_injective hleft, CurrencyCode.text_injective hright]
  case overflow.overflow => rfl
  case invalidNanos.invalidNanos units nanos whole rest =>
    have hcomma : ∀ n, ',' ∉ (Text.decimalInt n).toList := Text.not_mem_decimalInt rfl (by decide)
    obtain ⟨hunits, hnanos⟩ := Text.append_between_inj h rfl (hcomma units) (hcomma whole)
    rw [Text.decimalInt_inj.mp hunits, Text.decimalInt_inj.mp hnanos]
  case invalidCurrencyCode.invalidCurrencyCode =>
    rw [Text.quote_injective (String.append_right_inj _ |>.mp h)]
  case nonFinite.nonFinite value other =>
    have hname : value.name = other.name :=
      String.append_right_inj _ |>.mp (String.append_left_inj _ |>.mp h)
    cases value <;> cases other <;> first | rfl | simp [Binary64.NonFinite.name] at hname

/-- A cause is told by its report. -/
theorem toJson_injective : Function.Injective toJson := fun _ _ h ↦
  message_injective (report_inj.mp h).2.1

/-- Every cause can be described. -/
theorem exists_ofReading (e : MoneyError) : ∃ j, ofReading (.ofJson j) = .ok e := by
  cases e with
  | currencyMismatch left right =>
      refine ⟨.obj [("kind", .str "CurrencyMismatch"), ("left", .str left.text),
        ("right", .str right.text)], ?_⟩
      generalize hr : Reading.ofJson (.obj _) = r
      have hkind : r.text "kind" = "CurrencyMismatch" := by
        subst hr
        rfl
      have hleft : r.text "left" = left.text := by
        subst hr
        rfl
      have hright : r.text "right" = right.text := by
        subst hr
        rfl
      have hparse : ∀ code : CurrencyCode, CurrencyCode.parse code.text = .ok code := fun code ↦ by
        rw [CurrencyCode.parse, CurrencyCode.parse?_text]
      unfold ofReading
      simp only [hkind, hleft, hright, hparse]
      rfl
  | overflow => exact ⟨.obj [("kind", .str "Overflow")], rfl⟩
  | invalidNanos units nanos =>
      exact ⟨.obj [("kind", .str "InvalidNanos"), ("units", .int units), ("nanos", .int nanos)],
        rfl⟩
  | invalidCurrencyCode text =>
      exact ⟨.obj [("kind", .str "InvalidCurrencyCode"), ("code", .str text)], rfl⟩
  | nonFinite value =>
      obtain ⟨x, hx⟩ : ∃ x, Binary64.nonFinite? x = some value := by
        cases value with
        | nan => exact ⟨Binary64.nan, rfl⟩
        | positiveInfinity =>
            exact ⟨_, by rw [Binary64.nonFinite?, Binary64.parts_withSign_infinite false]⟩
        | negativeInfinity =>
            exact ⟨_, by rw [Binary64.nonFinite?, Binary64.parts_withSign_infinite true]⟩
      refine ⟨.obj [("kind", .str "NonFinite"), ("bits", .str (Binary64.hex x))], ?_⟩
      generalize hr : Reading.ofJson (.obj _) = r
      have hkind : r.text "kind" = "NonFinite" := by
        subst hr
        rfl
      have hbits : r.hex "bits" = (Text.hexadecimal? (Binary64.hex x).toList).getD 0 := by
        subst hr
        rfl
      unfold ofReading
      simp only [hkind, hbits, Binary64.ofBits_hex, hx]
      rfl

end MoneyError

/-- No two steps have one name. -/
theorem Step.name_injective : Function.Injective Step.name := by
  intro s t h
  cases s <;> cases t <;> first | rfl | simp only [name, String.reduceEq] at h

namespace PlacementError

/-- The user or the product that the wording of a failure names. -/
def subject : PlacementError → String
  | .cartUnavailable user _ => user.text
  | .catalogUnavailable product _ => product.text
  | _ => ""

/-- Only letters, blanks, and what is between codes are before the cause of a failed conversion. -/
theorem not_mem_conversion (source target : CurrencyCode) :
    ':' ∉ ("Failed to convert " ++ source.text ++ " to " ++ target.text).toList := by
  simp [source.not_mem_text (c := ':') rfl, target.not_mem_text (c := ':') rfl]

/-- A report tells the step that failed. -/
theorem step_of_toJson {e f : PlacementError} (h : e.toJson = f.toJson) : e.step = f.step := by
  obtain ⟨-, -, hmore⟩ := report_inj.mp h
  simp only [List.cons.injEq, Prod.mk.injEq, Json.str.injEq, true_and] at hmore
  exact Step.name_injective hmore.1

/-- A failed placement is told by its report. A user or a product with a colon in its name could be
taken for a shorter name with a longer cause, so the names hold none. -/
theorem toJson_inj {e f : PlacementError} (he : ':' ∉ e.subject.toList)
    (hf : ':' ∉ f.subject.toList) : e.toJson = f.toJson ↔ e = f := by
  refine ⟨fun h ↦ ?_, congrArg toJson⟩
  obtain ⟨hkind, hmessage, -⟩ := report_inj.mp h
  have hstep := step_of_toJson h
  cases e <;> cases f <;> simp only [kind, String.reduceEq] at hkind
  case invalidRequest.invalidRequest =>
    rw [RequestDefect.message_injective (String.append_right_inj _ |>.mp hmessage)]
  case cartUnavailable.cartUnavailable user cause other reason =>
    obtain ⟨huser, hcause⟩ := Text.append_between_inj hmessage rfl he hf
    have hsame : user = other := congrArg UserId.mk huser
    rw [hsame, TransportError.message_injective hcause]
  case catalogUnavailable.catalogUnavailable product cause other reason =>
    obtain ⟨hproduct, hcause⟩ := Text.append_between_inj hmessage rfl he hf
    have hsame : product = other := congrArg ProductId.mk hproduct
    rw [hsame, TransportError.message_injective hcause]
  case pricingUnavailable.pricingUnavailable source target cause left right reason =>
    obtain ⟨hcodes, hcause⟩ := Text.append_mark_inj hmessage rfl
      (not_mem_conversion source target) (not_mem_conversion left right)
    obtain ⟨hsource, htarget⟩ := Text.append_between_inj hcodes rfl
      (source.not_mem_text rfl) (left.not_mem_text rfl)
    rw [CurrencyCode.text_injective hsource, CurrencyCode.text_injective htarget,
      TransportError.message_injective hcause]
  case invalidAmount.invalidAmount step cause other reason =>
    obtain rfl : step = other := hstep
    rw [MoneyError.message_injective (String.append_right_inj _ |>.mp hmessage)]
  case cancelled.cancelled => exact congrArg cancelled hstep
  case deadlineExceeded.deadlineExceeded => exact congrArg deadlineExceeded hstep
  all_goals
    rw [TransportError.message_injective (String.append_right_inj _ |>.mp hmessage)]

end PlacementError

/-- Who knows the report of a failed checkout knows at which step it failed. -/
theorem Checkout.Ends.failsAt_of_toJson {request : OrderRequest} {events : List Event}
    {error told : PlacementError} (h : Ends request events error)
    (hreport : told.toJson = error.toJson) : FailsAt request events told.step := by
  rw [PlacementError.step_of_toJson hreport]
  exact h.failsAt

/-- A report tells whether a text ended early, and whether it is one with the wrong content. -/
theorem DecodeError.category_of_toJson {d e : DecodeError} (h : d.toJson = e.toJson) :
    (d = .fault .ended ↔ e = .fault .ended) ∧
      ((∃ path problem, d = .content path problem) ↔
        ∃ path problem, e = .content path problem) := by
  rcases d with ⟨_ | _⟩ | _ | _ <;> rcases e with ⟨_ | _⟩ | _ | _ <;> simp [toJson] at h ⊢

end Storefront
