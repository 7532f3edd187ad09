import Storefront.Order.Request
import Storefront.Proofs.Order.RoundTrip
import Storefront.Proofs.Text.Blank

/-!
# Which requests are accepted

A request must meet a dozen requirements, and they are looked at in a fixed order: those of the
user, of the currency, of the address, of the card. Each part of the check reports the first of its
own requirements that is not met, and parts one after the other report the first of all,
`Reports.bind`. So a request is accepted exactly if it is well formed and refused for its first
defect, and what is accepted is the request itself with the currency and the address of the mail
brought into shape, in which they stay: `OrderRequest.validate_reports_first`.
-/

namespace Storefront

/-- A text of three letters from A to Z, capital or small. -/
def IsLetterCode (s : String) : Prop :=
  s.toList.length = 3 ∧ ∀ c ∈ s.toList, c.isAlpha = true

namespace CurrencyCode

/-- The capitals of a text are a currency code exactly if it has three letters. -/
theorem isCurrencyText_capitals_iff (s : String) :
    IsCurrencyText (capitals s) ↔ IsLetterCode s := by
  rw [IsCurrencyText, IsLetterCode, capitals, String.toList_ofList, List.length_map,
    List.forall_mem_map]
  simp only [Char.isUpper_toUpper_eq_isAlpha]

/-- A code that is read is the capitals of the text. -/
theorem text_of_parse? {s : String} {code : CurrencyCode} (h : parse? s = some code) :
    code.text = capitals s := by
  unfold parse? at h
  split at h
  · cases h
    rfl
  · cases h

/-- A code is three letters. -/
theorem isLetterCode_text (code : CurrencyCode) : IsLetterCode code.text := by
  rw [← isCurrencyText_capitals_iff, capitals_text]
  exact code.isCode

/-- A capital letter is not blank. -/
theorem isBlank_of_isUpper {c : Char} (h : c.isUpper = true) : Text.isBlank c = false := by
  obtain ⟨hlow, hhigh⟩ : 'A'.val ≤ c.val ∧ c.val ≤ 'Z'.val := by
    simpa only [Char.isUpper, decide_eq_true_eq] using h
  have hlow : 65 ≤ c.toNat := UInt32.le_iff_toNat_le.mp hlow
  have hhigh : c.toNat ≤ 90 := UInt32.le_iff_toNat_le.mp hhigh
  simp only [Text.isBlank, Bool.or_eq_false_iff, Bool.and_eq_false_iff, decide_eq_false_iff_not,
    beq_eq_false_iff_ne]
  omega

/-- There are no blanks at the ends of a code. -/
theorem trim_text (code : CurrencyCode) : Text.trim code.text = code.text := by
  have hblank : ∀ c ∈ code.text.toList, Text.isBlank c = false := fun c hc ↦
    isBlank_of_isUpper (code.isCode.2 c hc)
  rw [Text.trim, Text.dropEnds_eq_self hblank, String.ofList_toList]

end CurrencyCode

/-- What a request must meet. -/
inductive Requirement where
  | user
  | currency
  | currencyCode
  | address
  | street
  | city
  | country
  | zip
  | card
  | cardNumber
  | expirationMonth
  | expirationYear

namespace OrderRequest

/-- All requirements, in the order in which they are looked at. -/
def requirements : List Requirement :=
  [.user, .currency, .currencyCode, .address, .street, .city, .country, .zip, .card, .cardNumber,
    .expirationMonth, .expirationYear]

/-- `r.Meets requirement` says that a request meets a requirement. What is required of an address or
of a card is required of the one that is there. -/
def Meets (r : OrderRequest) : Requirement → Prop
  | .user => Text.trim r.user.text ≠ ""
  | .currency => Text.trim r.currency ≠ ""
  | .currencyCode => IsLetterCode (Text.trim r.currency)
  | .address => r.address ≠ none
  | .street => ∀ a, r.address = some a → Text.trim a.street ≠ ""
  | .city => ∀ a, r.address = some a → Text.trim a.city ≠ ""
  | .country => ∀ a, r.address = some a → Text.trim a.country ≠ ""
  | .zip => ∀ a, r.address = some a → Text.trim a.zip ≠ ""
  | .card => r.card ≠ none
  | .cardNumber => ∀ c, r.card = some c → Text.trim c.number ≠ ""
  | .expirationMonth => ∀ c, r.card = some c →
      1 ≤ c.expirationMonth.toNat ∧ c.expirationMonth.toNat ≤ 12
  | .expirationYear => ∀ c, r.card = some c → 0 < c.expirationYear.toInt

/-- What a request is refused for if a requirement is not met. -/
def defect (r : OrderRequest) : Requirement → RequestDefect
  | .user => .missingUser
  | .currency => .missingCurrency
  | .currencyCode => .invalidCurrency r.currency
  | .address => .missingAddress
  | .street => .incompleteAddress "street_address"
  | .city => .incompleteAddress "city"
  | .country => .incompleteAddress "country"
  | .zip => .incompleteAddress "zip_code"
  | .card => .missingCard
  | .cardNumber => .incompleteCard "credit_card_number"
  | .expirationMonth => .incompleteCard "credit_card_expiration_month"
  | .expirationYear => .incompleteCard "credit_card_expiration_year"

/-- `r.FirstUnmet part requirement` says that of some requirements this is the first that a request
does not meet. -/
def FirstUnmet (r : OrderRequest) (part : List Requirement) (requirement : Requirement) : Prop :=
  ¬r.Meets requirement ∧ ∃ before after, part = before ++ requirement :: after ∧
    ∀ earlier ∈ before, r.Meets earlier

/-- There is only one first requirement that is not met. -/
theorem FirstUnmet.unique {r : OrderRequest} {part : List Requirement}
    {requirement other : Requirement} (h : r.FirstUnmet part requirement)
    (hother : r.FirstUnmet part other) : requirement = other := by
  classical
  have hfind : ∀ q, r.FirstUnmet part q → part.find? (fun q ↦ decide ¬r.Meets q) = some q := by
    rintro q ⟨hunmet, before, after, heq, hbefore⟩
    refine List.find?_eq_some_iff_append.mpr ⟨decide_eq_true hunmet, before, after, heq, ?_⟩
    simpa using hbefore
  exact Option.some_inj.mp ((hfind requirement h).symm.trans (hfind other hother))

/-- A request that can be carried out: it has a user, a currency of three letters, a complete
address, of which the state may be blank, and a usable card. -/
structure WellFormed (r : OrderRequest) : Prop where
  user : Text.trim r.user.text ≠ ""
  currency : IsLetterCode (Text.trim r.currency)
  address : ∃ a, r.address = some a ∧ Text.trim a.street ≠ "" ∧ Text.trim a.city ≠ "" ∧
    Text.trim a.country ≠ "" ∧ Text.trim a.zip ≠ ""
  card : ∃ c, r.card = some c ∧ Text.trim c.number ≠ "" ∧ 1 ≤ c.expirationMonth.toNat ∧
    c.expirationMonth.toNat ≤ 12 ∧ 0 < c.expirationYear.toInt

/-- A request is well formed exactly if it meets all requirements. -/
theorem wellFormed_iff {r : OrderRequest} :
    r.WellFormed ↔ ∀ requirement ∈ requirements, r.Meets requirement := by
  simp only [requirements, List.forall_mem_cons]
  constructor
  · rintro ⟨huser, hcurrency, ⟨a, ha, hstreet, hcity, hcountry, hzip⟩,
      ⟨c, hc, hnumber, hlow, hhigh, hyear⟩⟩
    simp only [Meets, ha, hc, Option.some_inj, forall_eq']
    have hnamed : Text.trim r.currency ≠ "" := by
      intro hempty
      rw [hempty] at hcurrency
      cases hcurrency.1
    exact ⟨huser, hnamed, hcurrency, nofun, hstreet, hcity, hcountry, hzip, nofun, hnumber,
      ⟨hlow, hhigh⟩, hyear, nofun⟩
  · rintro ⟨huser, -, hcurrency, haddress, hstreet, hcity, hcountry, hzip, hcard, hnumber, hmonth,
      hyear, -⟩
    obtain ⟨a, ha⟩ := Option.ne_none_iff_exists'.mp haddress
    obtain ⟨c, hc⟩ := Option.ne_none_iff_exists'.mp hcard
    obtain ⟨hlow, hhigh⟩ := hmonth c hc
    exact ⟨huser, hcurrency, ⟨a, ha, hstreet a ha, hcity a ha, hcountry a ha, hzip a ha⟩,
      ⟨c, hc, hnumber c hc, hlow, hhigh, hyear c hc⟩⟩

/-- `r.Reports part outcome` says what a check makes of some requirements: it accepts if all are met
and refuses for the first that is not. -/
inductive Reports {α : Type} (r : OrderRequest) (part : List Requirement) :
    Except RequestDefect α → Prop where
  | accepts (a : α) : (∀ requirement ∈ part, r.Meets requirement) → Reports r part (.ok a)
  | refuses (requirement : Requirement) :
      r.FirstUnmet part requirement → Reports r part (.error (r.defect requirement))

namespace Reports

variable {α β : Type} {r : OrderRequest} {part rest : List Requirement} {requirement : Requirement}
  {outcome : Except RequestDefect α}

/-- What the first requirement does not stop is stopped by the first of the others. -/
theorem met (hmet : r.Meets requirement) (h : Reports r rest outcome) :
    Reports r (requirement :: rest) outcome := by
  cases h with
  | accepts a hall => exact .accepts a (List.forall_mem_cons.mpr ⟨hmet, hall⟩)
  | refuses stop hstop =>
      obtain ⟨hunmet, before, after, rfl, hbefore⟩ := hstop
      exact .refuses stop
        ⟨hunmet, requirement :: before, after, rfl, List.forall_mem_cons.mpr ⟨hmet, hbefore⟩⟩

/-- A requirement that is not met stops a request before the others are looked at. -/
theorem unmet (hunmet : ¬r.Meets requirement) :
    Reports r (requirement :: rest) (.error (r.defect requirement) : Except RequestDefect α) :=
  .refuses requirement ⟨hunmet, [], rest, rfl, nofun⟩

/-- A check of one requirement before others. -/
theorem check {fails : Prop} [Decidable fails] (hmeets : r.Meets requirement ↔ ¬fails)
    (h : Reports r rest outcome) :
    Reports r (requirement :: rest)
      (if fails then .error (r.defect requirement) else outcome) := by
  by_cases hfails : fails
  · rw [if_pos hfails]
    exact unmet fun hmet ↦ hmeets.mp hmet hfails
  · rw [if_neg hfails]
    exact met (hmeets.mpr hfails) h

/-- Two checks one after the other report the first of all their requirements. -/
theorem bind {next : α → Except RequestDefect β} (h : Reports r part outcome)
    (hnext : ∀ a, Reports r rest (next a)) : Reports r (part ++ rest) (outcome >>= next) := by
  cases h with
  | refuses stop hstop =>
      obtain ⟨hunmet, before, after, rfl, hbefore⟩ := hstop
      exact .refuses stop ⟨hunmet, before, after ++ rest, by simp, hbefore⟩
  | accepts a hall =>
      have hsecond := hnext a
      show Reports r (part ++ rest) (next a)
      generalize next a = second at hsecond ⊢
      cases hsecond with
      | accepts b hrest => exact .accepts b (List.forall_mem_append.mpr ⟨hall, hrest⟩)
      | refuses stop hstop =>
          obtain ⟨hunmet, before, after, rfl, hbefore⟩ := hstop
          exact .refuses stop ⟨hunmet, part ++ before, after, by simp,
            List.forall_mem_append.mpr ⟨hall, hbefore⟩⟩

/-- A check accepts exactly if all requirements are met. -/
theorem accepts_iff (h : Reports r part outcome) :
    (∃ a, outcome = .ok a) ↔ ∀ requirement ∈ part, r.Meets requirement := by
  cases h with
  | accepts a hall => exact ⟨fun _ ↦ hall, fun _ ↦ ⟨a, rfl⟩⟩
  | refuses stop hstop =>
      obtain ⟨hunmet, before, after, rfl, -⟩ := hstop
      refine ⟨nofun, fun hall ↦ absurd (hall stop ?_) hunmet⟩
      exact List.mem_append_right before List.mem_cons_self

/-- A check refuses exactly for the first requirement that is not met. -/
theorem refuses_iff (h : Reports r part outcome) (d : RequestDefect) :
    outcome = .error d ↔
      ∃ requirement, r.FirstUnmet part requirement ∧ d = r.defect requirement := by
  constructor
  · rintro rfl
    cases h with
    | refuses stop hstop => exact ⟨stop, hstop, rfl⟩
  · rintro ⟨stop, hstop, rfl⟩
    cases h with
    | accepts a hall =>
        obtain ⟨hunmet, before, after, rfl, -⟩ := hstop
        exact absurd (hall stop (List.mem_append_right before List.mem_cons_self)) hunmet
    | refuses other hother => rw [hstop.unique hother]

end Reports

/-- A text is blank exactly if nothing is left of it, so a text that must not be blank is not. -/
theorem ne_empty_iff (s : String) : Text.trim s ≠ "" ↔ ¬Text.isBlankText s = true :=
  not_congr (Text.trim_eq_empty_iff s)

/-- The check of the currency. -/
theorem reports_currencyOf (r : OrderRequest) :
    r.Reports [.currency, .currencyCode] (currencyOf r.currency) := by
  refine .check (ne_empty_iff r.currency) ?_
  unfold CurrencyCode.parse?
  by_cases hcode : IsCurrencyText (CurrencyCode.capitals (Text.trim r.currency))
  · rw [dif_pos hcode]
    exact .met ((CurrencyCode.isCurrencyText_capitals_iff _).mp hcode) (.accepts _ nofun)
  · rw [dif_neg hcode]
    exact .unmet fun hmet ↦ hcode ((CurrencyCode.isCurrencyText_capitals_iff _).mpr hmet)

/-- The parts of an address are checked one after the other. -/
theorem addressOf_some (a : Address) :
    addressOf (some a) =
      if Text.isBlankText a.street then .error (.incompleteAddress "street_address")
      else if Text.isBlankText a.city then .error (.incompleteAddress "city")
      else if Text.isBlankText a.country then .error (.incompleteAddress "country")
      else if Text.isBlankText a.zip then .error (.incompleteAddress "zip_code")
      else .ok a := by
  unfold addressOf Address.blankField?
  dsimp only
  split_ifs <;> rfl

/-- The check of the address. -/
theorem reports_addressOf (r : OrderRequest) :
    r.Reports [.address, .street, .city, .country, .zip] (addressOf r.address) := by
  cases haddress : r.address with
  | none => exact .unmet fun hmet ↦ hmet haddress
  | some a =>
      have hpart : ∀ part : Address → String, (∀ b, r.address = some b → Text.trim (part b) ≠ "") ↔
          ¬Text.isBlankText (part a) = true := by
        intro part
        rw [haddress, ← ne_empty_iff]
        simp only [Option.some_inj, forall_eq']
      rw [addressOf_some]
      refine .met (Option.ne_none_iff_exists'.mpr ⟨a, haddress⟩) ?_
      exact .check (hpart Address.street) <| .check (hpart Address.city) <|
        .check (hpart Address.country) <| .check (hpart Address.zip) (.accepts a nofun)

/-- The parts of a card are checked one after the other. -/
theorem cardOf_some (c : Card) :
    cardOf (some c) =
      if Text.isBlankText c.number then .error (.incompleteCard "credit_card_number")
      else if c.expirationMonth.toNat < 1 ∨ 12 < c.expirationMonth.toNat then
        .error (.incompleteCard "credit_card_expiration_month")
      else if c.expirationYear.toInt ≤ 0 then
        .error (.incompleteCard "credit_card_expiration_year")
      else .ok c := by
  unfold cardOf Card.unusableField?
  dsimp only
  split_ifs <;> rfl

/-- The check of the card. -/
theorem reports_cardOf (r : OrderRequest) :
    r.Reports [.card, .cardNumber, .expirationMonth, .expirationYear] (cardOf r.card) := by
  cases hcard : r.card with
  | none => exact .unmet fun hmet ↦ hmet hcard
  | some c =>
      have hof : ∀ holds : Card → Prop, (∀ b, r.card = some b → holds b) ↔ holds c := by
        intro holds
        rw [hcard]
        simp only [Option.some_inj, forall_eq']
      have hmonth : (1 ≤ c.expirationMonth.toNat ∧ c.expirationMonth.toNat ≤ 12) ↔
          ¬(c.expirationMonth.toNat < 1 ∨ 12 < c.expirationMonth.toNat) := by
        omega
      rw [cardOf_some]
      refine .met (Option.ne_none_iff_exists'.mpr ⟨c, hcard⟩) ?_
      exact .check ((hof _).trans (ne_empty_iff c.number)) <| .check ((hof _).trans hmonth) <|
        .check ((hof _).trans Int.not_le.symm) (.accepts c nofun)

/-- The checks of a request, one after the other. -/
theorem validate_eq (r : OrderRequest) :
    r.validate =
      if r.user.isEmpty then .error (r.defect .user)
      else currencyOf r.currency >>= fun currency ↦ addressOf r.address >>= fun address ↦
        cardOf r.card >>= fun card ↦
          .ok ⟨r.user, currency, address, Text.trim r.email, card⟩ := by
  unfold validate
  split <;> rfl

/-- The check of a whole request. -/
theorem reports_validate (r : OrderRequest) : r.Reports requirements r.validate := by
  rw [validate_eq]
  have hnone : ∀ valid : ValidRequest, Reports r [] (.ok valid) := fun valid ↦ .accepts valid nofun
  refine .check (ne_empty_iff r.user.text) ?_
  exact .bind (reports_currencyOf r) fun _ ↦ .bind (reports_addressOf r) fun _ ↦
    .bind (reports_cardOf r) fun _ ↦ hnone _

/-- `r.Becomes valid` says that a request was taken over as it is, but for the currency, which is
named by its capitals, and for the address of the mail, which has lost the blanks at its ends. -/
structure Becomes (r : OrderRequest) (valid : ValidRequest) : Prop where
  user : valid.user = r.user
  currency : valid.currency.text = CurrencyCode.capitals (Text.trim r.currency)
  address : r.address = some valid.address
  email : valid.email = Text.trim r.email
  card : r.card = some valid.card

/-- What two checks accept one after the other, the first has accepted. -/
theorem exists_of_bind_ok {α β : Type} {outcome : Except RequestDefect α}
    {next : α → Except RequestDefect β} {b : β} (h : outcome >>= next = .ok b) :
    ∃ a, outcome = .ok a ∧ next a = .ok b := by
  cases outcome with
  | error d => cases h
  | ok a => exact ⟨a, rfl, h⟩

/-- The currency that is accepted is named by the capitals of the text. -/
theorem text_of_currencyOf {text : String} {code : CurrencyCode} (h : currencyOf text = .ok code) :
    code.text = CurrencyCode.capitals (Text.trim text) := by
  unfold currencyOf at h
  split at h
  · cases h
  cases hparse : CurrencyCode.parse? (Text.trim text) with
  | none =>
      rw [hparse] at h
      cases h
  | some other =>
      rw [hparse] at h
      cases h
      exact CurrencyCode.text_of_parse? hparse

/-- The address that is accepted is the one that is there. -/
theorem eq_of_addressOf {address : Option Address} {a : Address} (h : addressOf address = .ok a) :
    address = some a := by
  cases address with
  | none => cases h
  | some b =>
      rw [addressOf_some] at h
      split_ifs at h
      cases h
      rfl

/-- The card that is accepted is the one that is there. -/
theorem eq_of_cardOf {card : Option Card} {c : Card} (h : cardOf card = .ok c) :
    card = some c := by
  cases card with
  | none => cases h
  | some b =>
      rw [cardOf_some] at h
      split_ifs at h
      cases h
      rfl

/-- What is accepted is the request. -/
theorem becomes_of_validate {r : OrderRequest} {valid : ValidRequest}
    (h : r.validate = .ok valid) : r.Becomes valid := by
  rw [validate_eq] at h
  split at h
  · cases h
  obtain ⟨currency, hcurrency, h⟩ := exists_of_bind_ok h
  obtain ⟨address, haddress, h⟩ := exists_of_bind_ok h
  obtain ⟨card, hcard, h⟩ := exists_of_bind_ok h
  cases h
  exact ⟨rfl, text_of_currencyOf hcurrency, eq_of_addressOf haddress, rfl, eq_of_cardOf hcard⟩

/-- A request becomes only one thing. -/
theorem Becomes.unique {r : OrderRequest} {valid other : ValidRequest} (h : r.Becomes valid)
    (hother : r.Becomes other) : valid = other := by
  obtain ⟨user, ⟨text, hcode⟩, address, email, card⟩ := valid
  obtain ⟨user', ⟨text', hcode'⟩, address', email', card'⟩ := other
  have huser : user = user' := h.user.trans hother.user.symm
  have htext : text = text' := h.currency.trans hother.currency.symm
  have haddress : address = address' := Option.some_inj.mp (h.address.symm.trans hother.address)
  have hemail : email = email' := h.email.trans hother.email.symm
  have hcard : card = card' := Option.some_inj.mp (h.card.symm.trans hother.card)
  subst huser htext haddress hemail hcard
  rfl

end OrderRequest

/-- The request that asks for what has been checked. -/
def ValidRequest.request (valid : ValidRequest) : OrderRequest :=
  ⟨valid.user, valid.currency.text, some valid.address, valid.email, some valid.card⟩

namespace OrderRequest

/-- What was accepted is well formed when it is asked for again, and becomes itself. -/
theorem Becomes.again {r : OrderRequest} {valid : ValidRequest} (hformed : r.WellFormed)
    (h : r.Becomes valid) : valid.request.WellFormed ∧ valid.request.Becomes valid := by
  obtain ⟨huser, hcurrency, haddress, hemail, hcard⟩ := h
  refine ⟨⟨?_, ?_, ?_, ?_⟩, ⟨rfl, ?_, rfl, ?_, rfl⟩⟩
  · show Text.trim valid.user.text ≠ ""
    rw [huser]
    exact hformed.user
  · show IsLetterCode (Text.trim valid.currency.text)
    rw [CurrencyCode.trim_text]
    exact CurrencyCode.isLetterCode_text _
  · obtain ⟨a, ha, hparts⟩ := hformed.address
    cases haddress.symm.trans ha
    exact ⟨_, rfl, hparts⟩
  · obtain ⟨c, hc, hparts⟩ := hformed.card
    cases hcard.symm.trans hc
    exact ⟨_, rfl, hparts⟩
  · show _ = CurrencyCode.capitals (Text.trim valid.currency.text)
    rw [CurrencyCode.trim_text, CurrencyCode.capitals_text]
  · show valid.email = Text.trim valid.email
    rw [hemail, Text.trim_trim]

/-- A request is accepted exactly if it is well formed, and otherwise refused for the first
requirement that it does not meet. What is accepted is the request, and asking for it again is
accepted as the same. -/
theorem validate_reports_first (r : OrderRequest) :
    ((∃ valid, r.validate = .ok valid) ↔ r.WellFormed) ∧
    (∀ d, r.validate = .error d ↔
      ∃ requirement, r.FirstUnmet requirements requirement ∧ d = r.defect requirement) ∧
    ∀ valid, r.validate = .ok valid → r.Becomes valid ∧ valid.request.validate = .ok valid := by
  have haccepts : ∀ r : OrderRequest, (∃ valid, r.validate = .ok valid) ↔ r.WellFormed := fun r ↦
    (reports_validate r).accepts_iff.trans wellFormed_iff.symm
  refine ⟨haccepts r, (reports_validate r).refuses_iff, fun valid hvalid ↦ ?_⟩
  have hbecomes := becomes_of_validate hvalid
  obtain ⟨hformed, hagain⟩ := hbecomes.again ((haccepts r).mp ⟨valid, hvalid⟩)
  obtain ⟨other, hother⟩ := (haccepts valid.request).mpr hformed
  refine ⟨hbecomes, ?_⟩
  rw [hother, hagain.unique (becomes_of_validate hother)]

/-- A request that is well formed, with blanks around its texts. -/
def paddedRequest : OrderRequest :=
  ⟨⟨"u-7"⟩, "\u00a0eur\n", some ⟨"1 Main St", "Springfield", " ", "US", "12345"⟩, " ann@b.c\t",
    some ⟨"4432", 672, 2030, 1⟩⟩

/-- A request with three defects. -/
def faultyRequest : OrderRequest :=
  { paddedRequest with currency := " eu ", address := none, card := none }

/-- The request with blanks is accepted, and what it becomes is accepted again; the one with three
defects is refused for its currency, with the text as it came. -/
theorem padded_request_is_accepted :
    ∃ valid, paddedRequest.validate = .ok valid ∧ valid.currency.text = "EUR" ∧
      valid.email = "ann@b.c" ∧ valid.request.validate = .ok valid ∧
      faultyRequest.validate = .error (.invalidCurrency " eu ") := by
  obtain ⟨haccepted, -, hkept⟩ := validate_reports_first paddedRequest
  have htrim : Text.trim paddedRequest.currency = "eur" := by decide
  have hcode : IsLetterCode (Text.trim paddedRequest.currency) := by
    rw [htrim]
    simp [IsLetterCode]
  obtain ⟨valid, hvalid⟩ :=
    haccepted.mpr ⟨by decide, hcode, ⟨_, rfl, by decide⟩, ⟨_, rfl, by decide⟩⟩
  obtain ⟨hbecomes, hagain⟩ := hkept valid hvalid
  refine ⟨valid, hvalid, hbecomes.currency.trans (by decide), hbecomes.email.trans (by decide),
    hagain, ?_⟩
  refine ((validate_reports_first faultyRequest).2.1 _).mpr ⟨.currencyCode, ⟨?_, ?_⟩, rfl⟩
  · rintro ⟨hlength, -⟩
    exact absurd hlength (by decide)
  · have huser : Text.trim faultyRequest.user.text ≠ "" := by decide
    have hcurrency : Text.trim faultyRequest.currency ≠ "" := by decide
    exact ⟨[.user, .currency], _, rfl, by simp [Meets, huser, hcurrency]⟩

end OrderRequest

end Storefront
