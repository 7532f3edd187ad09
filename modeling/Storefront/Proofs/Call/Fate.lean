import Storefront.Proofs.Call.Limits

/-!
# Which instant decides

What becomes of work is decided by three instants: the cancellation of its caller, the deadline, and
the moment at which the work is ready. `Decides` spells out for each outcome how the instants lie
that lead to it, ties included, and `decides_iff` says that this is the fate of the work. It is also
what somebody finds who looks at every moment, first for the cancellation, then for the deadline,
and then for the work, `watches_fate`.
-/

namespace Storefront

namespace ComesFirst

variable {x : Nat × Option Interruption} {instant : Option Nat} {reason : Option Interruption}
  {rest : List (Nat × Option Interruption)}

/-- An instant that there may be comes first if nothing behind it is earlier, and otherwise what
comes first behind it is earlier. -/
theorem instant_append_iff :
    ComesFirst x ((instant.map fun t ↦ (t, reason)).toList ++ rest) ↔
      (∃ t, instant = some t ∧ x = (t, reason) ∧ ∀ y ∈ rest, t ≤ y.1) ∨
        (∀ t, instant = some t → x.1 < t) ∧ ComesFirst x rest := by
  cases instant with
  | none =>
      refine ⟨fun h ↦ .inr ⟨nofun, h⟩, ?_⟩
      rintro (⟨_, h, -⟩ | ⟨-, h⟩)
      · cases h
      · exact h
  | some t =>
      constructor
      · rintro ⟨before, after, hsplit, hbefore, hafter⟩
        cases before with
        | nil =>
            cases hsplit
            exact .inl ⟨t, rfl, rfl, hafter⟩
        | cons head before =>
            cases hsplit
            obtain ⟨hhead, hbefore⟩ := List.forall_mem_cons.mp hbefore
            refine .inr ⟨?_, before, after, rfl, hbefore, hafter⟩
            rintro _ ⟨⟩
            exact hhead
      · rintro (⟨_, ⟨⟩, rfl, hafter⟩ | ⟨hhead, before, after, rfl, hbefore, hafter⟩)
        · exact ⟨[], rest, rfl, nofun, hafter⟩
        · exact ⟨(t, reason) :: before, after, rfl,
            List.forall_mem_cons.mpr ⟨hhead t rfl, hbefore⟩, hafter⟩

/-- One instant comes first where there is no other. -/
theorem instant_iff :
    ComesFirst x (instant.map fun t ↦ (t, reason)).toList ↔
      ∃ t, instant = some t ∧ x = (t, reason) := by
  rw [← List.append_nil (instant.map _).toList, instant_append_iff]
  constructor
  · rintro (⟨t, ht, hx, -⟩ | ⟨-, _, _, h, -⟩)
    · exact ⟨t, ht, hx⟩
    · exact absurd (List.append_eq_nil_iff.mp h.symm).2 nofun
  · rintro ⟨t, ht, hx⟩
    exact .inl ⟨t, ht, hx, nofun⟩

end ComesFirst

namespace Limits

/-- An instant that there may be is not before a moment if what is listed for it is not. -/
theorem forall_mem_instant_iff {instant : Option Nat} {reason : Option Interruption} {t : Nat} :
    (∀ y ∈ (instant.map fun s ↦ (s, reason)).toList, t ≤ y.1) ↔ ∀ s, instant = some s → t ≤ s := by
  cases instant <;> simp

/-- Nobody has given up yet. -/
structure IsAhead (l : Limits) (now : Nat) : Prop where
  lt_cancelAt : ∀ c, l.cancelAt = some c → now < c
  lt_deadline : ∀ d, l.deadline = some d → now < d

/-- `l.Decides now ready fate` says how the instants lie that lead to a fate. Work whose caller has
given up before is not started; other work belongs to the earliest instant. Whether an instant must
be earlier than another or may be as early tells who wins a tie. -/
inductive Decides (l : Limits) (now : Nat) (ready : Option Nat) : Fate → Prop where
  | cancelledBefore {c} : l.cancelAt = some c → c ≤ now → Decides l now ready (.refused .cancelled)
  | overdueBefore {d} : (∀ c, l.cancelAt = some c → now < c) → l.deadline = some d → d ≤ now →
      Decides l now ready (.refused .deadlineExceeded)
  | cancelled {c} : l.IsAhead now → l.cancelAt = some c → (∀ d, l.deadline = some d → c ≤ d) →
      (∀ r, ready = some r → c ≤ r) → Decides l now ready (.ends c (some .cancelled))
  | overdue {d} : l.IsAhead now → l.deadline = some d → (∀ c, l.cancelAt = some c → d < c) →
      (∀ r, ready = some r → d ≤ r) → Decides l now ready (.ends d (some .deadlineExceeded))
  | finished {r} : l.IsAhead now → ready = some r → (∀ c, l.cancelAt = some c → r < c) →
      (∀ d, l.deadline = some d → r < d) → Decides l now ready (.ends r .none)
  | never : l.cancelAt = .none → l.deadline = .none → ready = .none → Decides l now ready .never

variable {l : Limits} {now : Nat} {ready : Option Nat} {fate : Fate}

/-- Work whose request is cancelled is not started. -/
theorem refusal?_of_cancelled {c : Nat} (hc : l.cancelAt = some c) (hpast : c ≤ now) :
    l.refusal? now = some .cancelled :=
  if_pos (any_le_iff.mpr ⟨c, hc, hpast⟩)

/-- Work whose deadline has passed is not started either. -/
theorem refusal?_of_overdue {d : Nat} (hcancel : ∀ c, l.cancelAt = some c → now < c)
    (hd : l.deadline = some d) (hpast : d ≤ now) : l.refusal? now = some .deadlineExceeded :=
  (if_neg (not_any_le_iff.mpr hcancel)).trans (if_pos (any_le_iff.mpr ⟨d, hd, hpast⟩))

/-- Work for which nobody has given up yet is started. -/
theorem IsAhead.refusal?_eq (h : l.IsAhead now) : l.refusal? now = .none :=
  (if_neg (not_any_le_iff.mpr h.lt_cancelAt)).trans (if_neg (not_any_le_iff.mpr h.lt_deadline))

/-- The fate of work that is not started is to be refused. -/
theorem fate_of_refusal? {reason : Interruption} (h : l.refusal? now = some reason)
    (ready : Option Nat) : l.fate now ready = .refused reason := by
  unfold fate
  rw [h]

/-- The fate of work that is started is to end at the earliest instant. -/
theorem IsAhead.fate_of_earliest? (h : l.IsAhead now) {time : Nat}
    {interruption : Option Interruption}
    (hearliest : earliest? (l.ends ready) = some (time, interruption)) :
    l.fate now ready = .ends time interruption := by
  unfold fate
  rw [h.refusal?_eq, hearliest]

/-- The fate of work that is started is never to end if there is no instant. -/
theorem IsAhead.fate_of_none (h : l.IsAhead now) (hnone : earliest? (l.ends ready) = .none) :
    l.fate now ready = .never := by
  unfold fate
  rw [h.refusal?_eq, hnone]

/-- The instant that comes first decides on it. -/
theorem IsAhead.fate_of_comesFirst (h : l.IsAhead now) {time : Nat}
    {interruption : Option Interruption}
    (hfirst : ComesFirst (time, interruption) (l.ends ready)) :
    l.fate now ready = .ends time interruption := by
  cases hearliest : earliest? (l.ends ready) with
  | none =>
      have hmem := hfirst.mem
      rw [ComesFirst.eq_nil_of_earliest? hearliest] at hmem
      cases hmem
  | some x =>
      cases hfirst.unique (.of_earliest? hearliest)
      exact h.fate_of_earliest? hearliest

/-- Which instant comes first can be told from how they lie. -/
theorem comesFirst_ends_iff {x : Nat × Option Interruption} :
    ComesFirst x (l.ends ready) ↔
      (∃ c, l.cancelAt = some c ∧ x = (c, some .cancelled) ∧
        (∀ d, l.deadline = some d → c ≤ d) ∧ ∀ r, ready = some r → c ≤ r) ∨
      (∀ c, l.cancelAt = some c → x.1 < c) ∧
        ((∃ d, l.deadline = some d ∧ x = (d, some .deadlineExceeded) ∧
          ∀ r, ready = some r → d ≤ r) ∨
        (∀ d, l.deadline = some d → x.1 < d) ∧ ∃ r, ready = some r ∧ x = (r, .none)) := by
  unfold ends
  rw [List.append_assoc, ComesFirst.instant_append_iff, ComesFirst.instant_append_iff,
    ComesFirst.instant_iff]
  simp only [List.forall_mem_append, forall_mem_instant_iff]

/-- The instants decide on the fate of work. -/
theorem decides_fate (l : Limits) (now : Nat) (ready : Option Nat) :
    l.Decides now ready (l.fate now ready) := by
  by_cases hcancelled : l.cancelAt.any (· ≤ now) = true
  · obtain ⟨c, hc, hpast⟩ := any_le_iff.mp hcancelled
    rw [fate_of_refusal? (refusal?_of_cancelled hc hpast)]
    exact .cancelledBefore hc hpast
  by_cases hoverdue : l.deadline.any (· ≤ now) = true
  · obtain ⟨d, hd, hpast⟩ := any_le_iff.mp hoverdue
    have hcancel := not_any_le_iff.mp hcancelled
    rw [fate_of_refusal? (refusal?_of_overdue hcancel hd hpast)]
    exact .overdueBefore hcancel hd hpast
  have hahead : l.IsAhead now := ⟨not_any_le_iff.mp hcancelled, not_any_le_iff.mp hoverdue⟩
  cases hearliest : earliest? (l.ends ready) with
  | none =>
      rw [hahead.fate_of_none hearliest]
      have hnil := ComesFirst.eq_nil_of_earliest? hearliest
      unfold ends at hnil
      simp only [List.append_eq_nil_iff, Option.toList_eq_nil_iff, Option.map_eq_none_iff] at hnil
      exact .never hnil.1.1 hnil.1.2 hnil.2
  | some x =>
      rw [hahead.fate_of_earliest? hearliest]
      rcases comesFirst_ends_iff.mp (.of_earliest? hearliest) with
        ⟨c, hc, rfl, hd, hr⟩ | ⟨hc, ⟨d, hd, rfl, hr⟩ | ⟨hd, r, hr, rfl⟩⟩
      · exact .cancelled hahead hc hd hr
      · exact .overdue hahead hd hc hr
      · exact .finished hahead hr hc hd

/-- What the instants decide becomes of the work. -/
theorem Decides.fate_eq (h : l.Decides now ready fate) : l.fate now ready = fate := by
  cases h with
  | cancelledBefore hc hpast => exact fate_of_refusal? (refusal?_of_cancelled hc hpast) ready
  | overdueBefore hcancel hd hpast =>
      exact fate_of_refusal? (refusal?_of_overdue hcancel hd hpast) ready
  | cancelled hahead hc hd hr =>
      exact hahead.fate_of_comesFirst (comesFirst_ends_iff.mpr (.inl ⟨_, hc, rfl, hd, hr⟩))
  | overdue hahead hd hc hr =>
      exact hahead.fate_of_comesFirst
        (comesFirst_ends_iff.mpr (.inr ⟨hc, .inl ⟨_, hd, rfl, hr⟩⟩))
  | finished hahead hr hc hd =>
      exact hahead.fate_of_comesFirst
        (comesFirst_ends_iff.mpr (.inr ⟨hc, .inr ⟨hd, _, hr, rfl⟩⟩))
  | never hc hd hr =>
      have hahead : l.IsAhead now := ⟨by rw [hc]; nofun, by rw [hd]; nofun⟩
      refine hahead.fate_of_none ?_
      rw [ends, hc, hd, hr]
      rfl

/-- What becomes of work is what the instants decide, and nothing else. -/
theorem decides_iff : l.Decides now ready fate ↔ l.fate now ready = fate :=
  ⟨Decides.fate_eq, fun h ↦ h ▸ l.decides_fate now ready⟩

/-! ## Looking at every moment -/

/-- What is found at a moment: a reason to give up, the cancellation before the deadline, or else
the work, if it is ready. -/
def look? (l : Limits) (ready : Option Nat) (moment : Nat) : Option (Option Interruption) :=
  match l.refusal? moment with
  | some reason => some (some reason)
  | .none => if ready.any (· ≤ moment) then some .none else .none

/-- `l.Watches now ready fate` says what somebody finds who looks at every moment from now on. -/
inductive Watches (l : Limits) (now : Nat) (ready : Option Nat) : Fate → Prop where
  /-- An interruption is there right away, before the work is looked at. -/
  | refused {reason} : l.look? ready now = some (some reason) →
      Watches l now ready (.refused reason)
  /-- Nothing is there until it is over. -/
  | ends {time interruption} : (∀ moment, now ≤ moment → moment < time →
      l.look? ready moment = .none) → l.look? ready (max now time) = some interruption →
      Watches l now ready (.ends time interruption)
  /-- Nothing is ever there. -/
  | never : (∀ moment, now ≤ moment → l.look? ready moment = .none) → Watches l now ready .never

/-- A reason to give up is found before anything else. -/
theorem look?_of_refusal? {moment : Nat} {reason : Interruption}
    (h : l.refusal? moment = some reason) (ready : Option Nat) :
    l.look? ready moment = some (some reason) := by
  unfold look?
  rw [h]

/-- The work is found once it is ready, if nobody has given up. -/
theorem IsAhead.look?_eq_some {moment r : Nat} (h : l.IsAhead moment) (hr : ready = some r)
    (hle : r ≤ moment) : l.look? ready moment = some .none := by
  unfold look?
  rw [h.refusal?_eq]
  exact if_pos (any_le_iff.mpr ⟨r, hr, hle⟩)

/-- Nothing is found before a time that no instant comes before. -/
theorem look?_eq_none {time moment : Nat} (hcancel : ∀ c, l.cancelAt = some c → time ≤ c)
    (hdeadline : ∀ d, l.deadline = some d → time ≤ d) (hready : ∀ r, ready = some r → time ≤ r)
    (hbefore : moment < time) : l.look? ready moment = .none := by
  have hahead : l.IsAhead moment :=
    ⟨fun c hc ↦ Nat.lt_of_lt_of_le hbefore (hcancel c hc),
      fun d hd ↦ Nat.lt_of_lt_of_le hbefore (hdeadline d hd)⟩
  unfold look?
  rw [hahead.refusal?_eq]
  exact if_neg (not_any_le_iff.mpr fun r hr ↦ Nat.lt_of_lt_of_le hbefore (hready r hr))

/-- The time of an instant does not come after it. -/
theorem le_of_eq_some {instant : Option Nat} {time : Nat} (h : instant = some time) :
    ∀ t, instant = some t → time ≤ t := by
  rw [h]
  rintro _ ⟨⟩
  exact Nat.le_refl time

/-- What the instants decide is what is found. -/
theorem Decides.watches (h : l.Decides now ready fate) : l.Watches now ready fate := by
  cases h with
  | cancelledBefore hc hpast =>
      exact .refused (look?_of_refusal? (refusal?_of_cancelled hc hpast) ready)
  | overdueBefore hcancel hd hpast =>
      exact .refused (look?_of_refusal? (refusal?_of_overdue hcancel hd hpast) ready)
  | @cancelled time hahead hc hdeadline hready =>
      have hfound : l.refusal? (max now time) = some .cancelled :=
        refusal?_of_cancelled hc (Nat.le_max_right now time)
      exact .ends (fun _ _ ↦ look?_eq_none (le_of_eq_some hc) hdeadline hready)
        (look?_of_refusal? hfound ready)
  | @overdue time hahead hd hcancel hready =>
      have hfound : l.refusal? (max now time) = some .deadlineExceeded :=
        refusal?_of_overdue (fun c hc ↦ Nat.max_lt.mpr ⟨hahead.lt_cancelAt c hc, hcancel c hc⟩) hd
          (Nat.le_max_right now time)
      exact .ends (fun _ _ ↦ look?_eq_none (fun c hc ↦ Nat.le_of_lt (hcancel c hc))
        (le_of_eq_some hd) hready) (look?_of_refusal? hfound ready)
  | @finished time hahead hr hcancel hdeadline =>
      -- When the work is ready, all limits lie ahead still.
      have hfound : l.IsAhead (max now time) :=
        ⟨fun c hc ↦ Nat.max_lt.mpr ⟨hahead.lt_cancelAt c hc, hcancel c hc⟩,
          fun d hd ↦ Nat.max_lt.mpr ⟨hahead.lt_deadline d hd, hdeadline d hd⟩⟩
      exact .ends (fun _ _ ↦ look?_eq_none (fun c hc ↦ Nat.le_of_lt (hcancel c hc))
        (fun d hd ↦ Nat.le_of_lt (hdeadline d hd)) (le_of_eq_some hr))
        (hfound.look?_eq_some hr (Nat.le_max_right now time))
  | never hc hd hr =>
      refine .never fun moment _ ↦ look?_eq_none ?_ ?_ ?_ (Nat.lt_succ_self moment)
      · rw [hc]
        nofun
      · rw [hd]
        nofun
      · rw [hr]
        nofun

/-- The fate of work is what is found. -/
theorem watches_fate (l : Limits) (now : Nat) (ready : Option Nat) :
    l.Watches now ready (l.fate now ready) :=
  (l.decides_fate now ready).watches

end Limits

end Storefront
