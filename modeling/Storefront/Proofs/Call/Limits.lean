import Mathlib.Data.List.Basic
import Storefront.Call.Limits

/-!
# What ends work

Work is over at the first of several instants: the cancellation of its caller, the deadline, or the
moment at which it is ready. `ComesFirst` says what it means to be the first where two instants may
be the same, and `Limits.comesFirst_ending` that the fate of work is to end at the first of its
instants.
-/

namespace Storefront

/-- `ComesFirst x timed` says that of timed things in a list nothing is earlier than `x`, and what
is as early stands behind it. -/
def ComesFirst {α : Type} (x : Nat × α) (timed : List (Nat × α)) : Prop :=
  ∃ before after, timed = before ++ x :: after ∧ (∀ y ∈ before, x.1 < y.1) ∧ ∀ y ∈ after, x.1 ≤ y.1

namespace ComesFirst

variable {α : Type} {x y : Nat × α} {timed : List (Nat × α)}

/-- Only one thing comes first. -/
theorem unique (hx : ComesFirst x timed) (hy : ComesFirst y timed) : x = y := by
  obtain ⟨before, after, rfl, hbefore, hafter⟩ := hx
  obtain ⟨before', after', heq, hbefore', hafter'⟩ := hy
  rcases List.append_eq_append_iff.mp heq with ⟨more, rfl, hmore⟩ | ⟨more, rfl, hmore⟩
  · cases more with
    | nil =>
        cases hmore
        rfl
    | cons z more =>
        -- The other one stands behind the first and in front of it.
        cases hmore
        have := hbefore' x (by simp)
        have := hafter y (by simp)
        omega
  · cases more with
    | nil =>
        cases hmore
        rfl
    | cons z more =>
        cases hmore
        have := hbefore y (by simp)
        have := hafter' x (by simp)
        omega

/-- There is an earliest of some timed things. -/
theorem eq_nil_of_earliest? (h : Limits.earliest? timed = none) : timed = [] := by
  cases timed with
  | nil => rfl
  | cons head rest =>
      unfold Limits.earliest? at h
      split at h
      · cases h
      · split at h <;> cases h

/-- What is found to be the earliest comes first. -/
theorem of_earliest? (h : Limits.earliest? timed = some x) : ComesFirst x timed := by
  induction timed generalizing x with
  | nil => cases h
  | cons head rest ih =>
      unfold Limits.earliest? at h
      split at h
      · rename_i hrest
        cases h
        rw [eq_nil_of_earliest? hrest]
        exact ⟨[], [], rfl, nofun, nofun⟩
      · rename_i other hrest
        obtain ⟨before, after, rfl, hbefore, hafter⟩ := ih hrest
        split at h
        · rename_i hearlier
          cases h
          exact ⟨head :: before, after, rfl, List.forall_mem_cons.mpr ⟨hearlier, hbefore⟩, hafter⟩
        · cases h
          refine ⟨[], before ++ other :: after, rfl, nofun, fun y hy ↦ ?_⟩
          rcases List.mem_append.mp hy with hy | hy
          · have := hbefore y hy
            omega
          · rcases List.mem_cons.mp hy with rfl | hy
            · omega
            · have := hafter y hy
              omega

/-- What comes first is not later than anything. -/
theorem le (h : ComesFirst x timed) : ∀ y ∈ timed, x.1 ≤ y.1 := by
  obtain ⟨before, after, rfl, hbefore, hafter⟩ := h
  intro y hy
  rcases List.mem_append.mp hy with hy | hy
  · exact Nat.le_of_lt (hbefore y hy)
  · rcases List.mem_cons.mp hy with rfl | hy
    · exact Nat.le_refl _
    · exact hafter y hy

/-- What comes first is one of the things. -/
theorem mem (h : ComesFirst x timed) : x ∈ timed := by
  obtain ⟨before, after, rfl, -, -⟩ := h
  exact List.mem_append_right before List.mem_cons_self

/-- What comes first also does so before one more thing that is not earlier. -/
theorem append (h : ComesFirst x timed) (hle : x.1 ≤ y.1) : ComesFirst x (timed ++ [y]) := by
  obtain ⟨before, after, rfl, hbefore, hafter⟩ := h
  refine ⟨before, after ++ [y], by simp, hbefore, fun z hz ↦ ?_⟩
  rcases List.mem_append.mp hz with hz | hz
  · exact hafter z hz
  · rw [List.mem_singleton.mp hz]
    exact hle

/-- One more thing comes first if it is earlier than what did so before. -/
theorem last (h : ComesFirst x timed) (hlt : y.1 < x.1) : ComesFirst y (timed ++ [y]) :=
  ⟨timed, [], rfl, fun z hz ↦ Nat.lt_of_lt_of_le hlt (h.le z hz), nofun⟩

end ComesFirst

namespace Limits

/-- What may end work that is offered now, each with its time: the cancellation, the deadline, and
the moment at which the work is ready. A limit that lies in the past ends the work now. -/
def instants (limits : Limits) (now ready : Nat) : List (Nat × Option Interruption) :=
  (limits.cancelAt.map fun c ↦ (max now c, some .cancelled)).toList ++
    (limits.deadline.map fun d ↦ (max now d, some .deadlineExceeded)).toList ++ [(ready, .none)]

/-- Limits in the future end work at their own times. -/
theorem instants_eq_ends {limits : Limits} {now : Nat}
    (hcancel : ∀ c, limits.cancelAt = some c → now < c)
    (hdeadline : ∀ d, limits.deadline = some d → now < d) (ready : Nat) :
    limits.instants now ready = limits.ends (some ready) := by
  have hmax : ∀ {limit : Option Nat} {reason : Option Interruption},
      (∀ t, limit = some t → now < t) →
      limit.map (fun t ↦ (max now t, reason)) = limit.map fun t ↦ (t, reason) := by
    intro limit reason h
    refine Option.map_congr fun t ht ↦ ?_
    rw [Nat.max_eq_right (Nat.le_of_lt (h t ht))]
  unfold instants ends
  rw [hmax hcancel, hmax hdeadline]
  rfl

/-- No instant lies before now. -/
theorem le_of_mem_instants {limits : Limits} {now ready : Nat} (hready : now ≤ ready) :
    ∀ y ∈ limits.instants now ready, now ≤ y.1 := by
  intro y hy
  unfold instants at hy
  rcases List.mem_append.mp hy with hy | hy
  · rcases List.mem_append.mp hy with hy | hy
    · obtain ⟨c, -, rfl⟩ := Option.map_eq_some_iff.mp (Option.mem_toList.mp hy)
      exact Nat.le_max_left now c
    · obtain ⟨d, -, rfl⟩ := Option.map_eq_some_iff.mp (Option.mem_toList.mp hy)
      exact Nat.le_max_left now d
  · rw [List.mem_singleton.mp hy]
    exact hready

/-- A limit lies in the past or it does not. -/
theorem any_le_iff {limit : Option Nat} {now : Nat} :
    limit.any (· ≤ now) = true ↔ ∃ t, limit = some t ∧ t ≤ now := by
  cases limit <;> simp

/-- A limit does not lie in the past exactly if it lies ahead. -/
theorem not_any_le_iff {limit : Option Nat} {now : Nat} :
    ¬ limit.any (· ≤ now) = true ↔ ∀ t, limit = some t → now < t := by
  cases limit <;> simp

/-- Work is over at the instant that comes first. -/
theorem comesFirst_ending (limits : Limits) {now ready : Nat} (hready : now ≤ ready) :
    ComesFirst ((limits.fate now (some ready)).ending now ready) (limits.instants now ready) := by
  have hle := limits.le_of_mem_instants hready
  unfold fate refusal? isCancelled isOverdue
  by_cases hcancelled : limits.cancelAt.any (· ≤ now) = true
  · rw [if_pos hcancelled]
    obtain ⟨c, hc, hpast⟩ := any_le_iff.mp hcancelled
    unfold instants at hle ⊢
    rw [hc, Option.map_some, Nat.max_eq_left hpast] at hle ⊢
    exact ⟨[], _, rfl, nofun, fun y hy ↦ hle y (List.mem_cons_of_mem _ hy)⟩
  rw [if_neg hcancelled]
  have hcancel := not_any_le_iff.mp hcancelled
  by_cases hoverdue : limits.deadline.any (· ≤ now) = true
  · rw [if_pos hoverdue]
    obtain ⟨d, hd, hpast⟩ := any_le_iff.mp hoverdue
    unfold instants
    rw [hd, Option.map_some, Nat.max_eq_left hpast, List.append_assoc]
    -- The cancellation lies ahead, so it is not as early as the deadline.
    refine ⟨_, _, rfl, fun y hy ↦ ?_, fun y hy ↦ ?_⟩
    · obtain ⟨c, hc, rfl⟩ := Option.map_eq_some_iff.mp (Option.mem_toList.mp hy)
      exact Nat.lt_of_lt_of_le (hcancel c hc) (Nat.le_max_right now c)
    · rw [List.mem_singleton.mp hy]
      exact hready
  · rw [if_neg hoverdue]
    rw [instants_eq_ends hcancel (not_any_le_iff.mp hoverdue)]
    cases hearliest : earliest? (limits.ends (some ready)) with
    | none =>
        have hnil := ComesFirst.eq_nil_of_earliest? hearliest
        exact absurd (List.append_eq_nil_iff.mp hnil).2 nofun
    | some x => exact .of_earliest? hearliest

/-- Work that is not interrupted is started, and is over when it is ready. -/
theorem fate_of_uninterrupted {limits : Limits} {now ready : Nat} (hready : now ≤ ready)
    (h : ((limits.fate now (some ready)).ending now ready).2 = .none) :
    limits.fate now (some ready) = .ends ready .none := by
  have hmem := (limits.comesFirst_ending hready).mem
  cases hfate : limits.fate now (some ready) with
  | refused reason =>
      rw [hfate] at h
      cases h
  | never =>
      unfold fate at hfate
      split at hfate
      · cases hfate
      · split at hfate
        · rename_i hearliest
          have hnone := ComesFirst.eq_nil_of_earliest? hearliest
          exact absurd (List.append_eq_nil_iff.mp hnone).2 nofun
        · cases hfate
  | ends time interruption =>
      rw [hfate] at h hmem
      cases (h : interruption = .none)
      -- Of what may end work only its being ready is no interruption.
      rcases List.mem_append.mp hmem with hmem | hmem
      · rcases List.mem_append.mp hmem with hmem | hmem
        · obtain ⟨_, -, hpair⟩ := Option.map_eq_some_iff.mp (Option.mem_toList.mp hmem)
          cases hpair
        · obtain ⟨_, -, hpair⟩ := Option.map_eq_some_iff.mp (Option.mem_toList.mp hmem)
          cases hpair
      · cases List.mem_singleton.mp hmem
        rfl

end Limits

end Storefront
