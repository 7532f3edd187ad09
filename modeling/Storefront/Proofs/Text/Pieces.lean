import Mathlib.Data.List.Basic
import Mathlib.Data.List.TakeWhile
import Storefront.Text.Pieces

/-!
# Cutting and joining

A text is cut at the first separator, `cutAt?_append`, and into the pieces between all of them.
Texts that do not hold the separator are the pieces of what they are joined to, `pieces_join`.
-/

namespace Storefront.Text

/-- What does not hold the separator stands before it. -/
theorem before_eq_self {separator : Char} {cs : List Char} (h : separator ∉ cs) :
    before separator cs = cs := by
  refine List.takeWhile_eq_self_iff.mpr fun c hc ↦ ?_
  have hne : c ≠ separator := fun heq ↦ h (heq ▸ hc)
  exact bne_iff_ne.mpr hne

/-- What stands before the first separator is not changed by what follows it. -/
theorem before_append_cons {separator : Char} {first : List Char} (h : separator ∉ first)
    (rest : List Char) : before separator (first ++ separator :: rest) = first := by
  have hall : ∀ c ∈ first, (c != separator) = true := fun c hc ↦
    bne_iff_ne.mpr fun heq ↦ h (heq ▸ hc)
  rw [before, List.takeWhile_append_of_pos hall]
  simp

/-- What holds no separator stands before it, with what stands before it in the rest. -/
theorem before_append {separator : Char} {first : List Char} (h : separator ∉ first)
    (rest : List Char) : before separator (first ++ rest) = first ++ before separator rest :=
  List.takeWhile_append_of_pos fun _ hc ↦ bne_iff_ne.mpr fun heq ↦ h (heq ▸ hc)

/-- A text is cut at the first separator. -/
theorem cutAt?_append {separator : Char} {first : List Char} (h : separator ∉ first)
    (rest : List Char) : cutAt? separator (first ++ separator :: rest) = some (first, rest) := by
  have hall : ∀ c ∈ first, (c != separator) = true := fun c hc ↦
    bne_iff_ne.mpr fun heq ↦ h (heq ▸ hc)
  have hafter : (first ++ separator :: rest).dropWhile (· != separator) = separator :: rest := by
    rw [List.dropWhile_append_of_pos hall]
    simp
  rw [cutAt?, hafter, before_append_cons h]

/-- A text that ends before a separator can be told from what follows it. -/
theorem append_separator_inj {separator : Char} {first second x y : List Char}
    (hfirst : separator ∉ first) (hsecond : separator ∉ second)
    (h : first ++ separator :: x = second ++ separator :: y) : first = second ∧ x = y := by
  have hcut := cutAt?_append hfirst x
  rw [h, cutAt?_append hsecond, Option.some_inj, Prod.mk.injEq] at hcut
  exact ⟨hcut.1.symm, hcut.2.symm⟩

/-- A text that begins after a separator can be told from what precedes it. -/
theorem append_separator_inj_right {separator : Char} {first second x y : List Char}
    (hx : separator ∉ x) (hy : separator ∉ y)
    (h : first ++ separator :: x = second ++ separator :: y) : first = second ∧ x = y := by
  have hreverse : x.reverse ++ separator :: first.reverse =
      y.reverse ++ separator :: second.reverse := by
    simpa using congrArg List.reverse h
  obtain ⟨hlast, hfirst⟩ := append_separator_inj (by simpa using hx) (by simpa using hy) hreverse
  exact ⟨List.reverse_inj.mp hfirst, List.reverse_inj.mp hlast⟩

/-- Where there is no separator nothing is cut. -/
theorem cutAt?_of_not_mem {separator : Char} {cs : List Char} (h : separator ∉ cs) :
    cutAt? separator cs = none := by
  have hnil : cs.dropWhile (· != separator) = [] :=
    List.dropWhile_eq_nil_iff.mpr fun c hc ↦ bne_iff_ne.mpr fun heq ↦ h (heq ▸ hc)
  rw [cutAt?, hnil]

/-- A separator is where pieces are cut. -/
theorem pieces_append_cons (separator : Char) (first rest : List Char) :
    pieces separator (first ++ separator :: rest) =
      pieces separator first ++ pieces separator rest :=
  List.splitOn_append_cons_self first rest

/-- Without a separator there is one piece. -/
theorem pieces_of_not_mem {separator : Char} {cs : List Char} (h : separator ∉ cs) :
    pieces separator cs = [cs] := by
  have hone : ([separator].intercalate [cs]).splitOn separator = [cs] :=
    List.splitOn_intercalate separator (by simpa using h) (by simp)
  simpa [pieces] using hone

/-- What is joined holds the characters of its parts and of what joins them. -/
theorem mem_intercalate {separator : List Char} {parts : List (List Char)} {c : Char}
    (h : c ∈ separator.intercalate parts) : c ∈ separator ∨ ∃ part ∈ parts, c ∈ part := by
  induction parts with
  | nil => simp at h
  | cons part rest ih =>
      cases rest with
      | nil => exact .inr ⟨part, List.mem_cons_self, by simpa using h⟩
      | cons next more =>
          rw [List.intercalate_cons_cons] at h
          rcases List.mem_append.mp h with h | h
          · rcases List.mem_append.mp h with h | h
            · exact .inr ⟨part, List.mem_cons_self, h⟩
            · exact .inl h
          · exact (ih h).imp_right fun ⟨p, hp, hc⟩ ↦ ⟨p, List.mem_cons_of_mem _ hp, hc⟩

/-- Texts without the separator are the pieces of what they are joined to. -/
theorem pieces_join {separator : Char} {texts : List String} (hne : texts ≠ [])
    (h : ∀ s ∈ texts, separator ∉ s.toList) :
    pieces separator (join (String.singleton separator) texts).toList =
      texts.map String.toList := by
  rw [pieces, join, String.toList_intercalate, String.toList_singleton]
  refine List.splitOn_intercalate separator ?_ (by simpa using hne)
  intro cs hcs
  obtain ⟨s, hs, rfl⟩ := List.mem_map.mp hcs
  exact h s hs

end Storefront.Text
