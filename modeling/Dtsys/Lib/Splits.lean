/-
  SPLITTING A LIST at separators: what the pieces have to do with the list.

  * `exists_mem_splitOnP` — what is no separator is in a piece.
  * `splitOnP_congr` — two kinds of separators that agree on the list split it alike.
  * `eq_of_splitOn_singleton`, `eq_of_splitOn_pair` — the list, where there are one or two pieces.

  A separator is whatever a predicate says it is, and the elements are of any type; a parser of fields with
  separators uses the lemmas on characters.
-/
import Mathlib.Data.List.Basic

namespace Dtsys

namespace Splits

variable {α : Type} {p q : α → Bool}

/-- What is no separator is in one of the pieces. -/
theorem exists_mem_splitOnP : ∀ {l : List α} {x : α}, x ∈ l → p x = false →
    ∃ piece ∈ l.splitOnP p, x ∈ piece := by
  intro l
  induction l with
  | nil => exact fun hx _ => absurd hx List.not_mem_nil
  | cons y l ih =>
    intro x hx hpx
    rw [List.splitOnP_cons_eq_if_modifyHead]
    split
    · next hy =>
      rcases List.mem_cons.mp hx with rfl | hx
      · rw [hpx] at hy
        cases hy
      · obtain ⟨piece, hpiece, hmem⟩ := ih hx hpx
        exact ⟨piece, List.mem_cons_of_mem _ hpiece, hmem⟩
    · obtain ⟨first, rest, hsplit⟩ := List.exists_cons_of_ne_nil (List.splitOnP_ne_nil p l)
      rw [hsplit, List.modifyHead_cons]
      rcases List.mem_cons.mp hx with rfl | hx
      · exact ⟨_, List.mem_cons_self, List.mem_cons_self⟩
      · obtain ⟨piece, hpiece, hmem⟩ := ih hx hpx
        rw [hsplit] at hpiece
        rcases List.mem_cons.mp hpiece with rfl | hpiece
        · exact ⟨_, List.mem_cons_self, List.mem_cons_of_mem _ hmem⟩
        · exact ⟨piece, List.mem_cons_of_mem _ hpiece, hmem⟩

/-- Separators that agree on the list split it alike. -/
theorem splitOnP_congr : ∀ {l : List α}, (∀ x ∈ l, p x = q x) → l.splitOnP p = l.splitOnP q := by
  intro l
  induction l with
  | nil => exact fun _ => rfl
  | cons y l ih =>
    intro h
    rw [List.splitOnP_cons_eq_if_modifyHead, List.splitOnP_cons_eq_if_modifyHead,
      h y List.mem_cons_self, ih fun x hx => h x (List.mem_cons_of_mem _ hx)]

variable [DecidableEq α] {x : α} {l a b : List α}

/-- No separator, or the list in front of the first one. -/
theorem split_first (x : α) (l : List α) :
    x ∉ l ∨ ∃ a b, l = a ++ x :: b ∧ x ∉ a := by
  induction l with
  | nil => exact .inl List.not_mem_nil
  | cons y l ih =>
    by_cases hy : y = x
    · exact .inr ⟨[], l, by rw [hy, List.nil_append], List.not_mem_nil⟩
    · rcases ih with h | ⟨a, b, rfl, ha⟩
      · refine .inl fun hx => ?_
        rcases List.mem_cons.mp hx with hxy | hx
        · exact hy hxy.symm
        · exact h hx
      · refine .inr ⟨y :: a, b, rfl, fun hx => ?_⟩
        rcases List.mem_cons.mp hx with hxy | hx
        · exact hy hxy.symm
        · exact ha hx

/-- One piece: the list itself. -/
theorem eq_of_splitOn_singleton (h : l.splitOn x = [a]) : l = a ∧ x ∉ a := by
  rcases split_first x l with hx | ⟨front, back, rfl, hfront⟩
  · rw [List.splitOn_eq_singleton hx] at h
    cases h
    exact ⟨rfl, hx⟩
  · rw [List.splitOn_append_cons_self_of_not_mem hfront] at h
    exact absurd (List.cons.inj h).2 (List.splitOn_ne_nil x back)

/-- Two pieces: the list has one separator between them. -/
theorem eq_of_splitOn_pair (h : l.splitOn x = [a, b]) : l = a ++ x :: b ∧ x ∉ a ∧ x ∉ b := by
  rcases split_first x l with hx | ⟨front, back, rfl, hfront⟩
  · rw [List.splitOn_eq_singleton hx] at h
    cases h
  · rw [List.splitOn_append_cons_self_of_not_mem hfront] at h
    obtain ⟨rfl, hback⟩ := List.cons.inj h
    obtain ⟨rfl, hb⟩ := eq_of_splitOn_singleton hback
    exact ⟨rfl, hfront, hb⟩

end Splits

end Dtsys
