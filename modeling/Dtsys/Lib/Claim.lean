/-
  CHECK, THEN ACT.

  Parties `ι` work at the same time on shared rows, each row under a key `κ`.  A party looks the key
  up, finds nothing, and later adds a row of its own; in between it has a CLAIM on the key.  Nothing
  stops a second party from looking too.

  `count k` is the number of rows everybody sees, `view i k` the number party `i` would see (it may
  have removed some that are still there for the others).  `Exclusive` is the invariant of a system in
  which lookups do not overlap: one row per key, one claim per key, and whoever has a claim sees no
  row.  Three rules carry it over a step:

  * `Exclusive.shrink` — claims end, rows disappear;
  * `Exclusive.claim` — a party finds no row, and nobody else has a claim;
  * `Exclusive.settle` — a party makes its own changes visible to everybody.
-/
import Mathlib.Logic.Basic

namespace Dtsys

variable {ι κ : Type}

/-- At most one row and at most one claim per key, and a claim only where its party sees no row. -/
structure Exclusive (claims : ι → κ → Prop) (count : κ → Nat) (view : ι → κ → Nat) : Prop where
  count : ∀ k, count k ≤ 1
  alone : ∀ i j k, claims i k → claims j k → i = j
  clear : ∀ i k, claims i k → view i k = 0

namespace Exclusive

variable {claims claims' : ι → κ → Prop} {count count' : κ → Nat} {view view' : ι → κ → Nat}

/-- Claims are given up, counts and views grow smaller. -/
theorem shrink (h : Exclusive claims count view) (hclaims : ∀ i k, claims' i k → claims i k)
    (hcount : ∀ k, count' k ≤ count k) (hview : ∀ i k, claims' i k → view' i k ≤ view i k) :
    Exclusive claims' count' view' := by
  refine ⟨?_, ?_, ?_⟩
  · intro k
    have hold := h.count k
    have hle := hcount k
    omega
  · exact fun i j k hi hj => h.alone i j k (hclaims i k hi) (hclaims j k hj)
  · intro i k hi
    have hzero := h.clear i k (hclaims i k hi)
    have hle := hview i k hi
    omega

/-- A claim is made that nobody else has. -/
theorem claim (h : Exclusive claims count view) {i : ι} {k : κ}
    (hclaims : ∀ j k', claims' j k' → claims j k' ∨ j = i ∧ k' = k)
    (hfree : ∀ j, claims j k → j = i) (hnone : view i k = 0) : Exclusive claims' count view := by
  have hown : ∀ j, claims' j k → j = i := by
    intro j hj
    rcases hclaims j k hj with hold | ⟨rfl, -⟩
    · exact hfree j hold
    · rfl
  refine ⟨h.count, ?_, ?_⟩
  · intro j j' k' hj hj'
    rcases hclaims j k' hj with hold | ⟨rfl, rfl⟩
    · rcases hclaims j' k' hj' with hold' | ⟨rfl, rfl⟩
      · exact h.alone j j' k' hold hold'
      · exact hown j hj
    · exact (hown j' hj').symm
  · intro j k' hj
    rcases hclaims j k' hj with hold | ⟨rfl, rfl⟩
    · exact h.clear j k' hold
    · exact hnone

/-- What everybody sees from now on: the party's view, and one row of its own where it had a
    claim. -/
theorem settle (h : Exclusive claims count view) (i : ι)
    (hclaims : ∀ j k, claims' j k → j ≠ i ∧ claims j k)
    (hown : ∀ k, claims i k → count' k ≤ view i k + 1)
    (hother : ∀ k, ¬ claims i k → count' k ≤ count k)
    (hview : ∀ j k, claims' j k → ¬ claims i k → view' j k ≤ view j k) :
    Exclusive claims' count' view' := by
  refine ⟨?_, ?_, ?_⟩
  · intro k
    by_cases hi : claims i k
    · have hzero := h.clear i k hi
      have hle := hown k hi
      omega
    · have hold := h.count k
      have hle := hother k hi
      omega
  · exact fun j j' k hj hj' => h.alone j j' k (hclaims j k hj).2 (hclaims j' k hj').2
  · intro j k hj
    obtain ⟨hne, hold⟩ := hclaims j k hj
    have hi : ¬ claims i k := fun hi => hne (h.alone j i k hold hi)
    have hzero := h.clear j k hold
    have hle := hview j k hj hi
    omega

end Exclusive

end Dtsys
