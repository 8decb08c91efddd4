/-
  The FIRST of each kind: a loop that keeps an element unless one of the same tag was kept before.

  * `nodup_firsts` — no tag is kept twice.
  * `find?_firsts` — looking for a kind of element finds in what is kept what it finds in the whole list.

  The elements and their tags are arbitrary.  `firsts_concat` takes the last element off, which is the
  shape of a loop that appends, and both results are by induction from the right.
-/
import Mathlib.Data.List.Nodup
import Mathlib.Data.List.Induction

namespace Dtsys

variable {α τ : Type} [DecidableEq τ]

/-- One turn of the loop. -/
def keepFirst (tag : α → τ) (kept : List α) (x : α) : List α :=
  if tag x ∈ kept.map tag then kept else kept ++ [x]

/-- The first element of each tag. -/
def firsts (tag : α → τ) (l : List α) : List α := l.foldl (keepFirst tag) []

variable {tag : α → τ}

theorem firsts_concat (l : List α) (x : α) : firsts tag (l ++ [x]) = keepFirst tag (firsts tag l) x := by
  rw [firsts, List.foldl_append]
  rfl

theorem firsts_subset (l : List α) : firsts tag l ⊆ l := by
  induction l using List.reverseRecOn with
  | nil => exact List.Subset.refl _
  | append_singleton l x ih =>
    intro y hy
    rw [firsts_concat, keepFirst] at hy
    split at hy
    · exact List.mem_append_left _ (ih hy)
    · rcases List.mem_append.mp hy with hy | hy
      · exact List.mem_append_left _ (ih hy)
      · exact List.mem_append_right _ hy

/-- No tag is there twice. -/
theorem nodup_firsts (l : List α) : ((firsts tag l).map tag).Nodup := by
  induction l using List.reverseRecOn with
  | nil => exact List.nodup_nil
  | append_singleton l x ih =>
    rw [firsts_concat, keepFirst]
    split
    · exact ih
    · rw [List.map_append]
      refine List.Nodup.append ih (List.nodup_singleton _) ?_
      exact List.disjoint_singleton.mpr ‹_›

/-- **What is kept finds the same** as the whole list, of anything that the tag determines. -/
theorem find?_firsts {p : α → Bool} : ∀ {l : List α},
    (∀ x ∈ l, ∀ y ∈ l, tag x = tag y → p x = p y) → (firsts tag l).find? p = l.find? p := by
  intro l
  induction l using List.reverseRecOn with
  | nil => exact fun _ => rfl
  | append_singleton l x ih =>
    intro htag
    have hl := ih fun y hy z hz => htag y (List.mem_append_left _ hy) z (List.mem_append_left _ hz)
    rw [firsts_concat, keepFirst, List.find?_append, ← hl]
    split
    · -- what is dropped is like something that is kept
      obtain ⟨y, hy, hyx⟩ := List.mem_map.mp ‹tag x ∈ _›
      have hpy := htag y (List.mem_append_left _ (firsts_subset l hy)) x List.mem_concat_self hyx
      cases hpx : p x with
      | false => simp [hpx]
      | true =>
        obtain ⟨z, hz⟩ := Option.isSome_iff_exists.mp (List.find?_isSome.mpr ⟨y, hy, hpy.trans hpx⟩)
        rw [hz]
        rfl
    · rw [List.find?_append]

end Dtsys
