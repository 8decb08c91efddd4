/-
  READING A LOG BY A WATERMARK: a reader polls a growing log for what lies above a mark, takes the first
  `n` of it in ascending order, and moves the mark to the last one it took.

  The keys need not grow along the log, and need not be different.  So the mark can pass what was never
  taken: what is appended at or below it, and what a batch leaves behind at the key of its last element.

  * `Reading` — how far a reader has come; it holds of EVERY reader, and says that nothing is taken
    twice and nothing from before the reader began;
  * `Kept` — nothing has been passed;
  * `Reading.append`, `Reading.batch` — both ways the log and the reader go on;
  * `kept_append_iff`, `kept_batch_iff` — the two conditions under which nothing is passed, exactly.
-/
import Mathlib.Data.List.Nodup
import Mathlib.Order.Lattice

namespace Dtsys.Watermark

variable {α κ : Type} (key : α → κ)

/-- The mark after a batch. -/
def advance (mark : Option κ) (batch : List α) : Option κ :=
  match batch.getLast? with
  | none => mark
  | some x => some (key x)

section

variable {key} {mark : Option κ} {x : α}

@[simp] theorem advance_nil : advance key mark ([] : List α) = mark := rfl

@[simp] theorem advance_cons (l : List α) : advance key mark (x :: l) = advance key (some (key x)) l := by
  cases l with
  | nil => rfl
  | cons y l => rfl

/-- The mark after some rows is the key of the last one. -/
theorem advance_of_getLast? {l : List α} (h : l.getLast? = some x) : advance key mark l = some (key x) := by
  rw [advance, h]

end

variable [LinearOrder κ]

/-- What a poll asks for; without a mark, everything. -/
def Above : Option κ → α → Prop
  | none, _ => True
  | some m, x => m < key x

instance : ∀ (mark : Option κ) (x : α), Decidable (Above key mark x)
  | none, _ => .isTrue trivial
  | some m, x => inferInstanceAs (Decidable (m < key x))

/-- A reader of `log` that began at `base`, has taken `taken`, and is at `mark`. -/
structure Reading (log : List α) (base : Nat) (taken : List α) (mark : Option κ) : Prop where
  distinct : log.Nodup
  begun : base ≤ log.length
  once : taken.Nodup
  new : ∀ x ∈ taken, x ∈ log.drop base
  passed : ∀ x, x ∈ log.take base ∨ x ∈ taken → ¬ Above key mark x

/-- What came after the reader began is taken, or still asked for. -/
def Kept (log : List α) (base : Nat) (taken : List α) (mark : Option κ) : Prop :=
  ∀ x ∈ log.drop base, x ∈ taken ∨ Above key mark x

variable {key} {log fresh taken order : List α} {base n : Nat} {mark : Option κ} {x : α}

/-! ## The mark -/

/-- A batch above the mark moves it up: what was passed stays so. -/
theorem not_above_advance {batch : List α} (hbatch : ∀ y ∈ batch, Above key mark y)
    (hx : ¬ Above key mark x) : ¬ Above key (advance key mark batch) x := by
  rw [advance]
  cases hlast : batch.getLast? with
  | none => exact hx
  | some y =>
    have hy := hbatch y (List.mem_of_getLast? hlast)
    cases mark with
    | none => exact absurd trivial hx
    | some m =>
      exact not_lt.mpr (le_trans (not_lt.mp hx) (le_of_lt hy))

/-- An ascending batch passes its own elements. -/
theorem not_above_of_mem {batch : List α} (hsorted : batch.Pairwise fun a b => key a ≤ key b)
    (hx : x ∈ batch) : ¬ Above key (advance key mark batch) x := by
  obtain ⟨y, hlast⟩ := Option.ne_none_iff_exists'.mp fun hnone =>
    List.ne_nil_of_mem hx (List.getLast?_eq_none_iff.mp hnone)
  rw [advance_of_getLast? hlast]
  obtain ⟨front, rfl⟩ := List.getLast?_eq_some_iff.mp hlast
  refine not_lt.mpr ?_
  rcases List.mem_append.mp hx with hx | hx
  · exact (List.pairwise_append.mp hsorted).2.2 x hx y List.mem_cons_self
  · rw [List.mem_singleton.mp hx]

/-! ## Beginning -/

/-- A reader that begins now. -/
theorem Reading.start (hlog : log.Nodup) (hmark : ∀ x ∈ log, ¬ Above key mark x) :
    Reading key log log.length [] mark where
  distinct := hlog
  begun := Nat.le_refl _
  once := List.nodup_nil
  new := fun _ h => nomatch h
  passed := by
    rintro x (hx | hx)
    · exact hmark x (List.mem_of_mem_take hx)
    · nomatch hx

theorem Kept.start : Kept key log log.length [] mark := by
  intro x hx
  rw [List.drop_length] at hx
  nomatch hx

/-! ## The log grows -/

/-- New rows come behind the old ones. -/
theorem drop_append_new (h : Reading key log base taken mark) :
    (log ++ fresh).drop base = log.drop base ++ fresh := List.drop_append_of_le_length h.begun

theorem Reading.append (h : Reading key log base taken mark) (hnew : (log ++ fresh).Nodup) :
    Reading key (log ++ fresh) base taken mark where
  distinct := hnew
  begun := Nat.le_trans h.begun (by simp)
  once := h.once
  new := fun x hx => by
    rw [drop_append_new h]
    exact List.mem_append_left _ (h.new x hx)
  passed := by
    intro x hx
    rw [List.take_append_of_le_length h.begun] at hx
    exact h.passed x hx

/-- Nothing is passed as the log grows exactly if it grows above the mark. -/
theorem kept_append_iff (h : Reading key log base taken mark) (hnew : (log ++ fresh).Nodup)
    (hkept : Kept key log base taken mark) :
    Kept key (log ++ fresh) base taken mark ↔ ∀ x ∈ fresh, Above key mark x := by
  rw [Kept, drop_append_new h]
  constructor
  · intro hall x hx
    refine (hall x (List.mem_append_right _ hx)).resolve_left fun htaken => ?_
    exact (List.nodup_append.mp hnew).2.2 x (List.mem_of_mem_drop (h.new x htaken)) x hx rfl
  · intro hall x hx
    rcases List.mem_append.mp hx with hx | hx
    · exact hkept x hx
    · exact .inr (hall x hx)

/-! ## A batch -/

/-- What a poll finds, in the order it comes. -/
structure Found (key : α → κ) (log : List α) (mark : Option κ) (order : List α) : Prop where
  perm : order.Perm (log.filter fun x => Above key mark x)
  ascending : order.Pairwise fun a b => key a ≤ key b

theorem Found.mem (h : Found key log mark order) : x ∈ order ↔ x ∈ log ∧ Above key mark x := by
  rw [h.perm.mem_iff, List.mem_filter, decide_eq_true_iff]

/-- What is found has not been taken. -/
theorem Found.not_taken (h : Found key log mark order) (hr : Reading key log base taken mark)
    (hx : x ∈ order) : x ∉ taken := fun htaken => hr.passed x (.inr htaken) (h.mem.mp hx).2

/-- It finds no row twice. -/
theorem Found.nodup (h : Found key log mark order) (hr : Reading key log base taken mark) :
    order.Nodup := h.perm.nodup_iff.mpr (hr.distinct.filter _)

/-- What is found came after the reader began. -/
theorem Found.new (h : Found key log mark order) (hr : Reading key log base taken mark)
    (hx : x ∈ order) : x ∈ log.drop base := by
  obtain ⟨hlog, habove⟩ := h.mem.mp hx
  rw [← List.take_append_drop base log] at hlog
  exact (List.mem_append.mp hlog).resolve_left fun hold => hr.passed x (.inl hold) habove

/-- A batch is taken. -/
theorem Reading.batch (hr : Reading key log base taken mark) (h : Found key log mark order) (n : Nat) :
    Reading key log base (taken ++ order.take n) (advance key mark (order.take n)) where
  distinct := hr.distinct
  begun := hr.begun
  once := by
    refine List.nodup_append.mpr ⟨hr.once, (h.nodup hr).sublist (List.take_sublist ..), ?_⟩
    rintro x hx y hy rfl
    exact h.not_taken hr (List.mem_of_mem_take hy) hx
  new := by
    intro x hx
    rcases List.mem_append.mp hx with hx | hx
    · exact hr.new x hx
    · exact h.new hr (List.mem_of_mem_take hx)
  passed := by
    have hbatch : ∀ y ∈ order.take n, Above key mark y := fun y hy =>
      (h.mem.mp (List.mem_of_mem_take hy)).2
    intro x hx
    rw [List.mem_append, ← or_assoc] at hx
    rcases hx with hx | hx
    · exact not_above_advance hbatch (hr.passed x hx)
    · exact not_above_of_mem (h.ascending.sublist (List.take_sublist ..)) hx

/-- Nothing is passed by a batch exactly if what it leaves behind lies above its last element. -/
theorem kept_batch_iff (hr : Reading key log base taken mark) (h : Found key log mark order)
    (hkept : Kept key log base taken mark) :
    Kept key log base (taken ++ order.take n) (advance key mark (order.take n)) ↔
      ∀ x ∈ order.drop n, Above key (advance key mark (order.take n)) x := by
  have hnodup := h.nodup hr
  rw [← List.take_append_drop n order] at hnodup
  constructor
  · intro hall x hx
    have hxorder := List.mem_of_mem_drop hx
    refine (hall x (h.new hr hxorder)).resolve_left fun htaken => ?_
    rcases List.mem_append.mp htaken with htaken | htaken
    · exact h.not_taken hr hxorder htaken
    · exact (List.nodup_append.mp hnodup).2.2 x htaken x hx rfl
  · intro hall x hx
    rcases hkept x hx with htaken | habove
    · exact .inl (List.mem_append_left _ htaken)
    · have hxorder := h.mem.mpr ⟨List.mem_of_mem_drop hx, habove⟩
      rw [← List.take_append_drop n order] at hxorder
      rcases List.mem_append.mp hxorder with hx | hx
      · exact .inl (List.mem_append_right _ hx)
      · exact .inr (hall x hx)

/-- What has been passed without being taken is never found again. -/
theorem Found.not_mem_of_passed (h : Found key log mark order) (hx : ¬ Above key mark x) : x ∉ order :=
  fun hmem => hx (h.mem.mp hmem).2

end Dtsys.Watermark
