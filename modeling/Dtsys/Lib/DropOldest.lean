/-
  A BOUNDED CHANNEL THAT DROPS THE OLDEST: a reader behind a queue of fixed capacity.

  A writer that finds the queue full takes the oldest item out and puts its own in, so it never waits and
  the reader loses items only from the front.  Nothing here knows what the items are.

  * `offer` — put an item in, and what has been taken out for it;
  * `Fed` — the queue, what has been read and what has been taken out, after the items `o` have been
    offered: the queue is the end of `o`, what was read is a subsequence of the rest, and what was not read
    was taken out for an item at least `cap` places later;
  * `filter_common` — two subsequences of one list, whose items have keys, agree on the order of the items
    they share.
-/
import Mathlib.Data.List.Nodup

namespace Dtsys.DropOldest

variable {α : Type}

/-! ## The queue -/

/-- Put an item at the end, unless the queue is full. -/
def putNowait (cap : Nat) (q : List α) (x : α) : Option (List α) :=
  if q.length < cap then some (q ++ [x]) else none

/-- Take the oldest item, unless the queue is empty. -/
def getNowait : List α → Option (α × List α)
  | [] => none
  | x :: q => some (x, q)

/-- Put an item in; a full queue gives up its oldest first.  The queue, and what it gave up. -/
def offer (cap : Nat) (q : List α) (x : α) : List α × Option α :=
  match putNowait cap q x with
  | some q' => (q', none)
  | none =>
    match getNowait q with
    | none => ((putNowait cap q x).getD q, none)
    | some (old, q') => ((putNowait cap q' x).getD q', some old)

theorem offer_room {cap : Nat} {q : List α} (h : q.length < cap) (x : α) :
    offer cap q x = (q ++ [x], none) := by
  rw [offer, putNowait, if_pos h]

/-- There is none, and the oldest goes. -/
theorem offer_full {cap : Nat} {old : α} {q : List α} (h : (old :: q).length = cap) (x : α) :
    offer cap (old :: q) x = (q ++ [x], some old) := by
  have hfull : ¬ (old :: q).length < cap := by omega
  have hroom : q.length < cap := by
    rw [← h]
    exact Nat.lt_succ_self _
  unfold offer putNowait
  rw [if_neg hfull]
  dsimp only [getNowait]
  rw [if_pos hroom]
  rfl

/-! ## The reader -/

/-- After the items `o`: `evicted` pairs what was taken out with the item it was taken out for. -/
structure Fed (cap : Nat) (o q got : List α) (evicted : List (α × α)) : Prop where
  bounded : q.length ≤ cap
  split : ∃ gone, o = gone ++ q ∧ got.Sublist gone ∧ ∀ x ∈ gone, x ∈ got ∨ ∃ y, (x, y) ∈ evicted
  late : ∀ x y, (x, y) ∈ evicted → ∃ i j, o[i]? = some x ∧ o[j]? = some y ∧ i + cap ≤ j

variable {cap : Nat} {o q got : List α} {evicted : List (α × α)}

theorem Fed.nil : Fed cap ([] : List α) [] [] [] where
  bounded := Nat.zero_le _
  split := ⟨[], rfl, List.Sublist.refl _, fun _ h => nomatch h⟩
  late := fun _ _ h => nomatch h

/-- The positions of a list are those of any longer one. -/
theorem getElem?_concat {i : Nat} {x : α} (h : o[i]? = some x) (y : α) : (o ++ [y])[i]? = some x := by
  obtain ⟨hi, -⟩ := List.getElem?_eq_some_iff.mp h
  rw [List.getElem?_append_left hi]
  exact h

/-- **Offering** an item. -/
theorem Fed.offer (h : Fed cap o q got evicted) (hcap : 0 < cap) (x : α) :
    Fed cap (o ++ [x]) (offer cap q x).1 got
      (evicted ++ ((DropOldest.offer cap q x).2.map fun old => (old, x)).toList) := by
  obtain ⟨gone, ho, hgot, haccount⟩ := h.split
  have hlate : ∀ y z, (y, z) ∈ evicted →
      ∃ i j, (o ++ [x])[i]? = some y ∧ (o ++ [x])[j]? = some z ∧ i + cap ≤ j := by
    intro y z hyz
    obtain ⟨i, j, hi, hj, hle⟩ := h.late y z hyz
    exact ⟨i, j, getElem?_concat hi x, getElem?_concat hj x, hle⟩
  by_cases hroom : q.length < cap
  · rw [offer_room hroom]
    refine ⟨?_, ⟨gone, ?_, hgot, fun y hy => ?_⟩, ?_⟩
    · rw [List.length_append]
      exact hroom
    · rw [ho, List.append_assoc]
    · rcases haccount y hy with hy | ⟨z, hz⟩
      · exact .inl hy
      · exact .inr ⟨z, List.mem_append_left _ hz⟩
    · simpa using hlate
  · have hfull : q.length = cap := Nat.le_antisymm h.bounded (Nat.le_of_not_lt hroom)
    cases q with
    | nil =>
      rw [← hfull] at hcap
      exact absurd hcap (Nat.lt_irrefl 0)
    | cons old q =>
      rw [offer_full hfull]
      refine ⟨?_, ⟨gone ++ [old], ?_, ?_, fun y hy => ?_⟩, fun y z hyz => ?_⟩
      · rw [List.length_append]
        exact Nat.le_of_eq hfull
      · rw [ho]
        simp
      · exact hgot.trans (List.sublist_append_left ..)
      · rcases List.mem_append.mp hy with hy | hy
        · rcases haccount y hy with hy | ⟨z, hz⟩
          · exact .inl hy
          · exact .inr ⟨z, List.mem_append_left _ hz⟩
        · obtain rfl := List.mem_singleton.mp hy
          exact .inr ⟨x, List.mem_append_right _ (List.mem_singleton.mpr rfl)⟩
      · rcases List.mem_append.mp hyz with hyz | hyz
        · exact hlate y z hyz
        · -- the oldest of a full queue is `cap` places before the item it makes room for
          obtain ⟨rfl, rfl⟩ := Prod.mk.inj (List.mem_singleton.mp hyz)
          refine ⟨gone.length, o.length, ?_, ?_, ?_⟩
          · rw [ho]
            simp
          · simp
          · exact Nat.le_of_eq (by rw [ho, List.length_append, hfull])

/-- **Reading** the oldest item. -/
theorem Fed.get {x : α} (h : Fed cap o (x :: q) got evicted) : Fed cap o q (got ++ [x]) evicted := by
  obtain ⟨gone, ho, hgot, haccount⟩ := h.split
  refine ⟨Nat.le_of_succ_le h.bounded, ⟨gone ++ [x], ?_, hgot.append (List.Sublist.refl _), ?_⟩, h.late⟩
  · rw [ho, List.append_assoc]
    rfl
  · intro y hy
    rcases List.mem_append.mp hy with hy | hy
    · rcases haccount y hy with hy | hevicted
      · exact .inl (List.mem_append_left _ hy)
      · exact .inr hevicted
    · exact .inl (List.mem_append_right _ hy)

/-- What was read is a subsequence of what was offered. -/
theorem Fed.sublist (h : Fed cap o q got evicted) : got.Sublist o := by
  obtain ⟨gone, ho, hgot, -⟩ := h.split
  rw [ho]
  exact hgot.trans (List.sublist_append_left ..)

/-- What was not read is waiting, or was taken out. -/
theorem Fed.missing (h : Fed cap o q got evicted) {x : α} (hx : x ∈ o) :
    x ∈ got ∨ x ∈ q ∨ ∃ y, (x, y) ∈ evicted := by
  obtain ⟨gone, ho, -, haccount⟩ := h.split
  rw [ho] at hx
  rcases List.mem_append.mp hx with hx | hx
  · exact (haccount x hx).imp_right .inr
  · exact .inr (.inl hx)

/-! ## Two readers -/

variable {κ : Type} [DecidableEq κ] {key : α → κ}

/-- A subsequence of a list without two items of one key, picked out by its keys. -/
theorem eq_filter_of_sublist {l m : List α} (hkeys : (m.map key).Nodup) (h : l.Sublist m) :
    l = m.filter fun x => key x ∈ l.map key := by
  induction h with
  | slnil => rfl
  | @cons l m a h ih =>
    obtain ⟨hnew, hkeys⟩ := List.nodup_cons.mp hkeys
    have hout : key a ∉ l.map key := fun hin => hnew ((h.map key).subset hin)
    rw [List.filter_cons_of_neg (by simpa using hout)]
    exact ih hkeys
  | @cons_cons l m a h ih =>
    obtain ⟨hnew, hkeys⟩ := List.nodup_cons.mp hkeys
    rw [List.filter_cons_of_pos (by simp)]
    congr 1
    refine (ih hkeys).trans (List.filter_congr fun x hx => ?_)
    have hne : key x ≠ key a := fun heq => hnew (heq ▸ List.mem_map_of_mem hx)
    simp [hne]

/-- **Two subsequences** agree on the items they share. -/
theorem filter_common {l l' m : List α} (hkeys : (m.map key).Nodup) (h : l.Sublist m)
    (h' : l'.Sublist m) :
    (l.filter fun x => key x ∈ l'.map key) = l'.filter fun x => key x ∈ l.map key := by
  have hl := eq_filter_of_sublist hkeys h
  have hl' := eq_filter_of_sublist hkeys h'
  calc (l.filter fun x => key x ∈ l'.map key)
      = (m.filter fun x => key x ∈ l.map key).filter fun x => key x ∈ l'.map key :=
        congrArg (List.filter _) hl
    _ = (m.filter fun x => key x ∈ l'.map key).filter fun x => key x ∈ l.map key := by
        rw [List.filter_filter, List.filter_filter]
        exact List.filter_congr fun x _ => Bool.and_comm _ _
    _ = l'.filter fun x => key x ∈ l.map key := (congrArg (List.filter _) hl').symm

end Dtsys.DropOldest
