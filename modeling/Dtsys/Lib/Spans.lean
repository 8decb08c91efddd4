/-
  SPANS in a log of timed marks.

  A mark says that something went `down` or came up.  A span is a maximal interval from a mark that it
  went down to the first mark after it that it is up again.  `Ledger` reads the marks in order: since
  when it is down, and the spans that are over.

  An account charges something to every mark that it is up.  It is `Booked` when a mark is charged the
  length of the span it ends, in whole units, and nothing if it ends none.

  * `Booked.sum_eq` — what a booked account has charged in a period is the length of the spans that
    end there;
  * `total_le` — the spans of an ordered log do not overlap, so those that begin and end in a period
    are no longer together than the period.
-/
import Mathlib.Data.List.Induction
import Mathlib.Data.Nat.ModEq

namespace Dtsys

variable {ε : Type} (down : ε → Bool) (time : ε → Nat) (unit : Nat)

/-- Since when it is down, and the spans that are over. -/
structure Ledger where
  opened : Option Nat
  closed : List (Nat × Nat)

namespace Ledger

/-- Nothing has been booked. -/
def empty : Ledger := ⟨none, []⟩

/-- Read one mark. -/
def record (l : Ledger) (e : ε) : Ledger :=
  if down e then { l with opened := some (l.opened.getD (time e)) }
  else match l.opened with
    | none => l
    | some o => ⟨none, l.closed ++ [(o, time e)]⟩

/-- What a mark at time `t` is to be charged when it says that it is up. -/
def cost (l : Ledger) (t : Nat) : Nat :=
  match l.opened with
  | none => 0
  | some o => (t - o) / unit

end Ledger

/-- The ledger after a log. -/
def ledger (es : List ε) : Ledger := es.foldl (Ledger.record down time) .empty

/-- The spans of a log. -/
def spans (es : List ε) : List (Nat × Nat) := (ledger down time es).closed

/-- The length of the spans in `p`, each in whole units. -/
def total (p : Nat × Nat → Bool) (ss : List (Nat × Nat)) : Nat :=
  ((ss.filter p).map fun s => (s.2 - s.1) / unit).sum

section

variable {down time unit}

/-- The books after one more event. -/
theorem ledger_concat (es : List ε) (e : ε) :
    ledger down time (es ++ [e]) = (ledger down time es).record down time e :=
  List.foldl_append

/-- A mark that it is up leaves nothing open. -/
theorem record_up {e : ε} (he : down e = false) (l : Ledger) :
    (l.record down time e).opened = none := by
  rw [Ledger.record, if_neg (by simp [he])]
  split
  · rename_i hopen
    exact hopen
  · rfl

/-- The first mark that it is down opens a span. -/
theorem record_down {e : ε} (he : down e = true) {l : Ledger} (hl : l.opened = none) :
    (l.record down time e).opened = some (time e) := by
  rw [Ledger.record, if_pos he, hl]
  rfl

theorem total_append (p : Nat × Nat → Bool) (ss ss' : List (Nat × Nat)) :
    total unit p (ss ++ ss') = total unit p ss + total unit p ss' := by
  unfold total
  rw [List.filter_append, List.map_append, List.sum_append]

theorem total_singleton (p : Nat × Nat → Bool) (s : Nat × Nat) :
    total unit p [s] = if p s then (s.2 - s.1) / unit else 0 := by
  rw [total]
  by_cases hp : p s = true
  · simp [hp]
  · simp [hp]

/-- Some of the spans and the rest of them. -/
theorem total_split (p q : Nat × Nat → Bool) (ss : List (Nat × Nat)) : total unit p ss =
    total unit (fun s => p s && q s) ss + total unit (fun s => p s && !q s) ss := by
  induction ss with
  | nil => rfl
  | cons s ss ih =>
    have hcons : ∀ r : Nat × Nat → Bool,
        total unit r (s :: ss) = (if r s then (s.2 - s.1) / unit else 0) + total unit r ss := by
      intro r
      rw [← total_singleton, ← total_append]
      rfl
    rw [hcons, hcons, hcons, ih]
    cases hp : p s with
    | false => simp
    | true =>
      cases hq : q s with
      | false =>
        simp only [Bool.and_true, Bool.and_false, Bool.not_false, if_true, Bool.false_eq_true,
          if_false]
        omega
      | true =>
        simp only [Bool.and_true, Bool.and_false, Bool.not_true, if_true, Bool.false_eq_true,
          if_false]
        omega

/-! ## Accounts -/

variable (down time unit) in
/-- Every mark that it is up is charged what it costs. -/
def Booked (charge : ε → Nat) : Ledger → List ε → Prop
  | _, [] => True
  | l, e :: es =>
    (down e = false → charge e = l.cost unit (time e)) ∧ Booked charge (l.record down time e) es

variable {charge : ε → Nat}

/-- Two stretches of events are booked, one after the other. -/
theorem booked_append : ∀ (xs ys : List ε) (l : Ledger),
    Booked down time unit charge l (xs ++ ys) ↔ Booked down time unit charge l xs ∧
      Booked down time unit charge (xs.foldl (Ledger.record down time) l) ys := by
  intro xs ys
  induction xs with
  | nil =>
    intro l
    exact ⟨fun h => ⟨trivial, h⟩, And.right⟩
  | cons x xs ih =>
    intro l
    constructor
    · rintro ⟨hx, hrest⟩
      obtain ⟨hxs, hys⟩ := (ih _).mp hrest
      exact ⟨⟨hx, hxs⟩, hys⟩
    · rintro ⟨⟨hx, hxs⟩, hys⟩
      exact ⟨hx, (ih _).mpr ⟨hxs, hys⟩⟩

/-- A booked account stays one when the next mark is charged what it costs. -/
theorem Booked.concat {es : List ε} (h : Booked down time unit charge .empty es) {e : ε}
    (he : down e = false → charge e = (ledger down time es).cost unit (time e)) :
    Booked down time unit charge .empty (es ++ [e]) :=
  (booked_append es [e] .empty).mpr ⟨h, he, trivial⟩

/-- A mark that it is up right after another one is charged nothing. -/
theorem Booked.repeated {pre post : List ε} {a b : ε}
    (h : Booked down time unit charge .empty (pre ++ a :: b :: post)) (ha : down a = false)
    (hb : down b = false) : charge b = 0 := by
  obtain ⟨-, -, hb', -⟩ := (booked_append pre (a :: b :: post) .empty).mp h
  rw [hb' hb]
  have hnone : ((pre.foldl (Ledger.record down time) .empty).record down time a).opened = none :=
    record_up ha _
  rw [Ledger.cost, hnone]

/-- No mark takes back a span that has ended. -/
theorem mem_record {s : Nat × Nat} {l : Ledger} (e : ε) (hs : s ∈ l.closed) :
    s ∈ (l.record down time e).closed := by
  rw [Ledger.record]
  split
  · exact hs
  · split
    · exact hs
    · exact List.mem_append_left _ hs

/-- A mark that it is up ends the span that is open. -/
theorem ended_mem_record {e : ε} (he : down e = false) {l : Ledger} {o : Nat}
    (hl : l.opened = some o) : (o, time e) ∈ (l.record down time e).closed := by
  rw [Ledger.record, if_neg (by simp [he]), hl]
  exact List.mem_append_right _ (List.mem_singleton.mpr rfl)

/-- What one mark adds to the spans. -/
theorem total_record (p : Nat × Nat → Bool) (l : Ledger) (e : ε) :
    total unit p (l.record down time e).closed = total unit p l.closed +
      if down e = false ∧ (l.opened.any fun o => p (o, time e)) = true
      then l.cost unit (time e) else 0 := by
  rw [Ledger.record, Ledger.cost]
  cases hd : down e with
  | true => simp
  | false =>
    rw [if_neg (by simp)]
    cases l.opened with
    | none => simp
    | some o =>
      dsimp only
      rw [total_append, total_singleton]
      by_cases hp : p (o, time e) = true
      · simp [hp]
      · simp [hp]

/-- **What has been charged is the length of the spans.** -/
theorem Booked.sum_eq (p : Nat → Bool) : ∀ (es : List ε) (l : Ledger),
    Booked down time unit charge l es →
      total unit (fun s => p s.2) (es.foldl (Ledger.record down time) l).closed =
        total unit (fun s => p s.2) l.closed +
          ((es.filter fun e => !down e && p (time e)).map charge).sum := by
  intro es
  induction es with
  | nil => exact fun l _ => rfl
  | cons e es ih =>
    rintro l ⟨he, hrest⟩
    show total unit _ (es.foldl _ (l.record down time e)).closed = _
    rw [ih _ hrest, total_record]
    by_cases hin : down e = false ∧ p (time e) = true
    · have hcost : (if down e = false ∧ (l.opened.any fun _ => p (time e)) = true
          then l.cost unit (time e) else 0) = charge e := by
        rw [he hin.1]
        cases hl : l.opened with
        | none =>
          -- it ends nothing
          rw [Ledger.cost, hl]
          exact ite_self _
        | some o => exact if_pos hin
      rw [hcost, List.filter_cons, if_pos (by simp [hin.1, hin.2]), List.map_cons, List.sum_cons]
      omega
    · have hnot : ¬ (!down e && p (time e)) = true := by
        intro hboth
        rw [Bool.and_eq_true, Bool.not_eq_true'] at hboth
        exact hin hboth
      have hout : ¬ (down e = false ∧ (l.opened.any fun _ => p (time e)) = true) := by
        rintro ⟨hd, hany⟩
        obtain ⟨o, -, hp⟩ := (Option.any_eq_true _ _).mp hany
        exact hin ⟨hd, hp⟩
      rw [if_neg hout, List.filter_cons, if_neg hnot]
      omega

/-! ## The bound -/

/-- A span behind those that fit in front of it fits together with them. -/
theorem fits_behind {sum since o t : Nat} (hsum : sum ≤ (o - since) / unit) (hsince : since ≤ o)
    (hot : o ≤ t) : sum + (t - o) / unit ≤ (t - since) / unit := by
  have hadd : (o - since) / unit + (t - o) / unit ≤ (o - since + (t - o)) / unit :=
    Nat.div_add_div_le_add_div
  have hlen : o - since + (t - o) = t - since := by omega
  rw [hlen] at hadd
  omega

/-- In an ordered log, the spans inside a period fit in front of the span that is open, or of the
    end. -/
theorem total_le_aux {p : Nat × Nat → Bool} {since : Nat} (es : List ε) :
    es.Pairwise (fun a b => time a ≤ time b) →
    (∀ s ∈ spans down time es, p s = true → since ≤ s.1) → ∀ t, (∀ e ∈ es, time e ≤ t) →
      total unit p (spans down time es) ≤ (t - since) / unit ∧
        ∀ o, (ledger down time es).opened = some o →
          o ≤ t ∧ total unit p (spans down time es) ≤ (o - since) / unit := by
  induction es using List.reverseRecOn with
  | nil =>
    intro _ _ t _
    exact ⟨Nat.zero_le _, fun o ho => nomatch ho⟩
  | append_singleton es e ih =>
    intro hsorted hinside t ht
    obtain ⟨hes, -, hlast⟩ := List.pairwise_append.mp hsorted
    have hbefore : ∀ x ∈ es, time x ≤ time e := fun x hx =>
      hlast x hx e (List.mem_singleton.mpr rfl)
    have het : time e ≤ t := ht e (List.mem_append_right _ (List.mem_singleton.mpr rfl))
    have hmono : (time e - since) / unit ≤ (t - since) / unit := Nat.div_le_div_right (by omega)
    unfold spans at ih hinside ⊢
    rw [ledger_concat] at hinside ⊢
    obtain ⟨hall, hopen⟩ := ih hes (fun s hs => hinside s (mem_record e hs)) (time e) hbefore
    rw [total_record]
    cases hd : down e with
    | true =>
      rw [if_neg (by simp), Nat.add_zero]
      refine ⟨Nat.le_trans hall hmono, fun o ho => ?_⟩
      cases hl : (ledger down time es).opened with
      | none =>
        rw [record_down hd hl] at ho
        obtain rfl : time e = o := Option.some.inj ho
        exact ⟨het, hall⟩
      | some o' =>
        rw [Ledger.record, if_pos hd, hl] at ho
        obtain rfl : o' = o := Option.some.inj ho
        obtain ⟨hle, htotal⟩ := hopen o' hl
        exact ⟨Nat.le_trans hle het, htotal⟩
    | false =>
      have hclosed : ((ledger down time es).record down time e).opened = none := record_up hd _
      refine ⟨?_, fun o ho => by rw [hclosed] at ho; cases ho⟩
      rw [Ledger.cost]
      cases hl : (ledger down time es).opened with
      | none =>
        rw [if_neg (by simp), Nat.add_zero]
        exact Nat.le_trans hall hmono
      | some o =>
        obtain ⟨hle, htotal⟩ := hopen o hl
        by_cases hp : p (o, time e) = true
        · -- the new span lies behind all others, and inside the period
          have hsince : since ≤ o := hinside _ (ended_mem_record hd hl) hp
          have hnew : total unit p (ledger down time es).closed + (time e - o) / unit ≤
              (time e - since) / unit := fits_behind htotal hsince hle
          rw [if_pos ⟨rfl, by simpa using hp⟩]
          exact Nat.le_trans hnew hmono
        · rw [if_neg (by simpa using hp), Nat.add_zero]
          exact Nat.le_trans hall hmono

/-- **Spans inside a period are together no longer than it.** -/
theorem total_le {p : Nat × Nat → Bool} {since t : Nat} {es : List ε}
    (hsorted : es.Pairwise fun a b => time a ≤ time b) (ht : ∀ e ∈ es, time e ≤ t)
    (hinside : ∀ s ∈ spans down time es, p s = true → since ≤ s.1) :
    total unit p (spans down time es) ≤ (t - since) / unit :=
  (total_le_aux es hsorted hinside t ht).1

end

end Dtsys
