/-
  THE PREVIEW AND THE SCHEDULER: the runs the page shows for a cron expression (`nextRuns`) beside
  the times at which the server fires it.

  The server asks `croniter` for the next time after the current one, in UTC, whenever it has fired.
  What `croniter` makes of an expression is given: it follows the schedule of the expression
  (`standard`), and answers with the first later time at which this fires.

  The page walks the local clock of the browser, minute by minute, and keeps the minutes it matches;
  after 100000 of them it gives up.

  * `runTimes` — the first times the server fires an expression.
  * `Predictable` — the clock comes to these in 100000 minutes; at each of them the five fields name
    the local date in a way both sides read; and at no other minute up to the last do they.
  * `preview_exact_iff` — **the preview shows these times** just if they are predictable.  In UTC the
    last condition holds of itself: there it is a question of the 100000 minutes and of how the
    values of the runs are written in the fields.
-/
import Dtsys.Server.Scheduler
import Dtsys.System.Expressions

namespace Dtsys

namespace Preview

open Web Ascending

/-! ## The server -/

/-- `croniter` takes the expression for the schedule: what it answers is the next time. -/
def Follows (C : Cron) (expr : String) (s : Schedule) : Prop :=
  ∀ now u, C.next expr now = .ok u →
    s.fires u = true ∧ ∀ t : Int, now < t → t < u → s.fires t = false

/-- The first times the server fires an expression: `_compute_next_run`, and then the next one each
    time it has fired. -/
def runTimes (C : Cron) (expr : String) : Nat → Nat → Except PyErr (List Nat)
  | 0, _ => .ok []
  | count + 1, now => do
    let t ← C.next expr now
    return t :: (← runTimes C expr count t)

variable {C : Cron} {expr : String} {s : Schedule} {zone : Zone} {count now : Nat} {ts : List Nat}

/-- A tick that comes late, but before the time after, computes the same time. -/
theorem next_of_late (hC : Follows C expr s) {t late u v : Nat} (hlate : t ≤ late)
    (ht : C.next expr t = .ok u) (hbefore : late < u) (hv : C.next expr late = .ok v) : u = v := by
  obtain ⟨hufires, huleast⟩ := hC t u ht
  obtain ⟨hvfires, hvleast⟩ := hC late v hv
  have hlater : late < v := C.later hv
  rcases Nat.lt_trichotomy u v with h | h | h
  · rw [hvleast u (by omega) (by omega)] at hufires
    cases hufires
  · exact h
  · rw [huleast v (by omega) (by omega)] at hvfires
    cases hvfires

/-- The run times are the first instants, after now, at which the schedule fires. -/
theorem runTimes_firsts (hC : Follows C expr s) : ∀ {count now : Nat} {ts : List Nat},
    runTimes C expr count now = .ok ts → ts.length = count ∧
      Firsts (fun t : Int => now < t ∧ s.fires t = true) (ts.map Nat.cast) := by
  intro count
  induction count with
  | zero =>
    intro now ts h
    cases h
    exact ⟨rfl, Firsts.nil⟩
  | succ count ih =>
    intro now ts h
    obtain ⟨t, ht, h⟩ := ok_of_except_bind h
    obtain ⟨rest, hrest, h⟩ := ok_of_except_bind h
    cases h
    obtain ⟨hlength, hfirsts⟩ := ih hrest
    obtain ⟨hfires, hleast⟩ := hC now t ht
    have hlater : now < t := C.later ht
    refine ⟨congrArg (· + 1) hlength, Firsts.cons (by omega) hfires ?_ hfirsts⟩
    intro u hnow hu
    rw [hleast u hnow hu]
    exact Bool.false_ne_true

/-! ## The preview -/

/-- The clock of the browser, set to the whole minute of `n` and then `k` minutes on. -/
def clock (zone : Zone) (n : Int) (k : Nat) : Int := (addMinute zone)^[k] (wholeMinute zone n)

/-- What can be foreseen on the clock of the browser. -/
structure Predictable (zone : Zone) (expr : String) (now : Nat) (ts : List Nat) : Prop where
  /-- The clock comes to every run in at most 100000 minutes. -/
  reached : ∀ u ∈ ts, ∃ k < 100000, 1000 * clock zone (now / 1000 : Nat) (k + 1) = u
  /-- The fields name the local date of every run. -/
  named : ∀ u ∈ ts, Named expr (localDate zone (u / 1000 : Nat)) = true
  /-- They name no other minute up to the last run. -/
  alone : ∀ k < 100000, ∀ u ∈ ts, 1000 * clock zone (now / 1000 : Nat) (k + 1) ≤ u →
    Named expr (localDate zone (clock zone (now / 1000 : Nat) (k + 1))) = true →
      ∃ v ∈ ts, 1000 * clock zone (now / 1000 : Nat) (k + 1) = v

/-- What the preview shows, in microseconds. -/
def shown (zone : Zone) (expr : String) (count now : Nat) : Option (List Int) :=
  (nextRuns zone expr count (now / 1000 : Nat)).map (List.map (1000 * ·))

/-- The walk in microseconds. -/
theorem shown_eq {p : Civil → Bool} (hp : ∀ date, dateMatches expr date = some (p date)) :
    shown zone expr count now =
      some ((((visited zone (now / 1000 : Nat)).map (1000 * ·)).filter
        fun t => p (localDate zone (t / 1000))).take count) := by
  have hback : (fun t => p (localDate zone t)) =
      (fun t => p (localDate zone (t / 1000))) ∘ (1000 * ·) := by
    funext t
    show p (localDate zone t) = p (localDate zone (1000 * t / 1000))
    have hsame : 1000 * t / 1000 = t := by omega
    rw [hsame]
  rw [shown, nextRuns_eq hp, List.filter_map, ← hback]
  show some (List.map _ (List.take _ _)) = _
  rw [List.map_take]

/-- The minutes of the walk, by the clock of the browser. -/
theorem mem_visited {n t : Int} : t ∈ visited zone n ↔ ∃ k < 100000, t = clock zone n (k + 1) :=
  mem_orbit

/-- The minutes of the walk, in milliseconds. -/
theorem mem_walk {n x : Int} : x ∈ (visited zone n).map (1000 * ·) ↔
    ∃ k < 100000, 1000 * clock zone n (k + 1) = x := by
  rw [List.mem_map]
  constructor
  · rintro ⟨t, ht, rfl⟩
    obtain ⟨k, hk, rfl⟩ := mem_visited.mp ht
    exact ⟨k, hk, rfl⟩
  · rintro ⟨k, hk, rfl⟩
    exact ⟨_, mem_visited.mpr ⟨k, hk, rfl⟩, rfl⟩

theorem walk_ascending (zone : Zone) (n : Int) :
    ((visited zone n).map (1000 * ·)).Pairwise (· < ·) := by
  rw [List.pairwise_map]
  refine (visited_ascending zone n).imp ?_
  intro a b hab
  omega

/-- The walk finds the first runs just if they are predictable. -/
theorem shown_iff_predictable (hs : standard expr = some s)
    (hfirsts : Firsts (fun t : Int => now < t ∧ s.fires t = true) (ts.map Nat.cast)) :
    shown zone expr ts.length now = some (ts.map Nat.cast) ↔ Predictable zone expr now ts := by
  have hback : ∀ t : Int, 1000 * t / 1000 = t := fun t => by omega
  have hiff := hfirsts.take_filter_iff (q := fun t => Named expr (localDate zone (t / 1000)))
    (walk_ascending zone (now / 1000 : Nat))
  rw [List.length_map] at hiff
  rw [shown_eq (dateMatches_eq hs), Option.some.injEq, hiff]
  constructor
  · rintro ⟨hreached, hagrees⟩
    have hmem : ∀ u ∈ ts, (u : Int) ∈ ts.map Nat.cast := fun u hu => List.mem_map_of_mem hu
    refine ⟨fun u hu => mem_walk.mp (hreached u (hmem u hu)), fun u hu => ?_, ?_⟩
    · have hthere := hreached u (hmem u hu)
      exact (hagrees u hthere u (hmem u hu) le_rfl).mpr (hfirsts.holds u (hmem u hu))
    · intro k hk u hu hle hnamed
      have hthere : 1000 * clock zone (now / 1000 : Nat) (k + 1) ∈
          (visited zone (now / 1000 : Nat)).map (1000 * ·) := mem_walk.mpr ⟨k, hk, rfl⟩
      rw [← hback (clock zone _ _)] at hnamed
      have hfires := (hagrees _ hthere u (hmem u hu) hle).mp hnamed
      obtain ⟨v, hv, heq⟩ := List.mem_map.mp (hfirsts.complete _ u hfires (hmem u hu) hle)
      exact ⟨v, hv, heq.symm⟩
  · rintro ⟨hreached, hnamed, halone⟩
    refine ⟨fun x hx => ?_, fun x hx y hy hxy => ?_⟩
    · obtain ⟨u, hu, rfl⟩ := List.mem_map.mp hx
      exact mem_walk.mpr (hreached u hu)
    · obtain ⟨k, hk, rfl⟩ := mem_walk.mp hx
      obtain ⟨u, hu, rfl⟩ := List.mem_map.mp hy
      rw [← hfirsts.mem_iff (List.mem_map_of_mem hu) hxy]
      constructor
      · intro hmatch
        rw [hback] at hmatch
        obtain ⟨v, hv, heq⟩ := halone k hk u hu hxy hmatch
        exact List.mem_map.mpr ⟨v, hv, heq.symm⟩
      · intro hmem
        obtain ⟨v, hv, heq⟩ := List.mem_map.mp hmem
        rw [← heq]
        exact hnamed v hv

/-! ## A browser in UTC -/

/-- In UTC the walk goes by whole minutes. -/
theorem clock_utc (n : Int) (k : Nat) : clock utc n k = n - n % 60000 + k * 60000 := by
  induction k with
  | zero =>
    show n - n % 60000 = _
    omega
  | succ k ih =>
    have hmove : clock utc n (k + 1) = clock utc n k + 60000 :=
      Function.iterate_succ_apply' (addMinute utc) k _
    rw [hmove, ih]
    omega

/-- In UTC the date is the civil one. -/
theorem localDate_utc (u : Nat) : localDate utc (u / 1000 : Nat) = civil (u / 60000000 : Nat) := by
  have hsame : ((u / 1000 : Nat) : Int) / 60000 = (u / 60000000 : Nat) := by omega
  show civil (((u / 1000 : Nat) : Int) / 60000) = _
  rw [hsame]

/-- There the local date of a minute is its date, and what the fields name is a run. -/
theorem predictable_utc_iff (hs : standard expr = some s)
    (hfirsts : Firsts (fun t : Int => now < t ∧ s.fires t = true) (ts.map Nat.cast)) :
    Predictable utc expr now ts ↔ ∀ u ∈ ts, u / 60000000 ≤ now / 60000000 + 100000 ∧
      Named expr (civil (u / 60000000 : Nat)) = true := by
  constructor
  · rintro ⟨hreached, hnamed, -⟩ u hu
    obtain ⟨k, hk, heq⟩ := hreached u hu
    have hname := hnamed u hu
    rw [clock_utc] at heq
    rw [localDate_utc] at hname
    exact ⟨by omega, hname⟩
  · intro h
    refine ⟨fun u hu => ?_, fun u hu => ?_, fun k hk u hu hle hnamed => ?_⟩
    · obtain ⟨hnow, hfires⟩ := hfirsts.holds u (List.mem_map_of_mem hu)
      have hminute : (u : Int) % 60000000 = 0 := by
        rw [Schedule.fires, Bool.and_eq_true, beq_iff_eq] at hfires
        exact hfires.1
      have hlast := (h u hu).1
      refine ⟨u / 60000000 - now / 60000000 - 1, by omega, ?_⟩
      rw [clock_utc]
      omega
    · rw [localDate_utc]
      exact (h u hu).2
    · have hclock := clock_utc (now / 1000 : Nat) (k + 1)
      have hwhole : 1000 * clock utc (now / 1000 : Nat) (k + 1) % 60000000 = 0 := by omega
      have hdate : 1000 * clock utc (now / 1000 : Nat) (k + 1) / 60000000 =
          clock utc (now / 1000 : Nat) (k + 1) / 60000 := by omega
      have hfires : s.fires (1000 * clock utc (now / 1000 : Nat) (k + 1)) = true := by
        rw [Schedule.fires, hwhole, hdate]
        exact onDate_of_named hs hnamed
      obtain ⟨v, hv, heq⟩ := List.mem_map.mp
        (hfirsts.complete _ u ⟨by omega, hfires⟩ (List.mem_map_of_mem hu) hle)
      exact ⟨v, hv, heq.symm⟩

/-- **The preview shows the first run times of the server** just if these are predictable on the
    clock of the browser; if this is in UTC, just if none of them is more than 100000 minutes ahead
    and the fields name the date of each.

    `standard` is the schedule that the expression has for the server and `Named` what its fields name for the page.
    `dateMatches_eq` and `nextRuns` as a filter of the walk give the first half; in UTC the minutes of the walk are
    those of the clock, and the third part of the condition always holds. -/
theorem preview_exact_iff (zone : Zone) (hs : standard expr = some s) (hC : Follows C expr s)
    (hts : runTimes C expr count now = .ok ts) :
    (shown zone expr count now = some (ts.map Nat.cast) ↔ Predictable zone expr now ts) ∧
      (shown utc expr count now = some (ts.map Nat.cast) ↔
        ∀ u ∈ ts, u / 60000000 ≤ now / 60000000 + 100000 ∧
          Named expr (civil (u / 60000000 : Nat)) = true) := by
  obtain ⟨rfl, hfirsts⟩ := runTimes_firsts hC hts
  refine ⟨shown_iff_predictable hs hfirsts, ?_⟩
  rw [shown_iff_predictable hs hfirsts, predictable_utc_iff hs hfirsts]

/-! ## A `croniter` -/

/-- The first minute, of the next `fuel`, at which the schedule fires. -/
def search (s : Schedule) : Nat → Nat → Option Nat
  | 0, _ => none
  | fuel + 1, m => if s.fires (60000000 * m : Nat) then some m else search s fuel (m + 1)

/-- The search of `croniter` finds the first minute that fires. -/
theorem search_spec : ∀ {fuel m k : Nat}, search s fuel m = some k →
    m ≤ k ∧ s.fires (60000000 * k : Nat) = true ∧
      ∀ i, m ≤ i → i < k → s.fires (60000000 * i : Nat) = false := by
  intro fuel
  induction fuel with
  | zero => intro m k h; cases h
  | succ fuel ih =>
    intro m k h
    rw [search] at h
    split at h
    · next hfires =>
      cases h
      exact ⟨le_rfl, hfires, fun i hlow hhigh => by omega⟩
    · next hfires =>
      obtain ⟨hle, hk, hbefore⟩ := ih h
      refine ⟨by omega, hk, fun i hlow hhigh => ?_⟩
      rcases Nat.lt_or_eq_of_le hlow with hlt | rfl
      · exact hbefore i hlt hhigh
      · exact Bool.eq_false_iff.mpr hfires

/-- Reads expressions as they are commonly read, and looks fifty years ahead. -/
def standardCron : Cron where
  next expr now :=
    match (standard expr).bind fun s => search s (50 * 366 * 1440) (now / 60000000 + 1) with
    | some m => .ok (60000000 * m)
    | none => .error .valueError
  later := by
    intro expr now t h
    split at h
    · next m hm =>
      obtain ⟨s, _, hsearch⟩ := Option.bind_eq_some_iff.mp hm
      have hle := (search_spec hsearch).1
      cases h
      omega
    · cases h

/-- It follows the schedule it reads. -/
theorem follows_standardCron (hs : standard expr = some s) : Follows standardCron expr s := by
  intro now u h
  rw [standardCron] at h
  dsimp only at h
  rw [hs, Option.bind_some] at h
  split at h
  · next m hm =>
    obtain ⟨hle, hfires, hbefore⟩ := search_spec hm
    cases h
    refine ⟨hfires, fun t hnow ht => ?_⟩
    by_cases hminute : t % 60000000 = 0
    · have hwhole : t = (60000000 * (t / 60000000).toNat : Nat) := by omega
      rw [hwhole]
      exact hbefore (t / 60000000).toNat (by omega) (by omega)
    · rw [Schedule.fires, beq_eq_false_iff_ne.mpr hminute, Bool.false_and]
  · cases h

/-! ## Working hours -/

/-- An instant, by the days since 1970 and the time of day. -/
def instant (days hour minute : Nat) : Nat := (days * 1440 + hour * 60 + minute) * 60000000

/-- Every quarter of an hour of the working week. -/
def quarters : Schedule where
  minute := [0, 15, 30, 45]
  hour := [9, 10, 11, 12, 13, 14, 15, 16, 17]
  day := none
  month := [1, 2, 3, 4, 5, 6, 7, 8, 9, 10, 11, 12]
  weekday := some [1, 2, 3, 4, 5]

theorem standard_quarters : standard "*/15 9-17 * * 1-5" = some quarters := by decide +kernel

theorem runTimes_quarters : runTimes standardCron "*/15 9-17 * * 1-5" 3 (instant 20458 8 58) =
    .ok [instant 20458 9 0, instant 20458 9 15, instant 20458 9 30] := by
  decide +kernel

/-- On a Monday, before nine o'clock. -/
theorem preview_exact_quarters : shown utc "*/15 9-17 * * 1-5" 3 (instant 20458 8 58) =
    some ([instant 20458 9 0, instant 20458 9 15, instant 20458 9 30].map Nat.cast) :=
  (preview_exact_iff utc standard_quarters (follows_standardCron standard_quarters)
    runTimes_quarters).2.mpr (by decide +kernel)

/-! ## Sundays -/

/-- Every Sunday at midnight. -/
def sundays : Schedule where
  minute := [0]
  hour := [0]
  day := none
  month := [1, 2, 3, 4, 5, 6, 7, 8, 9, 10, 11, 12]
  weekday := some [0]

theorem standard_sundays : standard "0 0 * * 7" = some sundays := by decide +kernel

theorem runTimes_sundays : runTimes standardCron "0 0 * * 7" 1 (instant 20456 23 58) =
    .ok [instant 20457 0 0] := by
  decide +kernel

/-- What the page reads: no weekday of a date is 7. -/
def sundayValues : Values where
  minute := [.ofInt 0]
  hour := [.ofInt 0]
  day := numbers (List.range' 1 31)
  month := numbers (List.range' 1 12)
  weekday := [.ofInt 7]

/-- An expression whose weekdays are none shows no run at all. -/
theorem shown_of_no_weekday {minute hour day month weekday : List Char} {rest : List (List Char)}
    {values : Values} (hfields : fields expr = minute :: hour :: day :: month :: weekday :: rest)
    (hvalues : parseFields minute hour day month weekday = some values)
    (hnone : ∀ n < 7, includes values.weekday n = false) : shown zone expr count now = some [] := by
  have hp : ∀ date, dateMatches expr date = some false := by
    intro date
    rw [dateMatches_of_fields hfields hvalues]
    show some (_ && includes values.weekday date.weekday) = some false
    rw [hnone date.weekday date.weekday_lt, Bool.and_false]
  rw [shown_eq hp, List.filter_false, List.take_nil]

/-- **Sunday as 7**: the server fires at midnight, and the page shows no run. -/
theorem seventh_weekday_not_shown :
    ¬ ∀ (zone : Zone) (C : Cron) (expr : String) (s : Schedule) (count now : Nat) (ts : List Nat),
      standard expr = some s → Follows C expr s → runTimes C expr count now = .ok ts →
        shown zone expr count now = some (ts.map Nat.cast) := by
  intro h
  have hshown := h utc standardCron "0 0 * * 7" sundays 1 (instant 20456 23 58) [instant 20457 0 0]
    standard_sundays (follows_standardCron standard_sundays) runTimes_sundays
  have hfields : fields "0 0 * * 7" = [['0'], ['0'], ['*'], ['*'], ['7']] := by decide +kernel
  have hvalues : parseFields ['0'] ['0'] ['*'] ['*'] ['7'] = some sundayValues := by decide +kernel
  have hnone : shown utc "0 0 * * 7" 1 (instant 20456 23 58) = some [] :=
    shown_of_no_weekday hfields hvalues (by decide +kernel)
  rw [hnone] at hshown
  cases hshown

end Preview

end Dtsys
