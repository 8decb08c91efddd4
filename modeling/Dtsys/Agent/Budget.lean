/-
  THE EVENT BUDGET of a window (`ApplyEventRateLimit`, `eventLoop` of `cmd/agent/main.go`).

  A poll that comes first in its window should send the first `maxEvents` of its events, and one
  summary of how many were dropped.  `eventLoop` applies the limiter to whatever `CollectEvents`
  returns — and on Windows `CollectEvents` has applied it already.

  * `applyEventRateLimit_opening` — what one application does to a batch that opens a window.
  * `applyEventRateLimit_within` — what one does to any later batch of the window.
  * `applyEventRateLimit_again` — what a second one in the same window does to the result.
  * `budget_honoured_iff` — when the events sent are those of the budget: always with one
    application; with two, only if the batch fits twice, or the window ends in between.
-/
import Dtsys.Agent.Events

namespace Dtsys

namespace Agent

/-- One poll of `eventLoop`: what is passed to `SendEvent`.  `t₁` and `t₂` are the times at which
    the limiter is entered, by the collector if it does so and by the loop. -/
def pollSends (r : Readings) (batch : List EventData) (t₁ t₂ : Int) (l : EventRateLimiter) :
    List EventData :=
  (applyEventRateLimit t₂ (r.collected t₁ batch l).1 (r.collected t₁ batch l).2).1

/-- The budget: the first `maxEvents` of the batch, and a summary of the others if there are any. -/
def budgeted (maxEvents : Int) (batch : List EventData) : List EventData :=
  batch.take maxEvents.toNat ++
    if maxEvents < batch.length then [rateSummary (batch.length - maxEvents)] else []

/-- The time at which the poll enters the limiter first. -/
def firstEntry (r : Readings) (t₁ t₂ : Int) : Int := if r.platform = .windows then t₁ else t₂

/-! ## One application -/

variable {l : EventRateLimiter} {batch : List EventData}

/-- The limiter after a batch that opens a window at `now`. -/
def opened (l : EventRateLimiter) (now : Int) (n : Nat) : EventRateLimiter :=
  { l with windowStart := some now
           count := (min l.maxEvents.toNat n : Nat)
           dropped := (n - l.maxEvents.toNat : Nat)
           summarySent := decide (l.maxEvents.toNat < n) }

/-- What a batch that opens a window becomes. -/
theorem applyEventRateLimit_opening {now : Int} (hfresh : l.expired now = true)
    (hmax : 0 ≤ l.maxEvents) (hne : batch ≠ []) :
    applyEventRateLimit now batch l =
      (budgeted l.maxEvents batch, opened l now batch.length) := by
  have hcur : l.current now =
      { l with windowStart := some now, count := 0, dropped := 0, summarySent := false } :=
    if_pos hfresh
  have hallowed : (l.current now).allowed = l.maxEvents.toNat := by
    rw [hcur]
    show (l.maxEvents - 0).toNat = _
    rw [Int.sub_zero]
  rw [applyEventRateLimit_eq now hne, hallowed, hcur]
  show addSummary (batch.take l.maxEvents.toNat)
    { l with windowStart := some now
             count := 0 + (min l.maxEvents.toNat batch.length : Nat)
             dropped := 0 + (batch.length - l.maxEvents.toNat : Nat)
             summarySent := false } = _
  rw [Int.zero_add, Int.zero_add]
  rw [addSummary, budgeted, opened]
  by_cases hover : l.maxEvents.toNat < batch.length
  · have hdropped : ((batch.length - l.maxEvents.toNat : Nat) : Int) =
        batch.length - l.maxEvents := by omega
    have hpos : (0 : Int) < batch.length - l.maxEvents := by omega
    rw [decide_eq_true hover, hdropped, if_pos ⟨hpos, rfl⟩, if_pos (by omega)]
  · have hzero : ((batch.length - l.maxEvents.toNat : Nat) : Int) = 0 := by omega
    rw [decide_eq_false hover, hzero, if_neg (fun h => absurd h.1 (Int.lt_irrefl 0)),
      if_neg (by omega), List.append_nil]

/-- After `n` events of a window, what is left of the budget passes, and the first event that does not
    fit makes the summary. -/
theorem applyEventRateLimit_within {start now : Int} (hmax : 0 < l.maxEvents) (hin : now ≤ start + l.window)
    (n : Nat) (batch : List EventData) :
    applyEventRateLimit now batch (opened l start n) =
      (batch.take (l.maxEvents.toNat - n) ++
        (if n ≤ l.maxEvents.toNat ∧ l.maxEvents.toNat < n + batch.length then
          [rateSummary (n + batch.length - l.maxEvents.toNat : Nat)] else []),
        opened l start (n + batch.length)) := by
  have hcur : (opened l start n).current now = opened l start n := by
    refine if_neg ?_
    show ¬ decide (l.window < now - start) = true
    rw [decide_eq_true_eq]
    omega
  have hallowed : (opened l start n).allowed = l.maxEvents.toNat - n := by
    show (l.maxEvents - (min l.maxEvents.toNat n : Nat)).toNat = _
    omega
  by_cases hne : batch = []
  · subst hne
    rw [List.take_nil, if_neg (by rw [List.length_nil]; omega)]
    rfl
  · rw [applyEventRateLimit_eq now hne, hcur, hallowed]
    have hpos := List.length_pos_iff.mpr hne
    have hcount : (opened l start n).count + (min (l.maxEvents.toNat - n) batch.length : Nat) =
        (min l.maxEvents.toNat (n + batch.length) : Nat) := by
      show ((min l.maxEvents.toNat n : Nat) : Int) + _ = _
      omega
    have hdropped : (opened l start n).dropped +
        (batch.length - (l.maxEvents.toNat - n) : Nat) =
          (n + batch.length - l.maxEvents.toNat : Nat) := by
      show ((n - l.maxEvents.toNat : Nat) : Int) + _ = _
      omega
    rw [hcount, hdropped]
    show addSummary _ { opened l start (n + batch.length) with
      summarySent := decide (l.maxEvents.toNat < n) } = _
    rw [addSummary]
    by_cases hover : n ≤ l.maxEvents.toNat ∧ l.maxEvents.toNat < n + batch.length
    · have hpos' : (0 : Int) < (n + batch.length - l.maxEvents.toNat : Nat) := by omega
      rw [if_pos hover, if_pos ⟨hpos', decide_eq_false (Nat.not_lt.mpr hover.1)⟩]
      rw [opened, decide_eq_true hover.2]
    · -- nothing is dropped, or the summary has been sent
      have hsent : decide (l.maxEvents.toNat < n) = decide (l.maxEvents.toNat < n + batch.length) :=
        decide_eq_decide.mpr ⟨fun h => by omega, fun h => by omega⟩
      rw [if_neg hover, if_neg ?_, List.append_nil, hsent]
      · rfl
      · rintro ⟨hpos', hsent⟩
        have hle : ¬ l.maxEvents.toNat < n := of_decide_eq_false hsent
        have hpos' : (0 : Int) < (n + batch.length - l.maxEvents.toNat : Nat) := hpos'
        omega

/-- One more than `MaxEvents` may be left: the summary of what has been dropped. -/
theorem length_budgeted (hmax : 0 ≤ l.maxEvents) :
    (budgeted l.maxEvents batch).length = min (l.maxEvents.toNat + 1) batch.length := by
  rw [budgeted, List.length_append, List.length_take]
  split
  · show _ + 1 = _
    omega
  · show _ + 0 = _
    omega

theorem budgeted_ne_nil (hmax : 0 < l.maxEvents) (hne : batch ≠ []) :
    budgeted l.maxEvents batch ≠ [] := by
  have hpos := List.length_pos_iff.mpr hne
  have hlen := @length_budgeted l batch (by omega)
  exact List.length_pos_iff.mp (by omega)

/-- A batch within the budget is all of it. -/
theorem budgeted_of_le (h : (batch.length : Int) ≤ l.maxEvents) : budgeted l.maxEvents batch = batch := by
  rw [budgeted, if_neg (by omega), List.append_nil, List.take_of_length_le (by omega)]

/-! ## A second application -/

/-- In the same window, the second application finds the budget spent. -/
theorem applyEventRateLimit_again {now later : Int} (hmax : 0 < l.maxEvents)
    (hsame : later - now ≤ l.window) :
    (applyEventRateLimit later (budgeted l.maxEvents batch) (opened l now batch.length)).1 =
      if l.maxEvents < batch.length then []
      else batch.take (l.maxEvents.toNat - batch.length) ++
        if l.maxEvents < 2 * batch.length then [rateSummary (2 * batch.length - l.maxEvents)]
        else [] := by
  have hlen := @length_budgeted l batch (by omega)
  rw [applyEventRateLimit_within hmax (by omega) batch.length (budgeted l.maxEvents batch)]
  by_cases hover : l.maxEvents < batch.length
  · -- the summary of the first application has been counted, and it is dropped with the rest
    rw [if_pos hover, if_neg (by omega), show l.maxEvents.toNat - batch.length = 0 by omega,
      List.take_zero, List.append_nil]
  · rw [if_neg hover, budgeted_of_le (by omega)]
    by_cases htwice : l.maxEvents < 2 * batch.length
    · have hdropped : ((batch.length + batch.length - l.maxEvents.toNat : Nat) : Int) =
          2 * batch.length - l.maxEvents := by omega
      rw [if_pos htwice, if_pos (by omega), hdropped]
    · rw [if_neg htwice, if_neg (by omega)]

/-- After the window has ended, it drops the summary of the first for another one. -/
theorem budgeted_budgeted (hmax : 0 < l.maxEvents) :
    budgeted l.maxEvents (budgeted l.maxEvents batch) =
      if l.maxEvents < batch.length then batch.take l.maxEvents.toNat ++ [rateSummary 1]
      else batch := by
  have hlen := @length_budgeted l batch (by omega)
  by_cases hover : l.maxEvents < batch.length
  · have hone : ((budgeted l.maxEvents batch).length : Int) = l.maxEvents + 1 := by omega
    have htake : (budgeted l.maxEvents batch).take l.maxEvents.toNat =
        batch.take l.maxEvents.toNat := by
      rw [budgeted]
      rw [List.take_append_of_le_length (by rw [List.length_take]; omega), List.take_take,
        Nat.min_self]
    rw [if_pos hover]
    show (budgeted l.maxEvents batch).take l.maxEvents.toNat ++
      (if l.maxEvents < ((budgeted l.maxEvents batch).length : Int) then
        [rateSummary ((budgeted l.maxEvents batch).length - l.maxEvents)] else []) = _
    rw [htake, hone, if_pos (by omega), show l.maxEvents + 1 - l.maxEvents = 1 by omega]
  · rw [if_neg hover, @budgeted_of_le l batch (by omega), budgeted_of_le (by omega)]

/-! ## No collector makes a summary -/

/-- The summary tells how many events were dropped. -/
theorem rateSummary_inj {j k : Int} (h : rateSummary j = rateSummary k) : j = k := by
  have hraw : [("dropped", Json.int j)] = [("dropped", Json.int k)] := congrArg EventData.rawData h
  injection hraw with hhead
  injection hhead with _ hint
  exact Json.int.inj hint

/-- An event is added to the batch, or dropped. -/
theorem mem_addEvent {p : Platform} {events : List EventData} {ev x : EventData}
    (h : x ∈ addEvent p events ev) : x ∈ events ∨ x = ev := by
  rw [addEvent] at h
  split at h
  · exact Or.inl h
  · rcases List.mem_append.mp h with h | h
    · exact Or.inl h
    · exact Or.inr (List.mem_singleton.mp h)

/-- The filter adds nothing. -/
theorem mem_filterEvents {p : Platform} {cfg : EventFilterConfig} {lower : Char → Char}
    {clock : Nat → Int} {x : EventData} : ∀ {candidates : List EventData} {i : Nat}
      {table : DedupTable} {events : List EventData},
      x ∈ (filterEvents p cfg lower clock i candidates table events).1 →
        x ∈ events ∨ x ∈ candidates := by
  intro candidates
  induction candidates with
  | nil => exact fun h => Or.inl h
  | cons ev rest ih =>
    intro i table events h
    have hstep : x ∈ (filterEvents p cfg lower clock (i + 1) rest
        (shouldSkipEvent cfg lower (clock i) ev.source ev.message table).2
        (if (shouldSkipEvent cfg lower (clock i) ev.source ev.message table).1 then events
          else addEvent p events ev)).1 := h
    rcases ih hstep with hmem | hmem
    · by_cases hskip :
          (shouldSkipEvent cfg lower (clock i) ev.source ev.message table).1 = true
      · rw [if_pos hskip] at hmem
        exact Or.inl hmem
      · rw [if_neg hskip] at hmem
        rcases mem_addEvent hmem with hmem | rfl
        · exact Or.inl hmem
        · exact Or.inr List.mem_cons_self
    · exact Or.inr (List.mem_cons_of_mem _ hmem)

/-- The events of the Windows collector carry other data than a summary. -/
theorem not_summary_of_windows {r : Readings} (hwin : r.platform = .windows)
    (cfg : EventFilterConfig) (lower : Char → Char) (clock : Nat → Int) (table : DedupTable)
    (k : Int) : rateSummary k ∉ r.batch cfg lower clock table := by
  cases r with
  | linux events => cases hwin
  | darwin events => cases hwin
  | windows records dumps =>
    have hone : (rateSummary k).rawData.length = 1 := rfl
    intro hmem
    rcases List.mem_append.mp hmem with hmem | hmem
    · rcases mem_filterEvents hmem with hnil | hmem
      · cases hnil
      · obtain ⟨record, -, hev⟩ := List.mem_map.mp hmem
        rw [← hev] at hone
        cases hone
    · obtain ⟨dump, -, hev⟩ := List.mem_map.mp hmem
      rw [← hev] at hone
      cases hone

/-! ## The budget -/

/-- What a poll on Windows sends. -/
theorem pollSends_windows {r : Readings} (hwin : r.platform = .windows) {t₁ t₂ : Int}
    (hfresh : l.expired t₁ = true) (hmax : 0 < l.maxEvents) (hne : batch ≠ []) :
    pollSends r batch t₁ t₂ l =
      if l.window < t₂ - t₁ then budgeted l.maxEvents (budgeted l.maxEvents batch)
      else if l.maxEvents < batch.length then []
      else batch.take (l.maxEvents.toNat - batch.length) ++
        if l.maxEvents < 2 * batch.length then [rateSummary (2 * batch.length - l.maxEvents)]
        else [] := by
  have hcollected : r.collected t₁ batch l =
      (budgeted l.maxEvents batch, opened l t₁ batch.length) := by
    rw [← applyEventRateLimit_opening hfresh (by omega) hne]
    cases r with
    | linux events => cases hwin
    | darwin events => cases hwin
    | windows records dumps => rfl
  rw [pollSends, hcollected]
  by_cases hlater : l.window < t₂ - t₁
  · rw [if_pos hlater, applyEventRateLimit_opening (l := opened l t₁ batch.length)
      (decide_eq_true hlater) (show 0 ≤ l.maxEvents by omega) (budgeted_ne_nil hmax hne)]
    rfl
  · rw [if_neg hlater]
    exact applyEventRateLimit_again hmax (by omega)

/-- Two budgets in a row are one, if at most one event is over: the summary of the second counts
    the summary of the first. -/
theorem budgeted_twice_iff (hmax : 0 < l.maxEvents) :
    budgeted l.maxEvents (budgeted l.maxEvents batch) = budgeted l.maxEvents batch ↔
      (batch.length : Int) ≤ l.maxEvents + 1 := by
  rw [budgeted_budgeted hmax]
  by_cases hover : l.maxEvents < batch.length
  · rw [if_pos hover]
    rw [budgeted, if_pos hover]
    constructor
    · intro h
      have hlast := List.append_cancel_left h
      have hone := rateSummary_inj (List.head_eq_of_cons_eq hlast)
      omega
    · intro h
      rw [show (batch.length : Int) - l.maxEvents = 1 by omega]
  · rw [if_neg hover, budgeted_of_le (by omega)]
    exact iff_of_true rfl (by omega)

/-- A budget that is spent already leaves the batch as it is, if this fits twice: beyond, a summary
    comes in that is none of its events, and over the budget nothing is left at all. -/
theorem spent_twice_iff (hmax : 0 < l.maxEvents) (hne : batch ≠ [])
    (hforeign : ∀ k, rateSummary k ∉ batch) :
    ((if l.maxEvents < batch.length then []
      else batch.take (l.maxEvents.toNat - batch.length) ++
        if l.maxEvents < 2 * batch.length then [rateSummary (2 * batch.length - l.maxEvents)]
        else []) = budgeted l.maxEvents batch) ↔ 2 * (batch.length : Int) ≤ l.maxEvents := by
  by_cases hover : l.maxEvents < batch.length
  · rw [if_pos hover]
    refine iff_of_false (fun h => ?_) (by omega)
    exact budgeted_ne_nil hmax hne h.symm
  · rw [if_neg hover, budgeted_of_le (by omega)]
    by_cases htwice : l.maxEvents < 2 * batch.length
    · rw [if_pos htwice]
      refine iff_of_false (fun h => ?_) (by omega)
      exact hforeign _ (h ▸ List.mem_append_right _ List.mem_cons_self)
    · rw [if_neg htwice, List.append_nil, List.take_of_length_le (by omega)]
      exact iff_of_true rfl (by omega)

/-- **The budget is honoured**: on Linux and macOS always; on Windows exactly if the batch fits
    twice into it, or the window ends between the two applications and at most one event is over.

    On Windows the batch goes through the limiter twice.  Both applications are computed in closed form, and
    compared with the budget. -/
theorem budget_honoured_iff (r : Readings) (cfg : EventFilterConfig) (lower : Char → Char)
    (clock : Nat → Int) (table : DedupTable) (t₁ t₂ : Int) (hmax : 0 < l.maxEvents)
    (hfresh : l.expired (firstEntry r t₁ t₂) = true) :
    pollSends r (r.batch cfg lower clock table) t₁ t₂ l =
        budgeted l.maxEvents (r.batch cfg lower clock table) ↔
      r.platform ≠ .windows ∨ 2 * (r.batch cfg lower clock table).length ≤ l.maxEvents ∨
        (l.window < t₂ - t₁ ∧ (r.batch cfg lower clock table).length ≤ l.maxEvents + 1) := by
  have hforeign := fun hwin k => not_summary_of_windows (r := r) hwin cfg lower clock table k
  generalize r.batch cfg lower clock table = batch at *
  by_cases hne : batch = []
  · subst hne
    refine iff_of_true ?_ (Or.inr (Or.inl (show (2 * 0 : Int) ≤ _ by omega)))
    have hcollected : (r.collected t₁ [] l).1 = [] := by cases r <;> rfl
    rw [pollSends, hcollected, budgeted_of_le (show (0 : Int) ≤ _ by omega)]
    rfl
  by_cases hwin : r.platform = .windows
  · have hfirst : l.expired t₁ = true := by rwa [firstEntry, if_pos hwin] at hfresh
    rw [pollSends_windows hwin hfirst hmax hne, or_iff_right (not_not_intro hwin)]
    -- Whether the second application opens a window of its own.
    by_cases hlater : l.window < t₂ - t₁
    · rw [if_pos hlater, budgeted_twice_iff hmax]
      constructor
      · exact fun h => Or.inr ⟨hlater, h⟩
      · rintro (h | ⟨-, h⟩)
        · omega
        · exact h
    · rw [if_neg hlater, spent_twice_iff hmax hne (hforeign hwin)]
      constructor
      · exact Or.inl
      · rintro (h | ⟨h, -⟩)
        · exact h
        · exact absurd h hlater
  · have hcollected : r.collected t₁ batch l = (batch, l) := by
      cases r with
      | linux events => rfl
      | darwin events => rfl
      | windows records dumps => exact absurd rfl hwin
    have hfirst : l.expired t₂ = true := by rwa [firstEntry, if_neg hwin] at hfresh
    rw [pollSends, hcollected, applyEventRateLimit_opening hfirst (by omega) hne]
    exact iff_of_true rfl (Or.inl hwin)

/-- A bad block on the `n`-th drive. -/
def badBlock (n : Nat) : WindowsEventRecord where
  source := .ofString "System"
  eventId := 7
  level := .ofString "Error"
  message := .ofString ("The device, drive " ++ toString n ++ ", has a bad block.")
  timestamp := .ofString "2026-01-01T00:00:00.0000000Z"
  provider := .ofString "disk"

/-- Three drives of a Windows host. -/
def badDrives : Readings := .windows ((List.range 3).map badBlock) []

/-- Their events, none of which is filtered out. -/
def badDriveEvents : List EventData :=
  badDrives.batch ⟨50, []⟩ Char.toLower (fun _ => 0) fun _ => .empty

/-- A budget of two. -/
def smallLimiter : EventRateLimiter := configureEventRateLimit 2 30 .initial

/-- A batch of drive failures that overruns a small budget. -/
theorem budget_honoured_drives :
    0 < smallLimiter.maxEvents ∧ smallLimiter.expired (firstEntry badDrives 0 0) = true ∧
      (pollSends badDrives badDriveEvents 0 0 smallLimiter =
          budgeted smallLimiter.maxEvents badDriveEvents ↔
        badDrives.platform ≠ .windows ∨ 2 * badDriveEvents.length ≤ smallLimiter.maxEvents ∨
          (smallLimiter.window < 0 - 0 ∧ badDriveEvents.length ≤ smallLimiter.maxEvents + 1)) :=
  ⟨by decide, by decide,
    budget_honoured_iff badDrives ⟨50, []⟩ Char.toLower (fun _ => 0) (fun _ => .empty) 0 0
      (by decide) (by decide)⟩

/-- Of three events and a budget of two, nothing is sent, not even a summary. -/
theorem windows_budget_lost :
    0 < smallLimiter.maxEvents ∧ smallLimiter.expired (firstEntry badDrives 0 0) = true ∧
      pollSends badDrives badDriveEvents 0 0 smallLimiter ≠
        budgeted smallLimiter.maxEvents badDriveEvents := by
  have hsent : (pollSends badDrives badDriveEvents 0 0 smallLimiter).length = 0 := by
    decide +kernel
  have hbudget : (budgeted smallLimiter.maxEvents badDriveEvents).length = 3 := by
    decide +kernel
  refine ⟨by decide, by decide, fun h => ?_⟩
  rw [h, hbudget] at hsent
  cases hsent

end Agent

end Dtsys
