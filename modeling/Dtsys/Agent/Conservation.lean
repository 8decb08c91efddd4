/-
  WHAT A WINDOW LETS THROUGH (`ApplyEventRateLimit`), over any number of calls.

  A window begins with the call that opens it and lasts as long as no call is later than
  `windowStart + window`.  The SPECIFICATION sees one stream of events, cut into batches: the first
  `maxEvents` of the stream pass, the others are counted, and the first call that drops anything adds
  one summary of what it drops itself (`summariesOf`).

  The code carries a counter from call to call.  The crux is that the limiter after `n` events of the
  window is `opened l start n`, however these have been cut (`applyEventRateLimit_within`).
-/
import Dtsys.Agent.Budget

namespace Dtsys

namespace Agent

/-- A call of `ApplyEventRateLimit`. -/
structure RateCall where
  time : Int
  events : List EventData

/-- The results of the calls, and the limiter after them. -/
def applyAll : EventRateLimiter → List RateCall → List (List EventData) × EventRateLimiter
  | l, [] => ([], l)
  | l, c :: calls =>
    let (out, l) := applyEventRateLimit c.time c.events l
    let (outs, l) := applyAll l calls
    (out :: outs, l)

theorem applyAll_cons (l : EventRateLimiter) (c : RateCall) (calls : List RateCall) :
    applyAll l (c :: calls) =
      ((applyEventRateLimit c.time c.events l).1 ::
          (applyAll (applyEventRateLimit c.time c.events l).2 calls).1,
        (applyAll (applyEventRateLimit c.time c.events l).2 calls).2) := rfl

/-- The call finds no window, and opens one. -/
def Opens (l : EventRateLimiter) (c : RateCall) : Prop :=
  c.events ≠ [] ∧ l.expired c.time = true

/-- The calls `first :: rest` are one window of the run: the first one opens it, and the run goes on
    after its end. -/
structure IsWindow (l : EventRateLimiter) (before : List RateCall) (first : RateCall)
    (rest after : List RateCall) : Prop where
  opens : Opens (applyAll l before).2 first
  within : ∀ c ∈ rest, c.time ≤ first.time + l.window
  ended : ∀ c ∈ after.head?, first.time + l.window < c.time

/-! ## The specification -/

/-- The summaries of calls that drop so many events: one, in the first call that drops any. -/
def summariesOf : List Nat → List (List EventData)
  | [] => []
  | 0 :: ns => [] :: summariesOf ns
  | (n + 1) :: ns => [rateSummary (n + 1 : Nat)] :: ns.map fun _ => []

/-- What `kept` leaves out of the batches. -/
def droppedBy (batches kept : List (List EventData)) : List Nat :=
  List.zipWith (fun batch k => batch.length - k.length) batches kept

theorem droppedBy_cons (batch k : List EventData) (batches kept : List (List EventData)) :
    droppedBy (batch :: batches) (k :: kept) =
      (batch.length - k.length) :: droppedBy batches kept := rfl

/-- The window of the batches with the results `outs`, `kept` the input events among these, and the
    limiter after it. -/
structure Conserved (batches kept outs : List (List EventData)) (l : EventRateLimiter) : Prop where
  from_batch : List.Forall₂ (· <+: ·) kept batches
  number : (kept.flatten.length : Int) = min l.maxEvents batches.flatten.length
  isPrefix : kept.flatten <+: batches.flatten
  counted : l.count + l.dropped = batches.flatten.length
  summaries : outs = List.zipWith (· ++ ·) kept (summariesOf (droppedBy batches kept))

/-- The batches, with a budget for all of them. -/
def portions : Nat → List (List EventData) → List (List EventData)
  | _, [] => []
  | budget, batch :: batches => batch.take budget :: portions (budget - batch.length) batches

/-- Nothing is reordered within the budget. -/
theorem portions_flatten : ∀ (batches : List (List EventData)) (budget : Nat),
    (portions budget batches).flatten = batches.flatten.take budget := by
  intro batches
  induction batches with
  | nil => intro budget; simp [portions]
  | cons batch batches ih =>
    intro budget
    rw [portions, List.flatten_cons, List.flatten_cons, ih, List.take_append]

/-- Each call returns a beginning of its batch. -/
theorem portions_from_batch : ∀ (batches : List (List EventData)) (budget : Nat),
    List.Forall₂ (· <+: ·) (portions budget batches) batches := by
  intro batches
  induction batches with
  | nil => exact fun _ => .nil
  | cons batch batches ih => exact fun budget => .cons (List.take_prefix budget batch) (ih _)

/-! ## The call that opens the window -/

section

variable {l : EventRateLimiter} {now : Int}

/-- The first call of a window. -/
theorem applyEventRateLimit_opens {c : RateCall} (hopen : Opens l c) :
    applyEventRateLimit c.time c.events l =
      applyEventRateLimit c.time c.events (opened l c.time 0) := by
  have hzero : opened l c.time 0 =
      { l with windowStart := some c.time, count := 0, dropped := 0, summarySent := false } := by
    rw [opened, Nat.min_zero, Nat.zero_sub, decide_eq_false (Nat.not_lt_zero _)]
    rfl
  have hcur : l.current c.time = opened l c.time 0 := (if_pos hopen.2).trans hzero.symm
  have hagain : (opened l c.time 0).current c.time = opened l c.time 0 := by
    rw [EventRateLimiter.current]
    split
    · exact hzero.symm
    · rfl
  rw [applyEventRateLimit_eq _ hopen.1, applyEventRateLimit_eq _ hopen.1, hagain, hcur]

end

/-! ## The calls of a window -/

/-- The summaries of the calls, after `n` events of the window. -/
def summariesAfter (maxEvents n : Nat) (drops : List Nat) : List (List EventData) :=
  if n ≤ maxEvents then summariesOf drops else drops.map fun _ => []

/-- The next call makes the summary if it is the first one that does not fit. -/
theorem summariesAfter_cons (maxEvents n size : Nat) (drops : List Nat) :
    summariesAfter maxEvents n ((size - (maxEvents - n)) :: drops) =
      (if n ≤ maxEvents ∧ maxEvents < n + size then [rateSummary (n + size - maxEvents : Nat)] else [])
        :: summariesAfter maxEvents (n + size) drops := by
  unfold summariesAfter
  by_cases hn : n ≤ maxEvents
  · by_cases hfits : n + size ≤ maxEvents
    · rw [show size - (maxEvents - n) = 0 by omega, if_pos hn, if_neg (by omega), if_pos hfits]
      rfl
    · obtain ⟨k, hk⟩ : ∃ k, n + size - maxEvents = k + 1 := ⟨n + size - maxEvents - 1, by omega⟩
      rw [show size - (maxEvents - n) = k + 1 by omega, hk, if_pos hn, if_pos ⟨hn, by omega⟩,
        if_neg hfits]
      rfl
  · rw [if_neg hn, if_neg (by omega), if_neg (by omega)]
    rfl

/-- **The run of calls within the window**, after `n` events of it. -/
theorem applyAll_within {l : EventRateLimiter} (start : Int) (hmax : 0 < l.maxEvents) :
    ∀ (calls : List RateCall) (n : Nat), (∀ c ∈ calls, c.time ≤ start + l.window) →
      applyAll (opened l start n) calls =
        (List.zipWith (· ++ ·) (portions (l.maxEvents.toNat - n) (calls.map RateCall.events))
          (summariesAfter l.maxEvents.toNat n (droppedBy (calls.map RateCall.events)
            (portions (l.maxEvents.toNat - n) (calls.map RateCall.events)))),
        opened l start (n + (calls.map RateCall.events).flatten.length)) := by
  intro calls
  induction calls with
  | nil => exact fun n _ => rfl
  | cons c calls ih =>
    intro n hin
    have htime : c.time ≤ start + l.window := hin c List.mem_cons_self
    have hcall := applyEventRateLimit_within hmax htime n c.events
    have hrest := ih (n + c.events.length) fun d hd => hin d (List.mem_cons_of_mem c hd)
    have hleft : l.maxEvents.toNat - (n + c.events.length) =
        l.maxEvents.toNat - n - c.events.length := by omega
    have hdrop : c.events.length - (c.events.take (l.maxEvents.toNat - n)).length =
        c.events.length - (l.maxEvents.toNat - n) := by
      rw [List.length_take]
      omega
    rw [applyAll_cons, hcall, hrest, hleft, List.map_cons, portions, droppedBy_cons, hdrop,
      summariesAfter_cons, List.flatten_cons, List.length_append, Nat.add_assoc]
    rfl

/-- A call that opens a window is a call within it. -/
theorem applyAll_opens {l : EventRateLimiter} {first : RateCall} (hopen : Opens l first)
    (rest : List RateCall) :
    applyAll l (first :: rest) = applyAll (opened l first.time 0) (first :: rest) := by
  rw [applyAll_cons, applyAll_cons, applyEventRateLimit_opens hopen]

/-! ## Conservation -/

theorem applyEventRateLimit_config (now : Int) (batch : List EventData) (l : EventRateLimiter) :
    (applyEventRateLimit now batch l).2.maxEvents = l.maxEvents ∧
      (applyEventRateLimit now batch l).2.window = l.window := by
  have hcur : (l.current now).maxEvents = l.maxEvents ∧ (l.current now).window = l.window := by
    rw [EventRateLimiter.current]
    split
    · exact ⟨rfl, rfl⟩
    · exact ⟨rfl, rfl⟩
  by_cases hne : batch = []
  · subst hne
    exact ⟨rfl, rfl⟩
  · rw [applyEventRateLimit_eq now hne]
    rw [addSummary]
    split
    · exact hcur
    · exact hcur

/-- The limiter keeps its configuration. -/
theorem applyAll_config : ∀ (calls : List RateCall) (l : EventRateLimiter),
    (applyAll l calls).2.maxEvents = l.maxEvents ∧ (applyAll l calls).2.window = l.window := by
  intro calls
  induction calls with
  | nil => exact fun l => ⟨rfl, rfl⟩
  | cons c calls ih =>
    intro l
    obtain ⟨hmax, hwindow⟩ := applyEventRateLimit_config c.time c.events l
    obtain ⟨hmax', hwindow'⟩ := ih (applyEventRateLimit c.time c.events l).2
    rw [applyAll_cons]
    exact ⟨hmax'.trans hmax, hwindow'.trans hwindow⟩

/-- **Conservation**: in every window of every run of calls, the first `maxEvents` of its events pass, the
    others are counted, and the first call that drops any adds the summary of what it drops.

    By induction over the calls of a window; `keepAllowed` splits a batch into what passes and what is counted, and
    the summary is made by the first call that drops something. -/
theorem window_conserves {l : EventRateLimiter} (hmax : 0 < l.maxEvents) (hwindow : 0 < l.window)
    {before rest after : List RateCall} {first : RateCall} (h : IsWindow l before first rest after) :
    ∃ kept, Conserved ((first :: rest).map RateCall.events) kept
      (applyAll (applyAll l before).2 (first :: rest)).1
      (applyAll (applyAll l before).2 (first :: rest)).2 := by
  obtain ⟨hmaxEq, hwindowEq⟩ := applyAll_config before l
  obtain ⟨hopen, hwithin, -⟩ := h
  rw [← hmaxEq] at hmax
  rw [← hwindowEq] at hwindow hwithin
  generalize (applyAll l before).2 = l₁ at hmax hwindow hopen hwithin
  have hin : ∀ c ∈ first :: rest, c.time ≤ first.time + l₁.window := by
    intro c hc
    rcases List.mem_cons.mp hc with rfl | hc
    · omega
    · exact hwithin c hc
  have hrun := applyAll_within first.time hmax (first :: rest) 0 hin
  rw [Nat.sub_zero, Nat.zero_add] at hrun
  refine ⟨portions l₁.maxEvents.toNat ((first :: rest).map RateCall.events), ?_⟩
  rw [applyAll_opens hopen, hrun]
  generalize (first :: rest).map RateCall.events = batches
  refine ⟨portions_from_batch _ _, ?_, ?_, ?_, ?_⟩
  · rw [portions_flatten, List.length_take]
    show _ = min l₁.maxEvents _
    omega
  · rw [portions_flatten]
    exact List.take_prefix _ _
  · show ((min l₁.maxEvents.toNat batches.flatten.length : Nat) : Int) +
      (batches.flatten.length - l₁.maxEvents.toNat : Nat) = _
    omega
  · show _ = List.zipWith (· ++ ·) _ (summariesOf _)
    rw [summariesAfter, if_pos (Nat.zero_le _)]

/-! ## A run -/

/-- An event whose message is its name. -/
def namedEvent (name : String) : EventData where
  eventType := .ofString "error"
  source := .ofString "kernel"
  message := .ofString name
  rawData := []

/-- Two events a window: of the second batch one passes, of the third none; the last call is in the next
    window. -/
theorem window_conserves_twice :
    ∃ kept, Conserved
      [[namedEvent "a"], [namedEvent "b", namedEvent "c", namedEvent "d"], [namedEvent "e"]] kept
      [[namedEvent "a"], [namedEvent "b", rateSummary 2], []]
      ⟨2, 30 * timeSecond, some 0, 2, 3, true⟩ := by
  have h : IsWindow (configureEventRateLimit 2 30 .initial) [⟨0, []⟩] ⟨0, [namedEvent "a"]⟩
      [⟨5, [namedEvent "b", namedEvent "c", namedEvent "d"]⟩, ⟨30 * timeSecond, [namedEvent "e"]⟩]
      [⟨30 * timeSecond + 1, [namedEvent "f"]⟩] := by
    refine ⟨⟨nofun, rfl⟩, by decide, by decide⟩
  exact window_conserves (by decide) (by decide) h

end Agent

end Dtsys
