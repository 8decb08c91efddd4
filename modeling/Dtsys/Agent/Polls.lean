/-
  DEDUPLICATION ACROSS POLLS (`shouldSkipEvent`, `eventLoop`, `runDiagnostics`).

  The table of `shouldSkipEvent` is global: the poll of `eventLoop` and every diagnostics command
  ask it about each entry they read.  It remembers that an event was SEEN; what should justify a skip
  is that it was SENT.  In between the event is in the hands of one poll, which may lose it.

  A label is one step of a goroutine, so a schedule of labels is an interleaving:

  * the poll: `begin`, `check` one candidate, `finish` or `fail` (the end of `CollectEvents`), `limit`
    (the limiter in `eventLoop`), `send` one event;
  * the `i`-th diagnostics command: `diagnose`, `diagCheck`, `diagFinish`, `diagFail`;
  * `elapse`: the clock.

  The log, newest entry first, holds what was passed to `SendEvent` and the hits in the table.
  `Justified` says that every hit is preceded by a report of the same event in the last five minutes.

  * `Accounted` — the invariant: an entry of the table stands for an event that was sent, or that the
    running poll still holds.
  * `step_accounted`, `hits_justified` — kept, and with it `Justified`, as long as only polls make
    entries, nothing is dropped, and no hit comes before the event has been sent.
-/
import Dtsys.Agent.Events
import Dtsys.Lib.Run

namespace Dtsys

namespace Agent

variable (cfg : EventFilterConfig) (lower : Char → Char)

/-! ## The state -/

/-- What a hit and a report are about: the source and the fingerprint. -/
def eventId (ev : EventData) : GoString × GoString := (ev.source, eventFingerprint lower ev.message)

/-- An entry of the log. -/
inductive Noted
  | sent (t : Int) (id : GoString × GoString)
  | hit (t : Int) (id : GoString × GoString)
  deriving DecidableEq

/-- A call of `CollectEvents`: what it still has to look at, and what it has kept. -/
structure Collecting where
  readings : Readings
  remaining : List EventData
  events : List EventData

/-- Where `eventLoop` stands; between two polls it has nothing to send. -/
inductive PollPhase
  | collecting (c : Collecting)
  | limiting (events : List EventData)
  | sending (events : List EventData)

/-- The agent, as far as its events are concerned. -/
structure Monitor where
  now : Int
  table : DedupTable
  limiter : EventRateLimiter
  poll : PollPhase
  diagnostics : Nat → Option Collecting
  log : List Noted

/-- The agent has started. -/
def Monitor.start (now : Int) (l : EventRateLimiter) : Monitor :=
  ⟨now, fun _ => .empty, l, .sending [], fun _ => none, []⟩

/-- The events the poll holds. -/
def PollPhase.held : PollPhase → List EventData
  | .collecting c => c.events
  | .limiting events => events
  | .sending events => events

/-! ## Steps -/

/-- The clock goes on, or the poll does its next step. -/
inductive PollLabel
  | elapse (n : Nat)
  | begin (r : Readings)
  | check
  | finish
  | fail
  | limit
  | send
  | diagnose (i : Nat) (r : Readings)
  | diagCheck (i : Nat)
  | diagFinish (i : Nat)
  | diagFail (i : Nat)

/-- `CollectEvents` is called. -/
def Collecting.begin (r : Readings) : Collecting := ⟨r, r.candidates lower, []⟩

/-- The next candidate, if there is one. -/
def Collecting.next (c : Collecting) : Option EventData := c.remaining.head?

/-- The verdict on the next candidate. -/
def verdictOn (s : Monitor) (ev : EventData) : Verdict :=
  (judgeEvent cfg lower s.now ev.source ev.message s.table).1

/-- The call after the verdict on its next candidate. -/
def Collecting.advance (c : Collecting) (ev : EventData) (verdict : Verdict) : Collecting where
  readings := c.readings
  remaining := c.remaining.tail
  events := if verdict = .passed then addEvent c.readings.platform c.events ev else c.events

/-- The table and the log after the verdict on a candidate. -/
def Monitor.judged (s : Monitor) (ev : EventData) : Monitor where
  now := s.now
  table := (judgeEvent cfg lower s.now ev.source ev.message s.table).2
  limiter := s.limiter
  poll := s.poll
  diagnostics := s.diagnostics
  log := if verdictOn cfg lower s ev = .duplicate then .hit s.now (eventId lower ev) :: s.log
    else s.log

/-- The events of a call that has looked at everything, before the limiter. -/
def Collecting.result (c : Collecting) : List EventData := c.events ++ c.readings.unfiltered

/-- One step. -/
def pollStep (s : Monitor) : PollLabel → Option Monitor
  | .elapse n => some { s with now := s.now + n }
  | .begin r =>
    match s.poll with
    | .sending [] => some { s with poll := .collecting (.begin lower r) }
    | _ => none
  | .check =>
    match s.poll with
    | .collecting c => c.next.map fun ev =>
      { s.judged cfg lower ev with poll := .collecting (c.advance ev (verdictOn cfg lower s ev)) }
    | _ => none
  | .finish =>
    match s.poll with
    | .collecting c =>
      if c.remaining.isEmpty then
        let (events, l) := c.readings.collected s.now c.result s.limiter
        some { s with poll := .limiting events, limiter := l }
      else none
    | _ => none
  | .fail =>
    -- `continue`: what was collected is gone.  Only the macOS collector fails half way.
    match s.poll with
    | .collecting c =>
      if c.readings.platform = .darwin ∨ c.events.isEmpty then some { s with poll := .sending [] }
      else none
    | _ => none
  | .limit =>
    match s.poll with
    | .limiting events =>
      let (events, l) := applyEventRateLimit s.now events s.limiter
      some { s with poll := .sending events, limiter := l }
    | _ => none
  | .send =>
    match s.poll with
    | .sending (ev :: events) =>
      some { s with poll := .sending events, log := .sent s.now (eventId lower ev) :: s.log }
    | _ => none
  | .diagnose i r =>
    match s.diagnostics i with
    | none => some { s with
        diagnostics := Function.update s.diagnostics i (some (.begin lower r)) }
    | some _ => none
  | .diagCheck i =>
    match s.diagnostics i with
    | some c => c.next.map fun ev =>
      { s.judged cfg lower ev with
        diagnostics := Function.update s.diagnostics i
          (some (c.advance ev (verdictOn cfg lower s ev))) }
    | none => none
  | .diagFinish i =>
    -- the first five events go into the report of the command, none to `SendEvent`
    match s.diagnostics i with
    | some c =>
      if c.remaining.isEmpty then
        let (_, l) := c.readings.collected s.now c.result s.limiter
        some { s with limiter := l, diagnostics := Function.update s.diagnostics i none }
      else none
    | none => none
  | .diagFail i =>
    match s.diagnostics i with
    | some _ => some { s with diagnostics := Function.update s.diagnostics i none }
    | none => none

/-! ## The property -/

/-- A report of `id` in the five minutes before `t`. -/
def reportedWithin (t : Int) (id : GoString × GoString) : Noted → Bool
  | .sent t' id' => decide (id' = id ∧ t' ≤ t ∧ t - t' ≤ dedupWindow)
  | .hit _ _ => false

/-- Every hit in the table comes after a report of the same event. -/
def Justified : List Noted → Bool
  | [] => true
  | .sent _ _ :: older => Justified older
  | .hit t id :: older => older.any (reportedWithin t id) && Justified older

/-! ## The condition -/

/-- A hit on `ev` would come before the poll has sent the event that made the entry. -/
def tooEarly (s : Monitor) (ev : EventData) : Bool :=
  decide (verdictOn cfg lower s ev = .duplicate) &&
    s.poll.held.any fun other => decide (eventId lower other = eventId lower ev)

/-- The limiter would let all of the events pass. -/
def fitsBudget (s : Monitor) (events : List EventData) : Bool :=
  decide (events.length ≤ (s.limiter.current s.now).allowed)

/-- No step loses an event that has an entry: a diagnostics command makes no entry, the limiter
    drops nothing of a poll, a poll that fails holds nothing, what the Linux collector takes for a
    repetition is one, and no hit comes too early. -/
def losesNothing (s : Monitor) : PollLabel → Bool
  | .check =>
    match s.poll with
    | .collecting c => c.next.all fun ev => !tooEarly cfg lower s ev &&
      c.events.all fun other =>
        decide (other.seenKey = ev.seenKey → eventId lower other = eventId lower ev)
    | _ => true
  | .finish =>
    match s.poll with
    | .collecting c => decide (c.readings.platform ≠ .windows) || fitsBudget s c.result
    | _ => true
  | .fail =>
    match s.poll with
    | .collecting c => c.events.isEmpty
    | _ => true
  | .limit =>
    match s.poll with
    | .limiting events => fitsBudget s events
    | _ => true
  | .diagCheck i =>
    match s.diagnostics i with
    | some c => c.next.all fun ev => !tooEarly cfg lower s ev &&
      (decide (cfg.dedupMaxEntries ≤ 0) || decide (verdictOn cfg lower s ev ≠ .passed))
    | none => true
  | _ => true

/-! ## The table, entry by entry -/

variable {cfg : EventFilterConfig} {lower : Char → Char}

/-- The table has the entry `ts` for the event `id`. -/
def DedupTable.Has (table : DedupTable) (id : GoString × GoString) (ts : Int) : Prop :=
  (table id.1).entries (id.1 ++ .char '|' :: id.2) = some ts

/-- The table holds no key that was not made from a fingerprint. -/
theorem entries_dropOldest {k : GoString} {ts : Int} : ∀ {excess : Nat} {d : SourceDeduper},
    (dropOldest excess d).entries k = some ts → d.entries k = some ts := by
  intro excess
  induction excess with
  | zero => exact id
  | succ excess ih =>
    intro d h
    rw [dropOldest] at h
    split at h
    · exact h
    · rename_i oldest order _
      have hrest : Function.update d.entries oldest none k = some ts := ih h
      by_cases hk : k = oldest
      · rw [hk, Function.update_self] at hrest
        cases hrest
      · rwa [Function.update_of_ne hk] at hrest

/-- What is left after the expiry is not too old. -/
theorem entries_dropExpired {now ts : Int} {entries : GoString → Option Int} {k : GoString}
    (h : dropExpired now entries k = some ts) : entries k = some ts ∧ now - ts ≤ dedupWindow := by
  obtain ⟨hk, hts⟩ := Option.filter_eq_some_iff.mp h
  exact ⟨hk, of_decide_eq_true hts⟩

/-- Two messages of one source with the same key have the same fingerprint. -/
theorem eventId_eq {ev : EventData} {id : GoString × GoString} (hsource : id.1 = ev.source)
    (hkey : id.1 ++ .char '|' :: id.2 = dedupKey lower ev.source ev.message) :
    id = eventId lower ev := by
  obtain ⟨source, print⟩ := id
  obtain rfl : source = ev.source := hsource
  have hcons : GoRune.char '|' :: print =
      GoRune.char '|' :: eventFingerprint lower ev.message := List.append_cancel_left hkey
  exact congrArg (Prod.mk ev.source) (List.tail_eq_of_cons_eq hcons)

/-- The entries of a source after one has been recorded. -/
theorem entries_record {d : SourceDeduper} {maxEntries now ts : Int} {key k : GoString}
    (h : (d.record maxEntries now key).entries k = some ts) :
    d.entries k = some ts ∨ (k = key ∧ ts = now) := by
  have hupdate : Function.update d.entries key (some now) k = some ts := entries_dropOldest h
  by_cases hk : k = key
  · rw [hk, Function.update_self] at hupdate
    exact Or.inr ⟨hk, (Option.some.inj hupdate).symm⟩
  · rw [Function.update_of_ne hk] at hupdate
    exact Or.inl hupdate

/-- Everything `shouldSkipEvent` can do. -/
theorem judgeEvent_cases (cfg : EventFilterConfig) (lower : Char → Char) (now : Int)
    (source message : GoString) (table : DedupTable) :
    judgeEvent cfg lower now source message table = (.excluded, table) ∨
    (cfg.dedupMaxEntries ≤ 0 ∧
      judgeEvent cfg lower now source message table = (.passed, table)) ∨
    (∃ ts, dropExpired now (table source).entries (dedupKey lower source message) = some ts ∧
      judgeEvent cfg lower now source message table = (.duplicate, Function.update table source
        { table source with entries := dropExpired now (table source).entries })) ∨
    (0 < cfg.dedupMaxEntries ∧
      judgeEvent cfg lower now source message table = (.passed, Function.update table source
        ({ table source with entries := dropExpired now (table source).entries }.record
          cfg.dedupMaxEntries now (dedupKey lower source message)))) := by
  rw [judgeEvent]
  by_cases hex : cfg.excludes message = true
  · rw [if_pos hex]
    exact Or.inl rfl
  by_cases hoff : cfg.dedupMaxEntries ≤ 0
  · rw [if_neg hex, if_pos hoff]
    exact Or.inr (Or.inl ⟨hoff, rfl⟩)
  rw [if_neg hex, if_neg hoff]
  dsimp only
  rcases hhit : dropExpired now (table source).entries (dedupKey lower source message) with _ | ts
  · exact Or.inr (Or.inr (Or.inr ⟨by omega, rfl⟩))
  · exact Or.inr (Or.inr (Or.inl ⟨ts, rfl, rfl⟩))

/-- The entries after the table of one source has been replaced. -/
theorem has_update {table : DedupTable} {source : GoString} {d : SourceDeduper}
    {id : GoString × GoString} {ts : Int} (h : DedupTable.Has (Function.update table source d) id ts) :
    table.Has id ts ∨ (id.1 = source ∧ d.entries (id.1 ++ .char '|' :: id.2) = some ts) := by
  unfold DedupTable.Has at h ⊢
  by_cases hsource : id.1 = source
  · rw [hsource, Function.update_self] at h
    rw [hsource]
    exact Or.inr ⟨rfl, h⟩
  · rw [Function.update_of_ne hsource] at h
    exact Or.inl h

/-- Only an event that passes makes an entry. -/
theorem judgeEvent_table {now : Int} {ev : EventData} {table : DedupTable}
    {id : GoString × GoString} {ts : Int}
    (h : (judgeEvent cfg lower now ev.source ev.message table).2.Has id ts) :
    table.Has id ts ∨ (id = eventId lower ev ∧ ts = now ∧ 0 < cfg.dedupMaxEntries ∧
      (judgeEvent cfg lower now ev.source ev.message table).1 = .passed) := by
  rcases judgeEvent_cases cfg lower now ev.source ev.message table with
    heq | ⟨-, heq⟩ | ⟨t, -, heq⟩ | ⟨hon, heq⟩ <;> rw [heq] at h ⊢
  · exact Or.inl h
  · exact Or.inl h
  · rcases has_update h with hold | ⟨hsource, hentry⟩
    · exact Or.inl hold
    · rw [DedupTable.Has, hsource]
      exact Or.inl (entries_dropExpired (hsource ▸ hentry)).1
  · rcases has_update h with hold | ⟨hsource, hentry⟩
    · exact Or.inl hold
    · rcases entries_record hentry with hold | ⟨hkey, hts⟩
      · rw [DedupTable.Has, hsource]
        exact Or.inl (entries_dropExpired (hsource ▸ hold)).1
      · exact Or.inr ⟨eventId_eq hsource hkey, hts, hon, rfl⟩

/-- A hit is on an entry of the last five minutes. -/
theorem judgeEvent_duplicate {now : Int} {ev : EventData} {table : DedupTable}
    (h : (judgeEvent cfg lower now ev.source ev.message table).1 = .duplicate) :
    ∃ ts, table.Has (eventId lower ev) ts ∧ now - ts ≤ dedupWindow := by
  rcases judgeEvent_cases cfg lower now ev.source ev.message table with
    heq | ⟨-, heq⟩ | ⟨t, hentry, -⟩ | ⟨-, heq⟩
  · rw [heq] at h
    cases h
  · rw [heq] at h
    cases h
  · exact ⟨t, entries_dropExpired hentry⟩
  · rw [heq] at h
    cases h

/-! ## The invariant -/

/-- `id` was sent at `ts` or later, or the poll holds an event of that name. -/
def Owed (lower : Char → Char) (s : Monitor) (id : GoString × GoString) (ts : Int) : Prop :=
  (∃ t, ts ≤ t ∧ t ≤ s.now ∧ .sent t id ∈ s.log) ∨ ∃ ev ∈ s.poll.held, eventId lower ev = id

/-- Every entry of the table stands for a report, made or still to be made. -/
structure Accounted (lower : Char → Char) (s : Monitor) : Prop where
  justified : Justified s.log = true
  entries : ∀ id ts, s.table.Has id ts → ts ≤ s.now ∧ Owed lower s id ts

/-- At the start nothing has to be accounted for. -/
theorem accounted_start (now : Int) (l : EventRateLimiter) : Accounted lower (.start now l) where
  justified := rfl
  entries := fun id ts h => by cases h

/-- What a step that makes no entry and no hit has to keep. -/
theorem Accounted.mono {s s' : Monitor} (h : Accounted lower s) (hnow : s.now ≤ s'.now)
    (htable : s'.table = s.table) (hjust : Justified s'.log = true)
    (hlog : ∀ n ∈ s.log, n ∈ s'.log)
    (hheld : ∀ ev ∈ s.poll.held, ev ∈ s'.poll.held ∨ .sent s'.now (eventId lower ev) ∈ s'.log) :
    Accounted lower s' where
  justified := hjust
  entries := fun id ts hhas => by
    obtain ⟨hle, howed⟩ := h.entries id ts (htable ▸ hhas)
    refine ⟨by omega, ?_⟩
    rcases howed with ⟨t, hts, ht, hmem⟩ | ⟨ev, hmem, rfl⟩
    · exact Or.inl ⟨t, hts, by omega, hlog _ hmem⟩
    · rcases hheld ev hmem with hmem | hmem
      · exact Or.inr ⟨ev, hmem, rfl⟩
      · exact Or.inl ⟨s'.now, by omega, Int.le_refl _, hmem⟩

/-- A hit that does not come too early is justified. -/
theorem justified_judged {s : Monitor} (h : Accounted lower s) {ev : EventData}
    (hearly : tooEarly cfg lower s ev = false) : Justified (s.judged cfg lower ev).log = true := by
  rw [Monitor.judged]
  dsimp only
  split
  · rename_i hdup
    obtain ⟨ts, hhas, hwithin⟩ := judgeEvent_duplicate hdup
    rcases (h.entries _ _ hhas).2 with ⟨t, hts, ht, hmem⟩ | ⟨other, hmem, hid⟩
    · have hany : s.log.any (reportedWithin s.now (eventId lower ev)) = true :=
        List.any_eq_true.mpr ⟨_, hmem, decide_eq_true ⟨rfl, ht, by omega⟩⟩
      show (_ && _) = true
      rw [hany, h.justified]
      rfl
    · have hheld : (s.poll.held.any fun other =>
          decide (eventId lower other = eventId lower ev)) = true :=
        List.any_eq_true.mpr ⟨other, hmem, decide_eq_true hid⟩
      rw [tooEarly, hheld, decide_eq_true hdup] at hearly
      cases hearly
  · exact h.justified

/-- Events are added behind those that are there. -/
theorem mem_addEvent_of_mem {p : Platform} {events : List EventData} {ev x : EventData}
    (h : x ∈ events) : x ∈ addEvent p events ev := by
  rw [addEvent]
  split
  · exact h
  · exact List.mem_append_left _ h

/-- So they are by every step of a collector. -/
theorem mem_advance {c : Collecting} {ev x : EventData} (verdict : Verdict) (h : x ∈ c.events) :
    x ∈ (c.advance ev verdict).events := by
  rw [Collecting.advance]
  dsimp only
  split
  · exact mem_addEvent_of_mem h
  · exact h

/-- After `addEvent` the call holds an event of that name. -/
theorem held_addEvent {p : Platform} {events : List EventData} {ev : EventData}
    (hseen : ∀ other ∈ events, other.seenKey = ev.seenKey →
      eventId lower other = eventId lower ev) :
    ∃ x ∈ addEvent p events ev, eventId lower x = eventId lower ev := by
  rw [addEvent]
  split
  · rename_i hkey
    obtain ⟨-, other, hmem, hsame⟩ := hkey
    exact ⟨other, hmem, hseen other hmem hsame⟩
  · exact ⟨ev, List.mem_append_right _ List.mem_cons_self, rfl⟩

/-- A check, by the poll or by a command, once it is known what is held after it. -/
theorem Accounted.judged {s : Monitor} (h : Accounted lower s) {ev : EventData} {poll : PollPhase}
    {diagnostics : Nat → Option Collecting} (hearly : tooEarly cfg lower s ev = false)
    (hheld : ∀ x ∈ s.poll.held, x ∈ poll.held)
    (hpassed : verdictOn cfg lower s ev = .passed → 0 < cfg.dedupMaxEntries →
      ∃ x ∈ poll.held, eventId lower x = eventId lower ev) :
    Accounted lower { s.judged cfg lower ev with poll := poll, diagnostics := diagnostics } where
  justified := justified_judged h hearly
  entries := fun id ts hhas => by
    rcases judgeEvent_table hhas with hold | ⟨rfl, rfl, hon, hverdict⟩
    · obtain ⟨hle, howed⟩ := h.entries id ts hold
      refine ⟨hle, ?_⟩
      rcases howed with ⟨t, hts, ht, hmem⟩ | ⟨x, hmem, hid⟩
      · refine Or.inl ⟨t, hts, ht, ?_⟩
        show _ ∈ (if _ then _ else _)
        split
        · exact List.mem_cons_of_mem _ hmem
        · exact hmem
      · exact Or.inr ⟨x, hheld x hmem, hid⟩
    · exact ⟨Int.le_refl _, Or.inr (hpassed hverdict hon)⟩

/-! ## The limiter keeps what fits -/

/-- What a collector holds is sent, as long as the budget allows it. -/
theorem mem_collected {r : Readings} {now : Int} {events : List EventData} {l : EventRateLimiter}
    (hfits : r.platform = .windows → events.length ≤ (l.current now).allowed) {ev : EventData}
    (h : ev ∈ events) : ev ∈ (r.collected now events l).1 := by
  cases r with
  | linux _ => exact h
  | darwin _ => exact h
  | windows _ _ => exact mem_applyEventRateLimit (hfits rfl) h

/-! ## Steps and runs -/

/-- Nothing happens to the table and to the log. -/
theorem Accounted.of_same {s s' : Monitor} (h : Accounted lower s) (hnow : s.now ≤ s'.now)
    (htable : s'.table = s.table) (hlog : s'.log = s.log)
    (hheld : ∀ ev ∈ s.poll.held, ev ∈ s'.poll.held) : Accounted lower s' :=
  h.mono hnow htable (hlog ▸ h.justified) (fun _ hn => hlog ▸ hn) fun ev hev => Or.inl (hheld ev hev)

/-- A check by the poll. -/
theorem step_check {s s' : Monitor} (h : Accounted lower s)
    (hC : losesNothing cfg lower s .check = true) (hs : pollStep cfg lower s .check = some s') :
    Accounted lower s' := by
  rcases hpoll : s.poll with c | events | events <;>
    simp only [pollStep, losesNothing, hpoll] at hs hC
  · obtain ⟨ev, hnext, rfl⟩ := Option.map_eq_some_iff.mp hs
    rw [hnext, Option.all_some, Bool.and_eq_true, Bool.not_eq_true', List.all_eq_true] at hC
    refine h.judged hC.1 (fun x hx => ?_) fun hverdict _ => ?_
    · rw [hpoll] at hx
      exact mem_advance _ hx
    · rw [hverdict]
      exact held_addEvent fun other hmem => of_decide_eq_true (hC.2 other hmem)
  · cases hs
  · cases hs

/-- A check by a diagnostics command: it makes no entry. -/
theorem step_diagCheck {s s' : Monitor} (h : Accounted lower s) {i : Nat}
    (hC : losesNothing cfg lower s (.diagCheck i) = true)
    (hs : pollStep cfg lower s (.diagCheck i) = some s') : Accounted lower s' := by
  rcases hdiag : s.diagnostics i with _ | c <;>
    simp only [pollStep, losesNothing, hdiag] at hs hC
  · cases hs
  · obtain ⟨ev, hnext, rfl⟩ := Option.map_eq_some_iff.mp hs
    rw [hnext, Option.all_some, Bool.and_eq_true, Bool.not_eq_true', Bool.or_eq_true,
      decide_eq_true_eq, decide_eq_true_eq] at hC
    refine h.judged hC.1 (fun x hx => hx) fun hverdict hon => ?_
    rcases hC.2 with hoff | hnot
    · omega
    · exact absurd hverdict hnot

/-- **A step** that loses nothing. -/
theorem step_accounted {s s' : Monitor} {l : PollLabel} (h : Accounted lower s)
    (hC : losesNothing cfg lower s l = true) (hs : pollStep cfg lower s l = some s') :
    Accounted lower s' := by
  cases l with
  | elapse n =>
    obtain rfl := Option.some.inj hs
    have hnow : s.now ≤ s.now + n := by omega
    exact h.of_same hnow rfl rfl fun _ hev => hev
  | begin r =>
    rcases hpoll : s.poll with c | events | events <;> simp only [pollStep, hpoll] at hs
    · cases hs
    · cases hs
    · cases events with
      | nil =>
        obtain rfl := Option.some.inj hs
        refine h.of_same (Int.le_refl _) rfl rfl fun ev hev => ?_
        rw [hpoll] at hev
        cases hev
      | cons first rest => cases hs
  | check => exact step_check h hC hs
  | finish =>
    rcases hpoll : s.poll with c | events | events <;>
      simp only [pollStep, losesNothing, hpoll] at hs hC
    · split at hs
      · obtain rfl := Option.some.inj hs
        refine h.of_same (Int.le_refl _) rfl rfl fun ev hev => ?_
        rw [hpoll] at hev
        refine mem_collected (fun hwin => ?_) (List.mem_append_left _ hev)
        have hfits : fitsBudget s c.result = true := by simpa [hwin] using hC
        exact of_decide_eq_true hfits
      · cases hs
    · cases hs
    · cases hs
  | fail =>
    rcases hpoll : s.poll with c | events | events <;>
      simp only [pollStep, losesNothing, hpoll] at hs hC
    · split at hs
      · obtain rfl := Option.some.inj hs
        refine h.of_same (Int.le_refl _) rfl rfl fun ev hev => ?_
        rw [hpoll, show (PollPhase.collecting c).held = c.events from rfl,
          List.isEmpty_iff.mp hC] at hev
        cases hev
      · cases hs
    · cases hs
    · cases hs
  | limit =>
    rcases hpoll : s.poll with c | events | events <;>
      simp only [pollStep, losesNothing, hpoll] at hs hC
    · cases hs
    · obtain rfl := Option.some.inj hs
      refine h.of_same (Int.le_refl _) rfl rfl fun ev hev => ?_
      rw [hpoll] at hev
      exact mem_applyEventRateLimit (of_decide_eq_true hC) hev
    · cases hs
  | send =>
    rcases hpoll : s.poll with c | events | events <;> simp only [pollStep, hpoll] at hs
    · cases hs
    · cases hs
    · cases events with
      | nil => cases hs
      | cons first rest =>
        obtain rfl := Option.some.inj hs
        -- the event leaves the poll and enters the log
        refine h.mono (Int.le_refl _) rfl h.justified (fun _ hn => List.mem_cons_of_mem _ hn)
          fun ev hev => ?_
        rw [hpoll] at hev
        rcases List.mem_cons.mp hev with rfl | hev
        · exact Or.inr List.mem_cons_self
        · exact Or.inl hev
  | diagnose i r =>
    rcases hdiag : s.diagnostics i with _ | c <;> simp only [pollStep, hdiag] at hs
    · obtain rfl := Option.some.inj hs
      exact h.of_same (Int.le_refl _) rfl rfl fun _ hev => hev
    · cases hs
  | diagCheck i => exact step_diagCheck h hC hs
  | diagFinish i =>
    rcases hdiag : s.diagnostics i with _ | c <;> simp only [pollStep, hdiag] at hs
    · cases hs
    · split at hs
      · obtain rfl := Option.some.inj hs
        exact h.of_same (Int.le_refl _) rfl rfl fun _ hev => hev
      · cases hs
  | diagFail i =>
    rcases hdiag : s.diagnostics i with _ | c <;> simp only [pollStep, hdiag] at hs
    · cases hs
    · obtain rfl := Option.some.inj hs
      exact h.of_same (Int.le_refl _) rfl rfl fun _ hev => hev

/-- **Deduplication hides nothing unreported**, in every run of polls, diagnostics commands and
    windows that loses nothing on the way from the table to `SendEvent`.

    The table has an entry as soon as a line has been judged, and the report comes later, if at all.  Every entry
    stands for a report, made or still to be made by the poll under way (`Owed`), and inside the condition the poll
    does make it. -/
theorem hits_justified {now : Int} {l : EventRateLimiter} {ls : List PollLabel} {s : Monitor}
    (hg : Run.Guarded (pollStep cfg lower) (fun s l => losesNothing cfg lower s l = true)
      (.start now l) ls)
    (hs : Run.exec (pollStep cfg lower) (.start now l) ls = some s) : Justified s.log = true :=
  (Run.exec_inv (fun _ _ _ hC hstep h => step_accounted h hC hstep) hg hs
    (accounted_start now l)).justified

/-- Undisturbed, the checks of a poll are the loop `filterEvents`. -/
theorem exec_checks : ∀ {remaining events : List EventData} {s : Monitor} {r : Readings} {i : Nat},
    s.poll = .collecting ⟨r, remaining, events⟩ →
      ∃ t, Run.exec (pollStep cfg lower) s (List.replicate remaining.length .check) = some t ∧
        t.poll = .collecting ⟨r, [],
          (filterEvents r.platform cfg lower (fun _ => s.now) i remaining s.table events).1⟩ ∧
        t.table =
          (filterEvents r.platform cfg lower (fun _ => s.now) i remaining s.table events).2 := by
  intro remaining
  induction remaining with
  | nil => exact fun hpoll => ⟨_, rfl, hpoll, rfl⟩
  | cons ev rest ih =>
    intro events s r i hpoll
    have hstep : pollStep cfg lower s .check = some { s.judged cfg lower ev with
        poll := .collecting (Collecting.advance ⟨r, ev :: rest, events⟩ ev
          (verdictOn cfg lower s ev)) } := by
      simp only [pollStep, hpoll]
      rfl
    have hkept : (if verdictOn cfg lower s ev = .passed then addEvent r.platform events ev
        else events) =
        if (shouldSkipEvent cfg lower s.now ev.source ev.message s.table).1 then events
        else addEvent r.platform events ev := by
      show _ = if decide (verdictOn cfg lower s ev ≠ .passed) = true then _ else _
      by_cases hpassed : verdictOn cfg lower s ev = .passed
      · rw [if_pos hpassed, if_neg (by simp [hpassed])]
      · rw [if_neg hpassed, if_pos (by simp [hpassed])]
    obtain ⟨t, hrun, hend, htable⟩ := @ih
      (if verdictOn cfg lower s ev = .passed then addEvent r.platform events ev else events)
      { s.judged cfg lower ev with poll := .collecting (Collecting.advance
        ⟨r, ev :: rest, events⟩ ev (verdictOn cfg lower s ev)) } r (i + 1) rfl
    refine ⟨t, Run.exec_cons_eq.mpr ⟨_, hstep, hrun⟩, ?_, ?_⟩
    · rw [hend, hkept]
      rfl
    · rw [htable, hkept]
      rfl

/-! ## Two runs -/

/-- A line of the journal. -/
def journalLine (text : String) : EventData where
  eventType := .ofString "error"
  source := .ofString "sshd"
  message := .ofString text
  rawData := [("collector", .str "journalctl")]

/-- What both polls, and the command, find. -/
def failedLogin : Readings := .linux [journalLine "sshd: authentication failure"]

/-- The default filter. -/
def defaultFilter : EventFilterConfig := ⟨50, []⟩

/-- Two polls two minutes apart: the second one skips what the first one has sent. -/
def twoPolls : List PollLabel :=
  [.begin failedLogin, .check, .finish, .limit, .send, .elapse (120 * 1000000000),
    .begin failedLogin, .check]

/-- A diagnostics command, and a poll two minutes later. -/
def pollAfterDiagnostics : List PollLabel :=
  [.diagnose 0 failedLogin, .diagCheck 0, .diagFinish 0, .elapse (120 * 1000000000),
    .begin failedLogin, .check]

/-- The log after a run of an agent with the defaults, that has just been started. -/
def logAfter (ls : List PollLabel) : Option (List Noted) :=
  (Run.exec (pollStep defaultFilter Char.toLower) (.start 0 .initial) ls).map Monitor.log

/-- The same event in two polls: the second is skipped for the first. -/
theorem hits_justified_twice :
    Run.Guarded (pollStep defaultFilter Char.toLower)
        (fun s l => losesNothing defaultFilter Char.toLower s l = true) (.start 0 .initial)
        twoPolls ∧
      ∃ s, Run.exec (pollStep defaultFilter Char.toLower) (.start 0 .initial) twoPolls = some s ∧
        Justified s.log = true := by
  have hg : Run.Guarded (pollStep defaultFilter Char.toLower)
      (fun s l => losesNothing defaultFilter Char.toLower s l = true) (.start 0 .initial)
      twoPolls := by decide +kernel
  obtain ⟨s, hs⟩ := Option.isSome_iff_exists.mp (show Option.isSome (Run.exec
    (pollStep defaultFilter Char.toLower) (.start 0 .initial) twoPolls) = true by decide +kernel)
  exact ⟨hg, s, hs, hits_justified hg hs⟩

/-- The poll hits what only the command has seen: no report of the failed login was ever sent. -/
theorem diagnostics_hides_event :
    logAfter pollAfterDiagnostics =
        some [.hit (120 * 1000000000) (eventId Char.toLower
          (journalLine "sshd: authentication failure"))] ∧
      (logAfter pollAfterDiagnostics).map Justified = some false := by
  constructor
  · decide +kernel
  · decide +kernel

end Agent

end Dtsys
