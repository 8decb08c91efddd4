/-
  THE LAST CONFIGURATION WINS? (`readLoop`, `onConfig`, `Apply` and `pushDuration`, the loops.)

  Every `config_update` is handled in a goroutine of its own.  `Apply` changes memory and file under
  a mutex; the new durations are pushed after it has been released, one interval after the other,
  into channels with room for one.  A push is two steps: empty the channel, then send if there is
  room.

  A label is one step of a goroutine, so a schedule of labels is an interleaving:

  * `deliver` — `readLoop` reads a message and starts its handler; the `k`-th handler is that of the
    `k`-th message that decodes.
  * `lock` — the critical section of a handler, with the outcome of `Save`; `recv` and `push` — the
    two steps of its next `pushDuration`.
  * `start` — a loop makes its ticker; `drain` — it takes a duration from its channel.

  Seen from ONE interval (`Slot`), the handlers that set it stand in a row, and each goes through
  three stages: waiting, pushing, done.

  * `Moves` — what a step does to a slot, if no handler overtakes another one.
  * `moves_consistent` — then the row keeps its order, and what the last handler past the lock has
    set is in memory, and on its way to the ticker.
  * `step_moves`, `last_config_wins` — the steps of the agent move each slot; a quiet agent has the
    last value everywhere.
-/
import Dtsys.Agent.Intervals

namespace Dtsys

namespace Agent

/-! ## Handlers -/

/-- The intervals in the order of `Apply`. -/
def Interval.list : List Interval := [.telemetry, .software, .event]

theorem Interval.mem_list (i : Interval) : i ∈ Interval.list := by
  cases i <;> decide

/-- What a call of `Apply` still has to push: each interval once, and only the duration of a
    positive number of the update. -/
structure Pushes (u : ConfigUpdateData) where
  todo : List (Interval × Int)
  once : (todo.map Prod.fst).Nodup
  wanted : ∀ p ∈ todo, 0 < u.get p.1 ∧ p.2 = durationOf p.1 (u.get p.1)

/-- The intervals still to be pushed, the next one first. -/
def Pushes.intervals {u : ConfigUpdateData} (p : Pushes u) : List Interval := p.todo.map Prod.fst

/-- After the first push. -/
def Pushes.rest {u : ConfigUpdateData} (p : Pushes u) : Pushes u where
  todo := p.todo.tail
  once := by
    rw [List.map_tail]
    exact p.once.tail
  wanted := fun q hq => p.wanted q (List.mem_of_mem_tail hq)

/-- The end of `Apply`: the durations are computed from what is in memory now. -/
def pushesOf (c : CollectConfig) (u : ConfigUpdateData) : Pushes u where
  todo := (Interval.list.filter fun i => 0 < u.get i).map fun i => (i, (c.apply u).interval i)
  once := by
    rw [List.map_map]
    show (List.map id _).Nodup
    rw [List.map_id]
    exact List.Pairwise.filter _ (by decide)
  wanted := fun p hp => by
    obtain ⟨i, hi, rfl⟩ := List.mem_map.mp hp
    have hpos : 0 < u.get i := of_decide_eq_true (List.mem_filter.mp hi).2
    refine ⟨hpos, ?_⟩
    show durationOf i ((c.apply u).get i) = _
    rw [get_apply, if_pos hpos]

/-- Where a handler stands. -/
inductive ApplyPhase (u : ConfigUpdateData)
  /-- it has been started, and waits for the mutex -/
  | waiting
  /-- it has released the mutex; `emptied`: the first step of the next push is done -/
  | pushing (p : Pushes u) (emptied : Bool)
  /-- `Save` has failed: nothing is pushed -/
  | failed

/-- A call of `onConfig`. -/
structure Handler where
  update : ConfigUpdateData
  phase : ApplyPhase update

/-- It has not got the mutex. -/
def Handler.waits (h : Handler) : Bool :=
  match h.phase with
  | .waiting => true
  | _ => false

/-- `Save` has failed, and `Apply` has returned its error. -/
def Handler.hasFailed (h : Handler) : Bool :=
  match h.phase with
  | .failed => true
  | _ => false

/-- What it still has to push. -/
def Handler.intervals (h : Handler) : List Interval :=
  match h.phase with
  | .pushing p _ => p.intervals
  | _ => []

/-- `Apply` has returned `nil`. -/
def Handler.returned (h : Handler) : Bool := !h.waits && !h.hasFailed && h.intervals.isEmpty

/-! ## Steps -/

/-- The agent, as far as its intervals are concerned: a channel holds at most one duration, and a
    loop that has not been started has no ticker. -/
structure Updating where
  config : Configured
  channel : Interval → Option Int
  period : Interval → Option Int
  handlers : List Handler

/-- The agent has loaded its file. -/
def Updating.loaded (c : CollectConfig) : Updating := ⟨.loaded c, fun _ => none, fun _ => none, []⟩

/-- The steps of the goroutines; `k` is the handler of the `k`-th message. -/
inductive UpdateLabel
  | deliver (data : Json)
  | lock (k : Nat) (saved : Bool)
  | recv (k : Nat)
  | push (k : Nat)
  | start (i : Interval)
  | drain (i : Interval)

/-- One step.  `NewTicker` and `Reset` panic on a duration that is not positive, so nothing follows
    them then. -/
def updateStep (s : Updating) : UpdateLabel → Option Updating
  | .deliver data =>
    match decodeConfigUpdate data with
    | some u => some { s with handlers := s.handlers ++ [⟨u, .waiting⟩] }
    | none => some s
  | .lock k saved =>
    match s.handlers[k]? with
    | some ⟨u, .waiting⟩ =>
      some { s with
        config := ⟨s.config.memory.apply u, if saved then some (s.config.memory.apply u) else none⟩
        handlers := s.handlers.set k
          ⟨u, if saved then .pushing (pushesOf s.config.memory u) false else .failed⟩ }
    | _ => none
  | .recv k =>
    match s.handlers[k]? with
    | some ⟨u, .pushing p false⟩ =>
      p.todo.head?.map fun next =>
        { s with channel := Function.update s.channel next.1 none
                 handlers := s.handlers.set k ⟨u, .pushing p true⟩ }
    | _ => none
  | .push k =>
    match s.handlers[k]? with
    | some ⟨u, .pushing p true⟩ =>
      p.todo.head?.map fun next =>
        -- a channel that is full again keeps what it has
        { s with channel := Function.update s.channel next.1 ((s.channel next.1).or (some next.2))
                 handlers := s.handlers.set k ⟨u, .pushing p.rest false⟩ }
    | _ => none
  | .start i =>
    if s.period i = none ∧ 0 < s.config.memory.interval i then
      some { s with period := Function.update s.period i (some (s.config.memory.interval i)) }
    else none
  | .drain i =>
    match s.channel i with
    | some d =>
      if s.period i ≠ none ∧ 0 < d then
        some { s with channel := Function.update s.channel i none
                      period := Function.update s.period i (some d) }
      else none
    | none => none

/-! ## The claim, and when it holds -/

/-- The update that `readLoop` hands over. -/
def UpdateLabel.update : UpdateLabel → Option ConfigUpdateData
  | .deliver data => decodeConfigUpdate data
  | _ => none

/-- The updates `readLoop` has handed over, in their order. -/
def delivered (ls : List UpdateLabel) : List ConfigUpdateData := ls.filterMap UpdateLabel.update

/-- The last update that sets an interval. -/
def lastSetting (i : Interval) (us : List ConfigUpdateData) : Option ConfigUpdateData :=
  (us.filter fun u => 0 < u.get i).getLast?

/-- Memory, file and ticker have the value of the last update that sets an interval. -/
def LastWins (us : List ConfigUpdateData) (s : Updating) : Prop :=
  ∀ i u, lastSetting i us = some u →
    s.config.memory.get i = u.get i ∧
    (∃ c, s.config.file = some c ∧ c.get i = u.get i) ∧
    s.period i = some (u.get i * i.unit)

/-- All handlers have returned without an error, and the loops have drained the channels. -/
structure Quiet (s : Updating) : Prop where
  returned : ∀ h ∈ s.handlers, h.returned = true
  drained : ∀ i, s.channel i = none

/-- The two updates set a common interval. -/
def shares (u v : ConfigUpdateData) : Bool :=
  Interval.list.any fun i => 0 < u.get i && 0 < v.get i

/-- The durations of the update fit into 64 bits. -/
def fits (u : ConfigUpdateData) : Bool :=
  Interval.list.all fun i => decide (0 < u.get i → u.get i * i.unit < 9223372036854775808)

/-- The `k`-th handler is not about to push an interval that an earlier one still has to push. -/
def pushInOrder (s : Updating) (k : Nat) : Bool :=
  s.handlers[k]?.all fun h => h.intervals.head?.all fun i =>
    (s.handlers.take k).all fun g => !decide (i ∈ g.intervals)

/-- No handler overtakes an earlier one that sets the same interval: not at the mutex, and not with
    the push. -/
def inOrder (s : Updating) : UpdateLabel → Bool
  | .deliver data => (decodeConfigUpdate data).all fits
  | .lock k _ => s.handlers[k]?.all fun h =>
      (s.handlers.take k).all fun g => !(g.waits && shares g.update h.update)
  | .recv k => pushInOrder s k
  | .push k => pushInOrder s k
  | .start _ => true
  | .drain _ => true

/-! ## One interval -/

/-- The stages a handler goes through for an interval it sets. -/
inductive Stage
  | waiting
  | pending (emptied : Bool)
  | done
  deriving DecidableEq

/-- How far a stage is. -/
def Stage.rank : Stage → Nat
  | .waiting => 0
  | .pending _ => 1
  | .done => 2

/-- A handler, seen from an interval it sets. -/
structure Seen where
  value : Int
  stage : Stage
  deriving DecidableEq

/-- It has passed the mutex. -/
def Seen.locked (a : Seen) : Bool := a.stage ≠ .waiting

/-- The agent, seen from one interval. -/
structure Slot where
  row : List Seen
  memory : Int
  channel : Option Int
  period : Option Int

/-- What the agent's steps do to a slot, if no handler of the row overtakes another one. -/
inductive Moves (i : Interval) : Slot → Slot → Prop
  | same (t : Slot) : Moves i t t
  | deliver (t : Slot) (v : Int) : Moves i t { t with row := t.row ++ [⟨v, .waiting⟩] }
  | lock (before after : List Seen) (v m : Int) (c p : Option Int)
      (h : ∀ b ∈ before, b.stage ≠ .waiting) :
      Moves i ⟨before ++ ⟨v, .waiting⟩ :: after, m, c, p⟩
        ⟨before ++ ⟨v, .pending false⟩ :: after, v, c, p⟩
  | recv (before after : List Seen) (v m : Int) (c p : Option Int)
      (h : ∀ b ∈ before, ∀ e, b.stage ≠ .pending e) :
      Moves i ⟨before ++ ⟨v, .pending false⟩ :: after, m, c, p⟩
        ⟨before ++ ⟨v, .pending true⟩ :: after, m, none, p⟩
  | push (before after : List Seen) (v m : Int) (c p : Option Int)
      (h : ∀ b ∈ before, ∀ e, b.stage ≠ .pending e) :
      Moves i ⟨before ++ ⟨v, .pending true⟩ :: after, m, c, p⟩
        ⟨before ++ ⟨v, .done⟩ :: after, m, c.or (some (durationOf i v)), p⟩
  | start (row : List Seen) (m : Int) (c : Option Int) :
      Moves i ⟨row, m, c, none⟩ ⟨row, m, c, some (durationOf i m)⟩
  | drain (row : List Seen) (m d : Int) (p : Option Int) :
      Moves i ⟨row, m, some d, p⟩ ⟨row, m, none, some d⟩

/-- An earlier handler is as far as a later one, and done once that one has emptied the channel. -/
def Ahead (a b : Seen) : Prop :=
  b.stage.rank ≤ a.stage.rank ∧ (b.stage = .pending true → a.stage = .done)

/-- The last handler that has passed the mutex. -/
def Slot.latest (t : Slot) : Option Seen := (t.row.filter Seen.locked).getLast?

/-- The ticker has the duration, or will take it from the channel. -/
def Slot.Holds (t : Slot) (d : Int) : Prop :=
  t.channel = some d ∨ (t.channel = none ∧ t.period = some d)

/-- The invariant of a slot. -/
structure Consistent (i : Interval) (t : Slot) : Prop where
  ordered : t.row.Pairwise Ahead
  memory : ∀ a, t.latest = some a → t.memory = a.value
  holds : ∀ a, t.latest = some a → a.stage = .done → t.Holds (durationOf i a.value)
  emptied : ∀ a ∈ t.row, a.stage = .pending true → t.channel = none

/-- The last one past the mutex, if `a` is past it. -/
theorem latest_of_locked {before after : List Seen} {a : Seen} (ha : a.locked = true) (m : Int)
    (c p : Option Int) :
    (Slot.mk (before ++ a :: after) m c p).latest =
      some (((after.filter Seen.locked).getLast?).getD a) := by
  show ((before ++ a :: after).filter Seen.locked).getLast? = _
  rw [List.filter_append, List.filter_cons_of_pos ha, List.getLast?_append, List.getLast?_cons]
  rfl

/-- A handler that moves to another stage keeps the order of the row. -/
theorem ordered_replace {before after : List Seen} {a a' : Seen}
    (h : (before ++ a :: after).Pairwise Ahead) (hbefore : ∀ b ∈ before, Ahead b a')
    (hafter : ∀ b ∈ after, Ahead a' b) : (before ++ a' :: after).Pairwise Ahead := by
  obtain ⟨hb, hcons, hba⟩ := List.pairwise_append.mp h
  refine List.pairwise_append.mpr ⟨hb, List.pairwise_cons.mpr ⟨hafter, ?_⟩, ?_⟩
  · exact (List.pairwise_cons.mp hcons).2
  · intro b hmem x hx
    rcases List.mem_cons.mp hx with rfl | hx
    · exact hbefore b hmem
    · exact hba b hmem x (List.mem_cons_of_mem _ hx)

/-- What the order says about the handlers before and after `a`. -/
theorem ahead_of_ordered {before after : List Seen} {a : Seen}
    (h : (before ++ a :: after).Pairwise Ahead) :
    (∀ b ∈ before, Ahead b a) ∧ ∀ b ∈ after, Ahead a b := by
  obtain ⟨-, hcons, hba⟩ := List.pairwise_append.mp h
  exact ⟨fun b hb => hba b hb a List.mem_cons_self, (List.pairwise_cons.mp hcons).1⟩

theorem stage_of_rank_zero {st : Stage} (h : st.rank ≤ 0) : st = .waiting := by
  cases st with
  | waiting => rfl
  | pending e => exact absurd h (by decide : ¬ (1 ≤ 0))
  | done => exact absurd h (by decide : ¬ (2 ≤ 0))

/-- Ahead of one that is pending, and not pending itself. -/
theorem done_of_ahead {a b : Seen} {e : Bool} (h : Ahead a b) (hb : b.stage = .pending e)
    (ha : ∀ e, a.stage ≠ .pending e) : a.stage = .done := by
  have hrank : 1 ≤ a.stage.rank := by
    have := h.1
    rwa [hb] at this
  rcases hstage : a.stage with _ | e' | _
  · rw [hstage] at hrank
    exact absurd hrank (by decide : ¬ (1 ≤ 0))
  · exact absurd hstage (ha e')
  · rfl

/-- Behind one that is pending, nothing is done. -/
theorem not_done_of_ahead {a b : Seen} {e : Bool} (h : Ahead a b) (ha : a.stage = .pending e) :
    b.stage ≠ .done := by
  intro hb
  have hrank := h.1
  rw [ha, hb] at hrank
  exact absurd hrank (by decide : ¬ (2 ≤ 1))

/-- The latest of the handlers that have passed the mutex is one of them. -/
theorem mem_latest_after {after : List Seen} {b : Seen}
    (h : (after.filter Seen.locked).getLast? = some b) : b ∈ after :=
  (List.mem_filter.mp (List.mem_of_getLast? h)).1

/-- What is not waiting is ahead of what has just passed the mutex. -/
theorem ahead_pending {b : Seen} (v : Int) (h : b.stage ≠ .waiting) :
    Ahead b ⟨v, .pending false⟩ := by
  refine ⟨?_, fun he => by cases he⟩
  rcases hstage : b.stage with _ | e | _
  · exact absurd hstage h
  · exact Nat.le_refl 1
  · exact Nat.le_succ 1

/-- The mutex. -/
theorem consistent_lock {i : Interval} {before after : List Seen} {v m : Int} {c p : Option Int}
    (h : Consistent i ⟨before ++ ⟨v, .waiting⟩ :: after, m, c, p⟩)
    (hbefore : ∀ b ∈ before, b.stage ≠ .waiting) :
    Consistent i ⟨before ++ ⟨v, .pending false⟩ :: after, v, c, p⟩ := by
  obtain ⟨-, hafter⟩ := ahead_of_ordered h.ordered
  have hwaiting : ∀ b ∈ after, b.stage = .waiting := fun b hb =>
    stage_of_rank_zero (hafter b hb).1
  -- nobody after it has passed, so it is the latest one
  have hnone : after.filter Seen.locked = [] := by
    refine List.filter_eq_nil_iff.mpr fun b hb => ?_
    show ¬ decide _ = true
    rw [hwaiting b hb]
    decide
  have hlatest : (Slot.mk (before ++ ⟨v, .pending false⟩ :: after) v c p).latest =
      some ⟨v, .pending false⟩ := by
    rw [latest_of_locked rfl, hnone]
    rfl
  constructor
  · refine ordered_replace h.ordered (fun b hb => ahead_pending v (hbefore b hb)) fun b hb => ?_
    refine ⟨?_, fun he => ?_⟩
    · rw [hwaiting b hb]
      exact Nat.zero_le 1
    · rw [hwaiting b hb] at he
      cases he
  · intro a ha
    obtain rfl := Option.some.inj (hlatest.symm.trans ha)
    rfl
  · intro a ha hdone
    obtain rfl := Option.some.inj (hlatest.symm.trans ha)
    cases hdone
  · intro a ha hstage
    rcases List.mem_append.mp ha with ha | ha
    · exact h.emptied a (List.mem_append_left _ ha) hstage
    · rcases List.mem_cons.mp ha with rfl | ha
      · cases hstage
      · exact h.emptied a (List.mem_append_right _ (List.mem_cons_of_mem _ ha)) hstage

/-- The latest one before and after a handler past the mutex moves on: that handler, or a later one
    that is not done. -/
theorem latest_replace {i : Interval} {before after : List Seen} {v m : Int} {c p : Option Int}
    {e : Bool} (h : Consistent i ⟨before ++ ⟨v, .pending e⟩ :: after, m, c, p⟩) {st : Stage}
    (hst : st ≠ .waiting) (c' p' : Option Int) {a : Seen}
    (ha : (Slot.mk (before ++ ⟨v, st⟩ :: after) m c' p').latest = some a) :
    m = a.value ∧ (a = ⟨v, st⟩ ∨ a.stage ≠ .done) := by
  rw [latest_of_locked (a := ⟨v, st⟩) (decide_eq_true hst)] at ha
  have hold := @latest_of_locked before after ⟨v, .pending e⟩ rfl m c p
  rcases hlast : (after.filter Seen.locked).getLast? with _ | b
  · rw [hlast] at ha hold
    obtain rfl : ⟨v, st⟩ = a := Option.some.inj ha
    have hmemory : m = v := h.memory ⟨v, .pending e⟩ hold
    exact ⟨hmemory, Or.inl rfl⟩
  · rw [hlast] at ha hold
    obtain rfl : b = a := Option.some.inj ha
    refine ⟨h.memory _ hold, Or.inr ?_⟩
    exact not_done_of_ahead ((ahead_of_ordered h.ordered).2 b (mem_latest_after hlast)) rfl

/-- The first step of a push. -/
theorem consistent_recv {i : Interval} {before after : List Seen} {v m : Int} {c p : Option Int}
    (h : Consistent i ⟨before ++ ⟨v, .pending false⟩ :: after, m, c, p⟩)
    (hbefore : ∀ b ∈ before, ∀ e, b.stage ≠ .pending e) :
    Consistent i ⟨before ++ ⟨v, .pending true⟩ :: after, m, none, p⟩ := by
  obtain ⟨hahead, hafter⟩ := ahead_of_ordered h.ordered
  constructor
  · refine ordered_replace h.ordered (fun b hb => ⟨(hahead b hb).1, fun _ => ?_⟩) fun b hb =>
      ⟨(hafter b hb).1, fun hstage => ?_⟩
    · exact done_of_ahead (hahead b hb) rfl (hbefore b hb)
    · have hdone := (hafter b hb).2 hstage
      cases hdone
  · exact fun a ha => (latest_replace h (by decide) none p ha).1
  · intro a ha hdone
    rcases (latest_replace h (by decide) none p ha).2 with rfl | hnot
    · cases hdone
    · exact absurd hdone hnot
  · exact fun _ _ _ => rfl

/-- The second step of a push. -/
theorem consistent_push {i : Interval} {before after : List Seen} {v m : Int} {c p : Option Int}
    (h : Consistent i ⟨before ++ ⟨v, .pending true⟩ :: after, m, c, p⟩)
    (hbefore : ∀ b ∈ before, ∀ e, b.stage ≠ .pending e) :
    Consistent i ⟨before ++ ⟨v, .done⟩ :: after, m, c.or (some (durationOf i v)), p⟩ := by
  obtain ⟨hahead, hafter⟩ := ahead_of_ordered h.ordered
  have hdone : ∀ b ∈ before, b.stage = .done := fun b hb =>
    done_of_ahead (hahead b hb) rfl (hbefore b hb)
  -- the channel is empty, so what is sent arrives
  obtain rfl : c = none :=
    h.emptied ⟨v, .pending true⟩ (List.mem_append_right _ List.mem_cons_self) rfl
  constructor
  · refine ordered_replace h.ordered (fun b hb => ?_) fun b hb => ⟨?_, fun _ => rfl⟩
    · refine ⟨?_, fun hstage => by cases hstage⟩
      rw [hdone b hb]
    · exact Nat.le_trans (hafter b hb).1 (Nat.le_succ 1)
  · exact fun a ha => (latest_replace h (by decide) _ p ha).1
  · intro a ha hstage
    rcases (latest_replace h (by decide) _ p ha).2 with rfl | hnot
    · exact Or.inl rfl
    · exact absurd hstage hnot
  · intro a ha hstage
    rcases List.mem_append.mp ha with ha | ha
    · rw [hdone a ha] at hstage
      cases hstage
    · rcases List.mem_cons.mp ha with rfl | ha
      · cases hstage
      · cases (hafter a ha).2 hstage

/-- In its order, a row keeps the latest value in memory and on its way to the ticker. -/
theorem moves_consistent {i : Interval} {t t' : Slot} (h : Consistent i t) (hm : Moves i t t') :
    Consistent i t' := by
  cases hm with
  | same => exact h
  | deliver _ v =>
    have hlatest : (Slot.mk (t.row ++ [⟨v, .waiting⟩]) t.memory t.channel t.period).latest =
        t.latest := by
      show ((t.row ++ _).filter Seen.locked).getLast? = _
      rw [List.filter_append, show [Seen.mk v .waiting].filter Seen.locked = [] from rfl,
        List.append_nil]
      rfl
    constructor
    · refine List.pairwise_append.mpr ⟨h.ordered, List.pairwise_singleton _ _, fun a _ b hb => ?_⟩
      obtain rfl := List.mem_singleton.mp hb
      exact ⟨Nat.zero_le _, fun hstage => by cases hstage⟩
    · exact fun a ha => h.memory a (hlatest.symm.trans ha)
    · exact fun a ha => h.holds a (hlatest.symm.trans ha)
    · intro a ha hstage
      rcases List.mem_append.mp ha with ha | ha
      · exact h.emptied a ha hstage
      · obtain rfl := List.mem_singleton.mp ha
        cases hstage
  | lock before after v m c p hbefore => exact consistent_lock h hbefore
  | recv before after v m c p hbefore => exact consistent_recv h hbefore
  | push before after v m c p hbefore => exact consistent_push h hbefore
  | start row m c =>
    refine ⟨h.ordered, h.memory, fun a ha hdone => ?_, h.emptied⟩
    rcases h.holds a ha hdone with hfull | ⟨-, hperiod⟩
    · exact Or.inl hfull
    · cases hperiod
  | drain row m d p =>
    refine ⟨h.ordered, h.memory, fun a ha hdone => ?_, fun _ _ _ => rfl⟩
    rcases h.holds a ha hdone with hfull | ⟨hempty, -⟩
    · exact Or.inr ⟨rfl, hfull⟩
    · cases hempty

/-! ## The agent, seen from one interval -/

/-- Where a handler is with an interval that it sets. -/
def Handler.stage (i : Interval) (h : Handler) : Stage :=
  match h.phase with
  | .waiting => .waiting
  | .pushing p emptied =>
    if i ∈ p.intervals then .pending (emptied && p.intervals.head? == some i) else .done
  | .failed => .done

/-- The place of a handler in the row, if it sets the interval. -/
def Handler.seen (i : Interval) (h : Handler) : Option Seen :=
  if 0 < h.update.get i then some ⟨h.update.get i, h.stage i⟩ else none

/-- The agent, seen from interval `i`. -/
def Updating.slot (s : Updating) (i : Interval) : Slot where
  row := s.handlers.filterMap (Handler.seen i)
  memory := s.config.memory.get i
  channel := s.channel i
  period := s.period i

theorem Slot.ext_fields {t t' : Slot} (hrow : t.row = t'.row) (hmemory : t.memory = t'.memory)
    (hchannel : t.channel = t'.channel) (hperiod : t.period = t'.period) : t = t' := by
  obtain ⟨r, m, c, p⟩ := t
  obtain ⟨r', m', c', p'⟩ := t'
  obtain rfl : r = r' := hrow
  obtain rfl : m = m' := hmemory
  obtain rfl : c = c' := hchannel
  obtain rfl : p = p' := hperiod
  rfl

/-- A handler that waits for an interval waits. -/
theorem stage_eq_waiting {i : Interval} {h : Handler} (hstage : h.stage i = .waiting) :
    h.waits = true := by
  obtain ⟨u, phase⟩ := h
  cases phase with
  | waiting => rfl
  | pushing p emptied =>
    have hif : (if i ∈ p.intervals then Stage.pending (emptied && p.intervals.head? == some i)
      else .done) = .waiting := hstage
    split at hif <;> cases hif
  | failed => cases hstage

/-- One that is pending has the interval to push. -/
theorem stage_eq_pending {i : Interval} {h : Handler} {e : Bool}
    (hstage : h.stage i = .pending e) : i ∈ h.intervals := by
  obtain ⟨u, phase⟩ := h
  cases phase with
  | waiting => cases hstage
  | pushing p emptied =>
    have hif : (if i ∈ p.intervals then Stage.pending (emptied && p.intervals.head? == some i)
      else .done) = .pending e := hstage
    split at hif
    · assumption
    · cases hif
  | failed => cases hstage

/-- A place in the row is that of a handler which sets the interval. -/
theorem mem_row {i : Interval} {hs : List Handler} {b : Seen}
    (hb : b ∈ hs.filterMap (Handler.seen i)) :
    ∃ g ∈ hs, 0 < g.update.get i ∧ b.stage = g.stage i := by
  obtain ⟨g, hg, hseen⟩ := List.mem_filterMap.mp hb
  rw [Handler.seen] at hseen
  split at hseen
  · rename_i hpos
    obtain rfl := Option.some.inj hseen
    exact ⟨g, hg, hpos, rfl⟩
  · cases hseen

theorem seen_of_not_sets {i : Interval} {h : Handler} (hpos : ¬ 0 < h.update.get i) :
    h.seen i = none := if_neg hpos

/-- The row around a handler that sets the interval. -/
theorem row_of_sets {i : Interval} {before after : List Handler} {h : Handler}
    (hpos : 0 < h.update.get i) :
    (before ++ h :: after).filterMap (Handler.seen i) =
      before.filterMap (Handler.seen i) ++ ⟨h.update.get i, h.stage i⟩ ::
        after.filterMap (Handler.seen i) := by
  have hseen : h.seen i = some ⟨h.update.get i, h.stage i⟩ := if_pos hpos
  rw [List.filterMap_append, List.filterMap_cons_some hseen]

/-- The row around a handler that sets the interval. -/
theorem slot_of_sets {s : Updating} {i : Interval} {before after : List Handler} {h : Handler}
    (hsplit : s.handlers = before ++ h :: after) (hpos : 0 < h.update.get i) :
    s.slot i = ⟨before.filterMap (Handler.seen i) ++ ⟨h.update.get i, h.stage i⟩ ::
      after.filterMap (Handler.seen i), s.config.memory.get i, s.channel i, s.period i⟩ := by
  rw [Updating.slot, hsplit, row_of_sets hpos]

/-- The row does not change if the handler that moves does not set the interval, or stays in its
    stage. -/
theorem row_same {i : Interval} {hs before after : List Handler} {h h' : Handler}
    (hsplit : hs = before ++ h :: after) (hseen : h'.seen i = h.seen i) :
    (before ++ h' :: after).filterMap (Handler.seen i) = hs.filterMap (Handler.seen i) := by
  rw [hsplit, List.filterMap_append, List.filterMap_append]
  simp only [List.filterMap_cons, hseen]

/-- The `k`-th handler between the earlier and the later ones. -/
theorem split_at {hs : List Handler} {k : Nat} {h : Handler} (hk : hs[k]? = some h) :
    ∃ after, hs = hs.take k ++ h :: after ∧ ∀ x, hs.set k x = hs.take k ++ x :: after := by
  obtain ⟨hlt, rfl⟩ := List.getElem?_eq_some_iff.mp hk
  refine ⟨hs.drop (k + 1), ?_, fun x => ?_⟩
  · rw [List.getElem_cons_drop, List.take_append_drop]
  · rw [List.set_eq_take_append_cons_drop, if_pos hlt]

/-! ## What a step does -/

/-- What `lock` does: a handler that waits takes the mutex, and saves. -/
theorem lock_cases {s s' : Updating} {k : Nat} {saved : Bool}
    (hs : updateStep s (.lock k saved) = some s') :
    ∃ u after, s.handlers[k]? = some ⟨u, .waiting⟩ ∧
      s.handlers = s.handlers.take k ++ ⟨u, .waiting⟩ :: after ∧
      s' = { s with
        config := ⟨s.config.memory.apply u, if saved then some (s.config.memory.apply u) else none⟩
        handlers := s.handlers.take k ++ ⟨u, if saved then
          .pushing (pushesOf s.config.memory u) false else .failed⟩ :: after } := by
  simp only [updateStep] at hs
  split at hs
  · rename_i u hk
    obtain ⟨after, hsplit, hset⟩ := split_at hk
    refine ⟨u, after, hk, hsplit, ?_⟩
    rw [← Option.some.inj hs, hset]
  · cases hs

/-- What a handler that is pushing does next, and where it stands among the others. -/
theorem pushing_cases {s s' : Updating} {k : Nat} {h : Handler}
    {todo : List (Interval × Int)} {f : Interval × Int → Updating} (hk : s.handlers[k]? = some h)
    (hs : todo.head?.map f = some s') :
    ∃ next rest after, s.handlers = s.handlers.take k ++ h :: after ∧
      (∀ x, s.handlers.set k x = s.handlers.take k ++ x :: after) ∧
      todo = next :: rest ∧ s' = f next := by
  obtain ⟨next, hnext, rfl⟩ := Option.map_eq_some_iff.mp hs
  obtain ⟨rest, hrest⟩ := List.head?_eq_some_iff.mp hnext
  obtain ⟨after, hsplit, hset⟩ := split_at hk
  exact ⟨next, rest, after, hsplit, hset, hrest, rfl⟩

/-- What `recv` does: the channel of the next interval is emptied. -/
theorem recv_cases {s s' : Updating} {k : Nat} (hs : updateStep s (.recv k) = some s') :
    ∃ u p next todo after, s.handlers[k]? = some ⟨u, .pushing p false⟩ ∧
      s.handlers = s.handlers.take k ++ ⟨u, .pushing p false⟩ :: after ∧
      p.todo = next :: todo ∧
      s' = { s with
        channel := Function.update s.channel next.1 none
        handlers := s.handlers.take k ++ ⟨u, .pushing p true⟩ :: after } := by
  simp only [updateStep] at hs
  split at hs
  · rename_i u p hk
    obtain ⟨next, todo, after, hsplit, hset, htodo, rfl⟩ := pushing_cases hk hs
    refine ⟨u, p, next, todo, after, hk, hsplit, htodo, ?_⟩
    rw [hset]
  · cases hs

/-- What `push` does: the duration goes into the channel, if there is room. -/
theorem push_cases {s s' : Updating} {k : Nat} (hs : updateStep s (.push k) = some s') :
    ∃ u p next todo after, s.handlers[k]? = some ⟨u, .pushing p true⟩ ∧
      s.handlers = s.handlers.take k ++ ⟨u, .pushing p true⟩ :: after ∧
      p.todo = next :: todo ∧
      s' = { s with
        channel := Function.update s.channel next.1 ((s.channel next.1).or (some next.2))
        handlers := s.handlers.take k ++ ⟨u, .pushing p.rest false⟩ :: after } := by
  simp only [updateStep] at hs
  split at hs
  · rename_i u p hk
    obtain ⟨next, todo, after, hsplit, hset, htodo, rfl⟩ := pushing_cases hk hs
    refine ⟨u, p, next, todo, after, hk, hsplit, htodo, ?_⟩
    rw [hset]
  · cases hs

/-- What `start` does: the loop makes its ticker of what is in memory. -/
theorem start_cases {s s' : Updating} {i : Interval} (hs : updateStep s (.start i) = some s') :
    s.period i = none ∧
      s' = { s with period :=
        Function.update s.period i (some (s.config.memory.interval i)) } := by
  simp only [updateStep] at hs
  split at hs
  · rename_i h
    exact ⟨h.1, (Option.some.inj hs).symm⟩
  · cases hs

/-- What `drain` does: the ticker goes by the duration of the channel. -/
theorem drain_cases {s s' : Updating} {i : Interval} (hs : updateStep s (.drain i) = some s') :
    ∃ d, s.channel i = some d ∧
      s' = { s with channel := Function.update s.channel i none
                    period := Function.update s.period i (some d) } := by
  simp only [updateStep] at hs
  split at hs
  · rename_i d hd
    split at hs
    · exact ⟨d, hd, (Option.some.inj hs).symm⟩
    · cases hs
  · cases hs

/-- What `deliver` does: a message that decodes has a handler. -/
theorem deliver_cases {s s' : Updating} {data : Json}
    (hs : updateStep s (.deliver data) = some s') :
    s' = { s with handlers :=
      s.handlers ++ (decodeConfigUpdate data).toList.map fun u => ⟨u, .waiting⟩ } := by
  simp only [updateStep] at hs
  rcases hdecode : decodeConfigUpdate data with _ | u
  · rw [hdecode] at hs
    rw [← Option.some.inj hs, Option.toList_none, List.map_nil, List.append_nil]
  · rw [hdecode] at hs
    exact (Option.some.inj hs).symm

/-- No handler has met an error. -/
def NoFailure (s : Updating) : Prop := ∀ h ∈ s.handlers, h.hasFailed = false

/-- A step that replaces the handler of `u` keeps the updates, and the failures of the others. -/
theorem noFailure_replace {before after : List Handler} {h h' : Handler}
    (hok : h.hasFailed = false) (hno : ∀ g ∈ before ++ h' :: after, g.hasFailed = false) :
    ∀ g ∈ before ++ h :: after, g.hasFailed = false := by
  intro g hg
  rcases List.mem_append.mp hg with hg | hg
  · exact hno g (List.mem_append_left _ hg)
  · rcases List.mem_cons.mp hg with rfl | hg
    · exact hok
    · exact hno g (List.mem_append_right _ (List.mem_cons_of_mem _ hg))

/-- A failure stays. -/
theorem step_noFailure {s s' : Updating} {l : UpdateLabel} (hs : updateStep s l = some s')
    (hno : NoFailure s') : NoFailure s := by
  unfold NoFailure at *
  cases l with
  | deliver data =>
    rw [deliver_cases hs] at hno
    exact fun h hmem => hno h (List.mem_append_left _ hmem)
  | lock k saved =>
    obtain ⟨u, after, -, hsplit, rfl⟩ := lock_cases hs
    rw [hsplit]
    exact noFailure_replace rfl hno
  | recv k =>
    obtain ⟨u, p, next, todo, after, -, hsplit, -, rfl⟩ := recv_cases hs
    rw [hsplit]
    exact noFailure_replace rfl hno
  | push k =>
    obtain ⟨u, p, next, todo, after, -, hsplit, -, rfl⟩ := push_cases hs
    rw [hsplit]
    exact noFailure_replace rfl hno
  | start i =>
    obtain ⟨-, rfl⟩ := start_cases hs
    exact hno
  | drain i =>
    obtain ⟨d, -, rfl⟩ := drain_cases hs
    exact hno

/-- A handler goes on; the updates are the same. -/
theorem updates_replace {hs before after : List Handler} {h h' : Handler}
    (hsplit : hs = before ++ h :: after) (hupdate : h'.update = h.update) :
    (before ++ h' :: after).map Handler.update = hs.map Handler.update := by
  rw [hsplit, List.map_append, List.map_append, List.map_cons, List.map_cons, hupdate]

/-- The handlers are those of the messages that have been delivered. -/
theorem step_updates {s s' : Updating} {l : UpdateLabel} (hs : updateStep s l = some s') :
    s'.handlers.map Handler.update = s.handlers.map Handler.update ++ l.update.toList := by
  cases l with
  | deliver data =>
    rw [deliver_cases hs, List.map_append, List.map_map]
    exact congrArg _ (List.map_id _)
  | lock k saved =>
    obtain ⟨u, after, -, hsplit, rfl⟩ := lock_cases hs
    refine (updates_replace hsplit ?_).trans (List.append_nil _).symm
    rfl
  | recv k =>
    obtain ⟨u, p, next, todo, after, -, hsplit, -, rfl⟩ := recv_cases hs
    refine (updates_replace hsplit ?_).trans (List.append_nil _).symm
    rfl
  | push k =>
    obtain ⟨u, p, next, todo, after, -, hsplit, -, rfl⟩ := push_cases hs
    refine (updates_replace hsplit ?_).trans (List.append_nil _).symm
    rfl
  | start i =>
    obtain ⟨-, rfl⟩ := start_cases hs
    exact (List.append_nil _).symm
  | drain i =>
    obtain ⟨d, -, rfl⟩ := drain_cases hs
    exact (List.append_nil _).symm

/-- The handlers are those of the messages that decode, in their order. -/
theorem exec_updates : ∀ {ls : List UpdateLabel} {s t : Updating},
    Run.exec updateStep s ls = some t →
      t.handlers.map Handler.update = s.handlers.map Handler.update ++ delivered ls := by
  intro ls
  induction ls with
  | nil =>
    intro s t ht
    obtain rfl : s = t := by simpa using ht
    exact (List.append_nil _).symm
  | cons l ls ih =>
    intro s t ht
    obtain ⟨s', hs, hrest⟩ := Run.exec_cons_eq.mp ht
    have hcons : delivered (l :: ls) = l.update.toList ++ delivered ls := by
      rcases hl : l.update with _ | u
      · exact List.filterMap_cons_none hl
      · exact List.filterMap_cons_some hl
    rw [ih hrest, step_updates hs, List.append_assoc, hcons]

/-! ## Each step moves each slot -/

/-- All intervals with a positive number are to be pushed. -/
theorem mem_intervals_pushesOf (c : CollectConfig) (u : ConfigUpdateData) (i : Interval) :
    i ∈ (pushesOf c u).intervals ↔ 0 < u.get i := by
  show i ∈ ((Interval.list.filter fun i => decide (0 < u.get i)).map _).map Prod.fst ↔ _
  rw [List.map_map]
  show i ∈ List.map id _ ↔ _
  rw [List.map_id, List.mem_filter, decide_eq_true_eq]
  exact and_iff_right (Interval.mem_list i)

/-- Two updates with an interval in common. -/
theorem shares_of_both {u v : ConfigUpdateData} (i : Interval) (hu : 0 < u.get i)
    (hv : 0 < v.get i) : shares u v = true :=
  List.any_eq_true.mpr ⟨i, Interval.mem_list i,
    Bool.and_eq_true _ _ ▸ ⟨decide_eq_true hu, decide_eq_true hv⟩⟩

/-- The handlers before one that is about to push are not pending. -/
theorem not_pending_of_pushInOrder {s : Updating} {k : Nat} {h : Handler} {i : Interval}
    (hC : pushInOrder s k = true) (hk : s.handlers[k]? = some h)
    (hnext : h.intervals.head? = some i) :
    ∀ b ∈ (s.handlers.take k).filterMap (Handler.seen i), ∀ e, b.stage ≠ .pending e := by
  intro b hb e hstage
  obtain ⟨g, hg, -, hbg⟩ := mem_row hb
  rw [pushInOrder, hk, Option.all_some, hnext, Option.all_some, List.all_eq_true] at hC
  have hnot := of_decide_eq_false ((Bool.not_eq_true' _).mp (hC g hg))
  exact hnot (stage_eq_pending (hbg ▸ hstage))

theorem Moves.of_same {i : Interval} {t t' : Slot} (h : t' = t) : Moves i t t' := by
  rw [h]
  exact Moves.same t

/-- The critical section. -/
theorem lock_moves {s s' : Updating} {k : Nat} {saved : Bool}
    (hs : updateStep s (.lock k saved) = some s') (hC : inOrder s (.lock k saved) = true)
    (hno : NoFailure s') (i : Interval) : Moves i (s.slot i) (s'.slot i) := by
  obtain ⟨u, after, hk, hsplit, rfl⟩ := lock_cases hs
  obtain rfl : saved = true := by
    have hlast := hno _ (List.mem_append_right _ List.mem_cons_self)
    cases saved with
    | true => rfl
    | false => exact hlast.symm
  have hmemory : (s.config.memory.apply u).get i = _ := get_apply _ _ _
  by_cases hpos : 0 < u.get i
  · have hbefore : ∀ b ∈ (s.handlers.take k).filterMap (Handler.seen i), b.stage ≠ .waiting := by
      intro b hb hstage
      obtain ⟨g, hg, hgpos, hbg⟩ := mem_row hb
      simp only [inOrder, hk, Option.all_some, List.all_eq_true] at hC
      have hnot := hC g hg
      rw [stage_eq_waiting (hbg ▸ hstage), shares_of_both i hgpos hpos] at hnot
      cases hnot
    have hstage : Handler.stage i ⟨u, .pushing (pushesOf s.config.memory u) false⟩ =
        .pending false := if_pos ((mem_intervals_pushesOf _ _ _).mpr hpos)
    rw [slot_of_sets hsplit hpos, slot_of_sets rfl hpos]
    dsimp only
    rw [hmemory, if_pos hpos]
    show Moves i _ ⟨_ ++ ⟨_, Handler.stage i ⟨u, .pushing _ false⟩⟩ :: _, _, _, _⟩
    rw [hstage]
    exact Moves.lock _ _ _ _ _ _ hbefore
  · refine Moves.of_same (Slot.ext_fields (row_same hsplit ?_) ?_ rfl rfl)
    · rw [seen_of_not_sets (h := ⟨u, .waiting⟩) hpos]
      exact seen_of_not_sets hpos
    · exact hmemory.trans (if_neg hpos)

/-- What the handler of a push looks like from the interval it pushes, and from another one. -/
theorem head_intervals {u : ConfigUpdateData} {p : Pushes u} {next : Interval × Int}
    {todo : List (Interval × Int)} (htodo : p.todo = next :: todo) :
    p.intervals = next.1 :: p.rest.intervals := by
  show p.todo.map Prod.fst = next.1 :: p.todo.tail.map Prod.fst
  rw [htodo]
  rfl

theorem not_mem_rest {u : ConfigUpdateData} {p : Pushes u} {next : Interval × Int}
    {todo : List (Interval × Int)} (htodo : p.todo = next :: todo) :
    next.1 ∉ p.rest.intervals := by
  have honce : (next.1 :: p.rest.intervals).Nodup := head_intervals htodo ▸ p.once
  exact (List.nodup_cons.mp honce).1

/-- The handler is at the interval that it pushes next. -/
theorem stage_of_next {u : ConfigUpdateData} {p : Pushes u} {next : Interval × Int}
    {todo : List (Interval × Int)} (htodo : p.todo = next :: todo) (e : Bool) :
    Handler.stage next.1 ⟨u, .pushing p e⟩ = .pending e := by
  show (if next.1 ∈ p.intervals then Stage.pending (e && p.intervals.head? == some next.1)
    else .done) = _
  rw [head_intervals htodo, if_pos List.mem_cons_self, List.head?_cons, beq_self_eq_true,
    Bool.and_true]

/-- A push of another interval does not show. -/
theorem stage_of_other {u : ConfigUpdateData} {p : Pushes u} {next : Interval × Int}
    {todo : List (Interval × Int)} (htodo : p.todo = next :: todo) {i : Interval}
    (hi : i ≠ next.1) (e : Bool) :
    Handler.stage i ⟨u, .pushing p e⟩ = Handler.stage i ⟨u, .pushing p.rest false⟩ := by
  show (if i ∈ p.intervals then Stage.pending (e && p.intervals.head? == some i) else .done) =
    if i ∈ p.rest.intervals then Stage.pending (false && _) else .done
  have hhead : (some next.1 == some i) = false :=
    beq_false_of_ne fun h => hi (Option.some.inj h).symm
  rw [head_intervals htodo, List.head?_cons, hhead, Bool.and_false, Bool.false_and]
  by_cases hmem : i ∈ p.rest.intervals
  · rw [if_pos hmem, if_pos (List.mem_cons_of_mem _ hmem)]
  · rw [if_neg hmem, if_neg fun h => hmem ((List.mem_cons.mp h).resolve_left hi)]

theorem seen_of_stage {i : Interval} {u : ConfigUpdateData} {ph ph' : ApplyPhase u}
    (h : Handler.stage i ⟨u, ph'⟩ = Handler.stage i ⟨u, ph⟩) :
    Handler.seen i ⟨u, ph'⟩ = Handler.seen i ⟨u, ph⟩ := by
  unfold Handler.seen
  rw [h]

theorem head?_intervals {u : ConfigUpdateData} {p : Pushes u} {next : Interval × Int}
    {todo : List (Interval × Int)} (htodo : p.todo = next :: todo) (e : Bool) :
    (Handler.mk u (.pushing p e)).intervals.head? = some next.1 := by
  show p.intervals.head? = _
  rw [head_intervals htodo]
  rfl

/-- `recv` of the handler whose turn it is. -/
theorem recv_moves {s s' : Updating} {k : Nat} (hs : updateStep s (.recv k) = some s')
    (hC : inOrder s (.recv k) = true) (i : Interval) : Moves i (s.slot i) (s'.slot i) := by
  obtain ⟨u, p, next, todo, after, hk, hsplit, htodo, rfl⟩ := recv_cases hs
  by_cases hi : i = next.1
  · subst hi
    have hpos : 0 < u.get next.1 := (p.wanted next (htodo ▸ List.mem_cons_self)).1
    have hbefore := not_pending_of_pushInOrder hC hk (head?_intervals htodo false)
    rw [slot_of_sets hsplit hpos, slot_of_sets rfl hpos]
    dsimp only
    rw [stage_of_next htodo, stage_of_next htodo, Function.update_self]
    exact Moves.recv _ _ _ _ _ _ hbefore
  · refine Moves.of_same (Slot.ext_fields (row_same hsplit (seen_of_stage ?_)) rfl ?_ rfl)
    · rw [stage_of_other htodo hi, stage_of_other htodo hi]
    · exact Function.update_of_ne hi _ _

/-- `push` of the handler whose turn it is. -/
theorem push_moves {s s' : Updating} {k : Nat} (hs : updateStep s (.push k) = some s')
    (hC : inOrder s (.push k) = true) (i : Interval) : Moves i (s.slot i) (s'.slot i) := by
  obtain ⟨u, p, next, todo, after, hk, hsplit, htodo, rfl⟩ := push_cases hs
  by_cases hi : i = next.1
  · subst hi
    obtain ⟨hpos, hduration⟩ := p.wanted next (htodo ▸ List.mem_cons_self)
    have hbefore := not_pending_of_pushInOrder hC hk (head?_intervals htodo true)
    have hdone : Handler.stage next.1 ⟨u, .pushing p.rest false⟩ = .done :=
      if_neg (not_mem_rest htodo)
    rw [slot_of_sets hsplit hpos, slot_of_sets rfl hpos]
    dsimp only
    rw [stage_of_next htodo, hdone, Function.update_self, hduration]
    exact Moves.push _ _ _ _ _ _ hbefore
  · refine Moves.of_same (Slot.ext_fields (row_same hsplit (seen_of_stage ?_)) rfl ?_ rfl)
    · exact (stage_of_other htodo hi true).symm
    · exact Function.update_of_ne hi _ _

/-- **Each step moves each slot**, if no handler overtakes another one and none fails. -/
theorem step_moves {s s' : Updating} {l : UpdateLabel} (hs : updateStep s l = some s')
    (hC : inOrder s l = true) (hno : NoFailure s') (i : Interval) :
    Moves i (s.slot i) (s'.slot i) := by
  cases l with
  -- A message that sets the interval queues a handler for it; any other leaves the slot alone.
  | deliver data =>
    rw [deliver_cases hs]
    rcases hdecode : decodeConfigUpdate data with _ | u
    · exact Moves.of_same (Slot.ext_fields (congrArg (List.filterMap (Handler.seen i))
        (List.append_nil s.handlers)) rfl rfl rfl)
    · have hrow : (s.handlers ++ [Handler.mk u .waiting]).filterMap (Handler.seen i) =
          s.handlers.filterMap (Handler.seen i) ++ [Handler.mk u .waiting].filterMap
            (Handler.seen i) := List.filterMap_append
      by_cases hpos : 0 < u.get i
      · have hseen : Handler.seen i ⟨u, .waiting⟩ = some ⟨u.get i, .waiting⟩ := if_pos hpos
        rw [List.filterMap_cons_some hseen, List.filterMap_nil] at hrow
        have hslot : (Updating.slot { s with handlers := s.handlers ++ [⟨u, .waiting⟩] } i) =
            { s.slot i with row := (s.slot i).row ++ [⟨u.get i, .waiting⟩] } :=
          Slot.ext_fields hrow rfl rfl rfl
        show Moves i _ (Updating.slot { s with handlers := s.handlers ++ [⟨u, .waiting⟩] } i)
        rw [hslot]
        exact Moves.deliver _ _
      · rw [List.filterMap_cons_none (seen_of_not_sets (h := ⟨u, .waiting⟩) hpos),
          List.filterMap_nil, List.append_nil] at hrow
        exact Moves.of_same (Slot.ext_fields hrow rfl rfl rfl)
  | lock k saved => exact lock_moves hs hC hno i
  | recv k => exact recv_moves hs hC i
  | push k => exact push_moves hs hC i
  -- The tickers of the other intervals are not touched.
  | start j =>
    obtain ⟨hperiod, rfl⟩ := start_cases hs
    by_cases hi : i = j
    · subst hi
      unfold Updating.slot
      dsimp only
      rw [hperiod, Function.update_self]
      exact Moves.start _ _ _
    · exact Moves.of_same (Slot.ext_fields rfl rfl rfl (Function.update_of_ne hi _ _))
  | drain j =>
    obtain ⟨d, hd, rfl⟩ := drain_cases hs
    by_cases hi : i = j
    · subst hi
      unfold Updating.slot
      dsimp only
      rw [hd, Function.update_self, Function.update_self]
      exact Moves.drain _ _ _ _
    · exact Moves.of_same (Slot.ext_fields rfl rfl (Function.update_of_ne hi _ _)
        (Function.update_of_ne hi _ _))

/-! ## Runs -/

/-- What holds as long as no handler has failed. -/
structure Tracks (s : Updating) : Prop where
  slots : ∀ i, Consistent i (s.slot i)
  file : s.config.file = some s.config.memory

theorem tracks_loaded (c : CollectConfig) : Tracks (.loaded c) where
  slots := fun i =>
    { ordered := List.Pairwise.nil
      memory := fun a ha => by cases ha
      holds := fun a ha => by cases ha
      emptied := fun a ha => by cases ha }
  file := rfl

/-- Where no `Save` has failed, the file is as the memory. -/
theorem step_file {s s' : Updating} {l : UpdateLabel} (hs : updateStep s l = some s')
    (hno : NoFailure s') (h : s.config.file = some s.config.memory) :
    s'.config.file = some s'.config.memory := by
  cases l with
  | deliver data =>
    rw [deliver_cases hs]
    exact h
  | lock k saved =>
    obtain ⟨u, after, -, -, rfl⟩ := lock_cases hs
    have hlast := hno _ (List.mem_append_right _ List.mem_cons_self)
    cases saved with
    | true => rfl
    | false => cases hlast
  | recv k =>
    obtain ⟨u, p, next, todo, after, -, -, -, rfl⟩ := recv_cases hs
    exact h
  | push k =>
    obtain ⟨u, p, next, todo, after, -, -, -, rfl⟩ := push_cases hs
    exact h
  | start i =>
    obtain ⟨-, rfl⟩ := start_cases hs
    exact h
  | drain i =>
    obtain ⟨d, -, rfl⟩ := drain_cases hs
    exact h

/-- The invariant of a run in order. -/
structure Ordered (s : Updating) : Prop where
  tracks : NoFailure s → Tracks s
  fits : ∀ u ∈ s.handlers.map Handler.update, fits u = true

/-- The order is kept by every step that is in order. -/
theorem step_ordered {s s' : Updating} {l : UpdateLabel} (hC : inOrder s l = true)
    (hs : updateStep s l = some s') (h : Ordered s) : Ordered s' where
  tracks := fun hno =>
    have htracks := h.tracks (step_noFailure hs hno)
    { slots := fun i => moves_consistent (htracks.slots i) (step_moves hs hC hno i)
      file := step_file hs hno htracks.file }
  fits := by
    rw [step_updates hs]
    intro u hu
    rcases List.mem_append.mp hu with hu | hu
    · exact h.fits u hu
    · cases l with
      | deliver data =>
        have hdecode : decodeConfigUpdate data = some u := Option.mem_toList.mp hu
        unfold inOrder at hC
        dsimp only at hC
        rwa [hdecode, Option.all_some] at hC
      | lock k saved => cases hu
      | recv k => cases hu
      | push k => cases hu
      | start i => cases hu
      | drain i => cases hu

/-- A handler that has returned is done with every interval. -/
theorem returned_stage {h : Handler} (hret : h.returned = true) (i : Interval) :
    h.stage i = .done := by
  obtain ⟨u, phase⟩ := h
  cases phase with
  | waiting => cases hret
  | failed => cases hret
  | pushing p e =>
    have hempty : p.intervals = [] := List.isEmpty_iff.mp hret
    refine if_neg fun hmem => ?_
    rw [hempty] at hmem
    cases hmem

/-- When all handlers have returned, the row holds the values that were set, all done. -/
theorem row_returned {i : Interval} : ∀ {hs : List Handler},
    (∀ h ∈ hs, h.returned = true) →
      hs.filterMap (Handler.seen i) =
        ((hs.map Handler.update).filter fun u => 0 < u.get i).map fun u => ⟨u.get i, .done⟩ := by
  intro hs
  induction hs with
  | nil => exact fun _ => rfl
  | cons h hs ih =>
    intro hret
    have hrest := ih fun g hg => hret g (List.mem_cons_of_mem _ hg)
    by_cases hpos : 0 < h.update.get i
    · have hseen : h.seen i = some ⟨h.update.get i, .done⟩ := by
        rw [Handler.seen, if_pos hpos, returned_stage (hret h List.mem_cons_self)]
      rw [List.filterMap_cons_some hseen, List.map_cons,
        List.filter_cons_of_pos (p := fun u : ConfigUpdateData => decide (0 < u.get i))
          (decide_eq_true hpos), List.map_cons, hrest]
    · rw [List.filterMap_cons_none (seen_of_not_sets hpos), List.map_cons,
        List.filter_cons_of_neg (p := fun u : ConfigUpdateData => decide (0 < u.get i))
          (fun h => hpos (of_decide_eq_true h)), hrest]

/-- When all handlers have returned, the latest is that of the last update which sets the interval. -/
theorem latest_returned {s : Updating} {i : Interval} {u : ConfigUpdateData}
    (hret : ∀ h ∈ s.handlers, h.returned = true)
    (hlast : lastSetting i (s.handlers.map Handler.update) = some u) :
    (s.slot i).latest = some ⟨u.get i, .done⟩ := by
  show ((s.handlers.filterMap (Handler.seen i)).filter Seen.locked).getLast? = _
  rw [row_returned hret]
  have hlocked : ∀ us : List ConfigUpdateData,
      (us.map fun u => Seen.mk (u.get i) .done).filter Seen.locked =
        us.map fun u => ⟨u.get i, .done⟩ := by
    intro us
    refine List.filter_eq_self.mpr fun a ha => ?_
    obtain ⟨v, -, rfl⟩ := List.mem_map.mp ha
    rfl
  rw [hlocked, List.getLast?_map]
  exact congrArg _ hlast

theorem not_failed_of_returned {h : Handler} (hret : h.returned = true) :
    h.hasFailed = false := by
  rw [Handler.returned] at hret
  simp only [Bool.and_eq_true, Bool.not_eq_true'] at hret
  exact hret.1.2

theorem fits_get {u : ConfigUpdateData} (h : fits u = true) (i : Interval) (hpos : 0 < u.get i) :
    u.get i * i.unit < 9223372036854775808 :=
  of_decide_eq_true (List.all_eq_true.mp h i i.mem_list) hpos

/-- **The last configuration wins** in every run in which no handler overtakes an earlier one that
    sets the same interval, and the durations fit.

    Every update has a goroutine of its own, and the pushes come after the mutex is released.  `Consistent` follows
    each interval from the last delivered update to the memory, the file, the channel and the ticker. -/
theorem last_config_wins {c : CollectConfig} {ls : List UpdateLabel} {s : Updating}
    (hg : Run.Guarded updateStep (fun s l => inOrder s l = true) (.loaded c) ls)
    (hs : Run.exec updateStep (.loaded c) ls = some s) (hquiet : Quiet s) :
    LastWins (delivered ls) s := by
  have hstart : Ordered (.loaded c) := ⟨fun _ => tracks_loaded c, fun u hu => by cases hu⟩
  have h : Ordered s :=
    Run.exec_inv (fun _ _ _ hC hstep hI => step_ordered hC hstep hI) hg hs hstart
  have htracks := h.tracks fun g hg => not_failed_of_returned (hquiet.returned g hg)
  have hupdates : s.handlers.map Handler.update = delivered ls := exec_updates hs
  intro i u hlast
  have hu : u ∈ (delivered ls).filter fun u => 0 < u.get i := List.mem_of_getLast? hlast
  obtain ⟨hmem, hpos⟩ := List.mem_filter.mp hu
  have hlatest : (s.slot i).latest = some ⟨u.get i, .done⟩ :=
    latest_returned hquiet.returned (hupdates ▸ hlast)
  have hmemory : s.config.memory.get i = u.get i := (htracks.slots i).memory _ hlatest
  have hduration : durationOf i (u.get i) = u.get i * i.unit :=
    durationOf_of_small (of_decide_eq_true hpos)
      (fits_get (h.fits u (hupdates ▸ hmem)) i (of_decide_eq_true hpos))
  refine ⟨hmemory, ⟨_, htracks.file, hmemory⟩, ?_⟩
  rcases (htracks.slots i).holds _ hlatest rfl with hfull | ⟨-, hperiod⟩
  · exact absurd (hfull.symm.trans (hquiet.drained i)) (by simp)
  · rw [← hduration]
    exact hperiod

/-! ## Two updates -/

/-- The server sets the telemetry interval, twice. -/
def setTelemetry (secs : Int) : UpdateLabel :=
  .deliver (DeviceConfigRequest.modelDump ⟨secs, 0, 0⟩)

/-- One handler after the other. -/
def oneByOne : List UpdateLabel :=
  [.start .telemetry, setTelemetry 30, setTelemetry 60, .lock 0 true, .recv 0, .push 0,
    .lock 1 true, .recv 1, .push 1, .drain .telemetry]

/-- The second handler comes to the mutex first. -/
def secondLocksFirst : List UpdateLabel :=
  [.start .telemetry, setTelemetry 30, setTelemetry 60, .lock 1 true, .recv 1, .push 1,
    .lock 0 true, .recv 0, .push 0, .drain .telemetry]

/-- The mutex is passed in order; the second handler pushes first. -/
def secondPushesFirst : List UpdateLabel :=
  [.start .telemetry, setTelemetry 30, setTelemetry 60, .lock 0 true, .lock 1 true, .recv 1,
    .push 1, .recv 0, .push 0, .drain .telemetry]

/-- Both handlers empty the channel before either of them sends. -/
def bothReceiveFirst : List UpdateLabel :=
  [.start .telemetry, setTelemetry 30, setTelemetry 60, .lock 0 true, .lock 1 true, .recv 0,
    .recv 1, .push 0, .push 1, .drain .telemetry]

/-- Two updates, each handled before the next one arrives. -/
theorem last_config_wins_one_by_one :
    ∃ s, Run.exec updateStep (.loaded defaultCollect) oneByOne = some s ∧ Quiet s ∧
      LastWins (delivered oneByOne) s ∧ s.config.memory.telemetryIntervalSecs = 60 := by
  have hg : Run.Guarded updateStep (fun s l => inOrder s l = true) (.loaded defaultCollect)
      oneByOne := by decide +kernel
  obtain ⟨s, hs, hquiet, hmemory⟩ : ∃ s,
      Run.exec updateStep (.loaded defaultCollect) oneByOne = some s ∧ Quiet s ∧
        s.config.memory.telemetryIntervalSecs = 60 := by
    refine ⟨_, rfl, ⟨?_, ?_⟩, rfl⟩
    · exact List.all_eq_true.mp rfl
    · intro i
      cases i <;> rfl
  exact ⟨s, hs, hquiet, last_config_wins hg hs hquiet, hmemory⟩

/-- The run is quiet at its end; memory, file and ticker have these. -/
def EndsWith (ls : List UpdateLabel) (memory file period : Int) : Prop :=
  ∃ s, Run.exec updateStep (.loaded defaultCollect) ls = some s ∧ Quiet s ∧
    s.config.memory.telemetryIntervalSecs = memory ∧
    s.config.file.map CollectConfig.telemetryIntervalSecs = some file ∧
    s.period .telemetry = some period ∧ ¬ LastWins (delivered ls) s

/-- A handler that is overtaken at the mutex has the last word; one that is overtaken after it
    leaves the ticker with the first value, and memory and file with the second. -/
theorem overtaken_handler_wins :
    EndsWith secondLocksFirst 30 30 30000000000 ∧ EndsWith secondPushesFirst 60 60 30000000000 ∧
      EndsWith bothReceiveFirst 60 60 30000000000 := by
  refine ⟨⟨_, rfl, ⟨List.all_eq_true.mp rfl, ?_⟩, rfl, rfl, rfl, fun h => ?_⟩,
    ⟨_, rfl, ⟨List.all_eq_true.mp rfl, ?_⟩, rfl, rfl, rfl, fun h => ?_⟩,
    ⟨_, rfl, ⟨List.all_eq_true.mp rfl, ?_⟩, rfl, rfl, rfl, fun h => ?_⟩⟩
  · intro i
    cases i <;> rfl
  · exact absurd (h .telemetry ⟨60, 0, 0⟩ rfl).1 (by decide)
  · intro i
    cases i <;> rfl
  · exact absurd (h .telemetry ⟨60, 0, 0⟩ rfl).2.2 (by decide)
  · intro i
    cases i <;> rfl
  · exact absurd (h .telemetry ⟨60, 0, 0⟩ rfl).2.2 (by decide)

end Agent

end Dtsys
