/-
  EVERY SHUTDOWN OF THE TRANSPORT COMES TO ITS END, if there is room (`Room`).

  In a run whose steps leave the slots free that are needed:

  1. every step of a pump that `readLoop` waits for brings it closer to its end, whatever it finds in
     the fields that `readLoop` clears; the measure is `left`, and its last summand `callsLeft`;
  2. a call of `Run` returns, with the help of the pump if the channel is full and the pump is still in
     its loop; the measure is `callDistance`;
  3. `Run` that is in no call goes to `<-c.writeDone` by itself (`beforeWait`), and from there, the pump
     gone, to its next attempt (`resumesLeft`).

  Together: from EVERY state of such a run, the steps of the pump and of `Run` alone lead to the next
  attempt to connect (`pump_releases`).

  Without the room they do not: with 256 results in `sendCh` the pump waits for itself, and `Run` for the
  pump (`pump_blocked`).
-/
import Dtsys.Agent.Room
import Mathlib.Algebra.GroupWithZero.Nat

namespace Dtsys

namespace Agent

/-- Steps the innermost call has left, and those of the calls it makes. -/
def SendFrame.stepsLeft : SendFrame → Nat
  | .push _ | .dropped _ => 1
  -- the warning, and the `Send` of the event made of it
  | .log => 3
  -- a full channel is logged
  | .offer _ => 5
  | .enter m => if m.type.isCritical then 2 else 6

/-- Steps the calls of a goroutine have left. -/
def callsLeft (fs : List SendFrame) : Nat := (fs.map SendFrame.stepsLeft).sum

/-- Steps the pump has left until it takes a message out of `sendCh`. -/
def PumpPhase.distance : PumpPhase → Nat
  | .selecting _ => 1
  | .looping => 2
  | .pinging _ | .writing .. => 3
  | .ticked | .took _ => 4
  | .exiting | .absent => 0

namespace Transport

section

variable {s s' : Client}

/-- **Every step of a call** brings the goroutine closer to the end of its calls. -/
theorem callsLeft_advance {g : Goroutine} {f : SendFrame} {rest : List SendFrame} {t : Client}
    (h : Advanced s g rest f t) : callsLeft (t.stack g) < callsLeft (f :: rest) := by
  have hset : ∀ fs, callsLeft ((setStack s g fs).stack g) = callsLeft fs := fun fs => by rw [setStack_self]
  have hcons : ∀ (f : SendFrame) (fs : List SendFrame), callsLeft (f :: fs) = f.stepsLeft + callsLeft fs :=
    fun f fs => List.sum_cons
  -- The weights of the statements are such that each of them outweighs those it puts in its place.
  cases h with
  | @skips m hdrop =>
    have hcrit : (SendFrame.enter m).stepsLeft = 6 := by
      rw [SendFrame.stepsLeft, MsgType.not_critical_of_drop hdrop]
      rfl
    rw [hset, hcons, hcons, hcons, hcrit]
    simp only [SendFrame.stepsLeft]
    omega
  | @blocks m =>
    rw [hset, hcons, hcons]
    simp only [SendFrame.stepsLeft]
    split <;> omega
  | @offers m hcrit =>
    rw [hset, hcons, hcons]
    simp only [SendFrame.stepsLeft, hcrit, Bool.false_eq_true, if_false]
    omega
  | pushed =>
    show callsLeft ((setStack s g rest).stack g) < _
    rw [hset, hcons]
    simp only [SendFrame.stepsLeft]
    omega
  | taken =>
    show callsLeft ((setStack s g rest).stack g) < _
    rw [hset, hcons]
    simp only [SendFrame.stepsLeft]
    omega
  | full =>
    rw [hset, hcons, hcons, hcons]
    simp only [SendFrame.stepsLeft]
    omega
  | dropped =>
    show callsLeft ((setStack s g rest).stack g) < _
    rw [hset, hcons]
    simp only [SendFrame.stepsLeft]
    omega
  | forwarded =>
    show callsLeft ((setStack s g _).stack g) < _
    rw [hset, hcons, hcons]
    simp only [SendFrame.stepsLeft, MsgType.isCritical, if_true]
    omega
  | printed =>
    rw [hset, hcons]
    simp only [SendFrame.stepsLeft]
    omega

/-- A step that its goroutine, in no call, can take. -/
theorem step_of_idle {l : Label} {g : Goroutine} (hown : owner l = some g) (hstack : s.stack g = [])
    (hguard : Guard s l) : step s l = some (effect s l) := by
  refine Run.guardedStep_eq_some.mpr ⟨⟨fun _ => ?_, hguard⟩, rfl⟩
  rw [hown]
  exact hstack

/-- The pump is in no call, unless it is returning. -/
theorem PumpCalls.idle (h : PumpCalls s) (hne : s.pump ≠ .exiting) : s.stack .pump = [] := by
  cases h with
  | none h => exact h
  | log he h => exact absurd he hne
  | enter m hm he h => exact absurd he hne
  | push m he h => exact absurd he hne

/-! ## The pump on its way out -/

/-- A bound on the steps the pump has left, once `c.conn` is `nil`. -/
def left (s : Client) : Nat :=
  match s.pump with
  | .absent => 0
  | .exiting => 1 + callsLeft (s.stack .pump)
  | .ticked | .took _ => 2
  | .selecting _ => 3
  | .looping => 4
  | .pinging _ | .writing .. => 5

/-- `readLoop` waits for `writeDone`. -/
structure Waits (s : Client) : Prop where
  inv : Inv s
  awaiting : s.run = .awaiting

/-- While it waits for the pump, `Run` is in no connection. -/
theorem Waits.down (h : Waits s) : s.run.up = false := by
  rw [h.awaiting]
  rfl

/-- And `c.conn` is cleared. -/
theorem Waits.conn (h : Waits s) : s.conn = none := by
  have hnone := h.inv.conn
  rw [h.down] at hnone
  exact Option.isNone_iff_eq_none.mp (by rw [← Option.not_isSome, hnone]; rfl)

/-- `Run` waits, and calls nothing. -/
theorem Waits.quiet (h : Waits s) : s.stack .run = [] := by
  rcases h.inv.down h.down with hnil | ⟨hback, -⟩
  · exact hnil
  · rw [h.awaiting] at hback
    cases hback

/-- The pump is in no call, unless it is returning. -/
theorem Waits.stack (h : Waits s) {p : PumpPhase} (hp : s.pump = p) (hne : p ≠ .exiting) :
    s.stack .pump = [] := h.inv.calls.idle (hp ▸ hne)

/-- No step of the pump needs a slot any more. -/
theorem Waits.room (h : Waits s) {l : Label} (hby : ByPump l) : Room s l := by
  have hcalling : calling (s.stack .run) = true → False := by
    rw [h.quiet]
    exact fun hcalling => by cases hcalling
  cases l with
  | go g f rest =>
    obtain rfl : g = .pump := Option.some.inj hby
    cases f with
    | log =>
      intro hconn
      rw [h.conn] at hconn
      cases hconn
    | _ => trivial
  | ping k ok =>
    cases ok with
    | true => trivial
    | false => exact fun hyes => (hcalling hyes).elim
  | write k m ok =>
    cases ok with
    | true => trivial
    | false => exact fun hyes => (hcalling hyes).elim
  | pong k => cases hby
  | readFails k logged => cases hby
  | _ => trivial

/-- A step of a call of the pump brings it closer to its end. -/
theorem left_advance (h : PumpCalls s) {f : SendFrame} {rest : List SendFrame}
    (hstack : s.stack .pump = f :: rest) : left (advance s .pump rest f) < left s := by
  have hf := advanced s .pump rest f
  have hexit : s.pump = .exiting := by
    by_contra hne
    rw [h.idle hne] at hstack
    cases hstack
  have hlt := callsLeft_advance hf
  unfold left
  rw [hf.untouched.pump, hexit, hstack]
  exact Nat.add_lt_add_left hlt 1

/-- **Every step of the pump** brings it closer to its end. -/
theorem waits_step (s : Client) (l : Label) (s' : Client) (hby : ByPump l)
    (hs : step s l = some s') (h : Waits s) : Waits s' ∧ left s' < left s := by
  have hinv : Inv s' := inv_step s l s' (h.room hby) hs h.inv
  obtain ⟨⟨hidle, hen⟩, rfl⟩ := Run.guardedStep_eq_some.mp hs
  have hlt : ∀ {t : Client} {n : Nat}, left t ≤ n → left s = n + 1 → left t < left s := by
    intro t n hle heq
    omega
  have hleft : ∀ {p : PumpPhase}, s.pump = p → left s = left { s with pump := p } := by
    rintro p rfl
    rfl
  -- a ping or a write that fails is logged
  have hlogged : 1 + callsLeft ((setStack s .pump [.log]).stack .pump) ≤ 4 := by
    rw [setStack_self]
    decide
  cases l with
  | select => exact ⟨⟨hinv, h.awaiting⟩, hlt (n := 3) (Nat.le_refl _) (hleft hen)⟩
  | stop k =>
    refine ⟨⟨hinv, h.awaiting⟩, hlt (n := 2) ?_ (hleft hen.1)⟩
    show 1 + callsLeft (s.stack .pump) ≤ 2
    rw [h.stack hen.1 (by simp)]
    decide
  | tick stop => exact ⟨⟨hinv, h.awaiting⟩, hlt (n := 2) (Nat.le_refl _) (hleft hen)⟩
  | receive stop m => exact ⟨⟨hinv, h.awaiting⟩, hlt (n := 2) (Nat.le_refl _) (hleft hen.1)⟩
  | tickConn =>
    refine ⟨⟨hinv, h.awaiting⟩, hlt (n := 1) ?_ (hleft hen)⟩
    have hexit : effect s .tickConn = { s with pump := .exiting } := by
      dsimp only [effect]
      rw [h.conn]
    rw [hexit]
    show 1 + callsLeft (s.stack .pump) ≤ 1
    rw [h.stack hen (by simp)]
    decide
  | takeConn m =>
    refine ⟨⟨hinv, h.awaiting⟩, hlt (n := 1) ?_ (hleft hen)⟩
    have hexit : effect s (.takeConn m) = { s with pump := .exiting } := by
      dsimp only [effect]
      rw [h.conn]
    rw [hexit]
    show 1 + callsLeft (s.stack .pump) ≤ 1
    rw [h.stack hen (by simp)]
    decide
  | ping k ok =>
    cases ok with
    | true => exact ⟨⟨hinv, h.awaiting⟩, hlt (n := 4) (Nat.le_refl _) (hleft hen.1)⟩
    | false => exact ⟨⟨hinv, h.awaiting⟩, hlt (n := 4) hlogged (hleft hen.1)⟩
  | write k m ok =>
    cases ok with
    | true => exact ⟨⟨hinv, h.awaiting⟩, hlt (n := 4) (Nat.le_refl _) (hleft hen.1)⟩
    | false => exact ⟨⟨hinv, h.awaiting⟩, hlt (n := 4) hlogged (hleft hen.1)⟩
  | close =>
    refine ⟨⟨hinv, h.awaiting⟩, ?_⟩
    rw [hleft hen]
    show 0 < 1 + _
    omega
  | go g f rest =>
    obtain rfl : g = .pump := Option.some.inj hby
    refine ⟨⟨hinv, ?_⟩, left_advance h.inv.calls hen.1⟩
    exact (advanced s .pump rest f).untouched.run.trans h.awaiting
  | _ => cases hby

/-- Until `writeDone` is closed, the pump can go on. -/
theorem waits_progress (s : Client) (h : Waits s) :
    DoneClosed s ∨ ∃ l, ByPump l ∧ (step s l).isSome = true := by
  have hgo : ∀ {l : Label}, ByPump l → s.stack .pump = [] → Guard s l →
      ∃ l, ByPump l ∧ (step s l).isSome = true := by
    intro l hby hstack hguard
    exact ⟨l, hby, by rw [step_of_idle hby hstack hguard]; rfl⟩
  have hcall : ∀ {f : SendFrame}, s.stack .pump = [f] → (f.isPush = true → s.sendCh.length < capacity) →
      ∃ l, ByPump l ∧ (step s l).isSome = true := by
    intro f hstack hpush
    have hstep : step s (.go .pump f []) = some (effect s (.go .pump f [])) :=
      Run.guardedStep_eq_some.mpr ⟨⟨nofun, hstack, hpush⟩, rfl⟩
    exact ⟨.go .pump f [], rfl, by rw [hstep]; rfl⟩
  cases hp : s.pump with
  | absent =>
    obtain ⟨k, hk, hclosed⟩ := h.inv.gone (by rw [h.awaiting]; rfl)
    exact .inl ⟨k, hk, hclosed hp⟩
  | looping => exact .inr (hgo (l := .select) rfl (h.stack hp (by simp)) hp)
  | selecting stop => exact .inr (hgo (l := .tick stop) rfl (h.stack hp (by simp)) hp)
  | ticked => exact .inr (hgo (l := .tickConn) rfl (h.stack hp (by simp)) hp)
  | took m => exact .inr (hgo (l := .takeConn m) rfl (h.stack hp (by simp)) hp)
  | pinging k => exact .inr (hgo (l := .ping k false) rfl (h.stack hp (by simp)) ⟨hp, nofun⟩)
  | writing k m => exact .inr (hgo (l := .write k m false) rfl (h.stack hp (by simp)) ⟨hp, nofun⟩)
  | exiting =>
    right
    cases h.inv.calls with
    | none hst => exact hgo (l := .close) rfl hst hp
    | log he hst => exact hcall hst nofun
    | enter m hm he hst => exact hcall hst nofun
    -- the slot was kept for it
    | push m he hst =>
      have hone : pumpNeeds s = 1 := if_pos (by rw [hst]; rfl)
      have hroom := h.inv.room
      rw [needs, hone] at hroom
      exact hcall hst fun _ => by omega

/-! ## The calls of `Run` return -/

/-- Steps until `Run` is in no call, those of the pump included that makes room for it. -/
def callDistance (s : Client) : Nat :=
  10 * callsLeft (s.stack .run) + if s.sendCh.length < capacity then 0 else s.pump.distance

/-- The pump has at most four steps to its end. -/
theorem PumpPhase.distance_le (p : PumpPhase) : p.distance ≤ 4 := by
  cases p <;> simp [PumpPhase.distance]

/-- A pump in its loop gets closer to taking a message, as long as the connection is up. -/
theorem makes_room (h : Inv s) (hup : s.run.up = true) (hgone : s.pump.gone = false)
    (hfull : s.sendCh.length = capacity) :
    ∃ l s', ByPumpOrRun l ∧ step s l = some s' ∧ Inv s' ∧ callDistance s' < callDistance s := by
  have hidle : s.stack .pump = [] := h.calls.idle fun he => by
    rw [he] at hgone
    cases hgone
  obtain ⟨j, hj⟩ : ∃ j, s.conn = some j := Option.isSome_iff_exists.mp (h.conn.trans hup)
  -- the pump goes on in its loop, and the channel stays full
  have hgo : ∀ {l : Label} {p : PumpPhase}, ByPump l → Guard s l → Room s l →
      (effect s l).stack .run = s.stack .run → (effect s l).sendCh = s.sendCh → (effect s l).pump = p →
      p.distance < s.pump.distance →
      ∃ l s', ByPumpOrRun l ∧ step s l = some s' ∧ Inv s' ∧ callDistance s' < callDistance s := by
    rintro l p hby hguard hroom hstack hch rfl hlt
    have hs := step_of_idle hby hidle hguard
    refine ⟨l, _, .inl hby, hs, inv_step s l _ hroom hs h, ?_⟩
    have hnot : ¬ s.sendCh.length < capacity := by omega
    rw [callDistance, callDistance, hstack, hch, if_neg hnot, if_neg hnot]
    exact Nat.add_lt_add_left hlt _
  -- nobody has closed the connection that the pump writes to
  have hopen : ∀ {k : Nat}, s.pump.number = some k → s.closed k = false := by
    intro k hk
    by_contra hclosed
    have hheld := h.numbered.held k (.inr (.inr (.inl hk)))
    rw [(h.numbered.ended k (.inr (by simpa using hclosed))).2 hheld] at hup
    cases hup
  have hlt : ∀ {p : PumpPhase} {n : Nat}, s.pump = p → n < p.distance → n < s.pump.distance := by
    rintro p n rfl hlt
    exact hlt
  cases hp : s.pump with
  | looping => exact hgo (l := .select) rfl hp trivial rfl rfl rfl (hlt hp (by decide : 1 < 2))
  | selecting stop =>
    obtain ⟨m, ms, hms⟩ : ∃ m ms, s.sendCh = m :: ms := by
      cases hch : s.sendCh with
      | nil =>
        rw [hch] at hfull
        cases hfull
      | cons m ms => exact ⟨m, ms, rfl⟩
    have hs : step s (.receive stop m) = some (effect s (.receive stop m)) :=
      step_of_idle rfl hidle ⟨hp, by rw [hms]; rfl⟩
    refine ⟨.receive stop m, _, .inl rfl, hs, inv_step s (.receive stop m) _ trivial hs h, ?_⟩
    have hlt : (effect s (.receive stop m)).sendCh.length < capacity := by
      show s.sendCh.tail.length < capacity
      rw [List.length_tail, hfull]
      decide
    have hnot : ¬ s.sendCh.length < capacity := by omega
    rw [callDistance, callDistance, if_pos hlt, if_neg hnot, hp]
    exact Nat.lt_succ_self _
  | ticked =>
    refine hgo (l := .tickConn) (p := .pinging j) rfl hp trivial rfl rfl ?_ (hlt hp (by decide : 3 < 4))
    dsimp only [effect]
    rw [hj]
  | took m =>
    refine hgo (l := .takeConn m) (p := .writing j m) rfl hp trivial rfl rfl ?_ (hlt hp (by decide : 3 < 4))
    dsimp only [effect]
    rw [hj]
  | pinging k =>
    exact hgo (l := .ping k true) rfl ⟨hp, fun _ => hopen (by rw [hp]; rfl)⟩ trivial rfl rfl rfl
      (hlt hp (by decide : 2 < 3))
  | writing k m =>
    exact hgo (l := .write k m true) rfl ⟨hp, fun _ => hopen (by rw [hp]; rfl)⟩ trivial rfl rfl rfl
      (hlt hp (by decide : 2 < 3))
  | absent =>
    rw [hp] at hgone
    cases hgone
  | exiting =>
    rw [hp] at hgone
    cases hgone

/-- **A call of `Run`** can go on, or the pump makes room for it. -/
theorem calls_return (s : Client) (h : Inv s) :
    s.stack .run = [] ∨
      ∃ l s', ByPumpOrRun l ∧ step s l = some s' ∧ Inv s' ∧ callDistance s' < callDistance s := by
  cases hstack : s.stack .run with
  | nil => exact .inl rfl
  | cons f rest =>
    right
    by_cases hwait : f.isPush = true → s.sendCh.length < capacity
    · have hs : step s (.go .run f rest) = some (advance s .run rest f) :=
        Run.guardedStep_eq_some.mpr ⟨⟨nofun, hstack, hwait⟩, rfl⟩
      refine ⟨.go .run f rest, _, .inr rfl, hs, inv_step s (.go .run f rest) _ trivial hs h, ?_⟩
      have hlt := callsLeft_advance (advanced s .run rest f)
      rw [← hstack] at hlt
      have hfew : (if (advance s .run rest f).sendCh.length < capacity then 0
          else (advance s .run rest f).pump.distance) ≤ 4 := by
        split
        · exact Nat.zero_le _
        · exact PumpPhase.distance_le _
      rw [callDistance, callDistance]
      omega
    · obtain ⟨hpush, hfull⟩ := Classical.not_imp.mp hwait
      have hup : s.run.up = true := by
        by_contra hdown
        rcases h.down (by simpa using hdown) with hnil | ⟨-, hlog⟩
        · rw [hstack] at hnil
          cases hnil
        · obtain ⟨rfl, -⟩ := List.cons.inj (hstack.symm.trans hlog)
          cases hpush
      have hcalling : calling (s.stack .run) = true := by
        rw [hstack]
        cases f <;> first | rfl | cases hpush
      have hroom := h.room
      refine makes_room h hup ?_ (by omega)
      -- behind the pump a slot is kept for `Run`
      by_contra hgone
      have hone : runNeeds s = 1 := if_pos ⟨by simpa using hgone, hup, hcalling⟩
      rw [needs, hone] at hroom
      omega

/-! ## `Run` before the pump has gone -/

/-- In no call. -/
structure Calm (s : Client) : Prop where
  inv : Inv s
  stack : s.stack .run = []

/-- In front of `connect`, or shut down. -/
def Resumed (s : Client) : Prop := s.run = .dialing ∨ s.run = .stopped

/-- `Run` between `<-c.writeDone` and the next attempt to connect. -/
inductive Resumes (s : Client) : Prop
  | awaiting (h : s.run = .awaiting) (hdone : DoneClosed s)
  | draining (h : s.run = .draining)
  | backoff (h : s.run = .backoff)
  | top (h : s.run = .top)
  | resumed (h : Resumed s)

/-- Steps `Run` has left until it waits for the pump, the connection broken. -/
def beforeWait (s : Client) : Nat :=
  match s.run with
  | .entering => 5
  | .reading _ => 4
  | .leaving => 3
  | .releasing .. => 2
  | .closing _ => 1
  | _ => 0

/-- **`Run`, by itself,** gets closer to waiting for the pump, when the connection breaks. -/
theorem waits_next (s : Client) (h : Calm s) :
    (s.run = .awaiting ∨ Resumes s) ∨
      ∃ l s', ByPumpOrRun l ∧ step s l = some s' ∧ Calm s' ∧ beforeWait s' < beforeWait s := by
  have hgo : ∀ {l : Label} {p : RunPhase}, owner l = some .run → Guard s l → Room s l →
      (effect s l).stack .run = [] → s.run = p → beforeWait (effect s l) < beforeWait { s with run := p } →
      ∃ l s', ByPumpOrRun l ∧ step s l = some s' ∧ Calm s' ∧ beforeWait s' < beforeWait s := by
    rintro l p hown hguard hroom hstack rfl hlt
    have hs := step_of_idle hown h.stack hguard
    exact ⟨l, _, .inr hown, hs, ⟨inv_step s l _ hroom hs h.inv, hstack⟩, hlt⟩
  cases hp : s.run with
  | entering =>
    refine .inr (hgo (l := .enter) rfl hp trivial h.stack hp ?_)
    dsimp only [effect]
    cases s.conn with
    | none => exact (by decide : 3 < 5)
    | some k => exact (by decide : 4 < 5)
  | reading k =>
    exact .inr (hgo (l := .readFails k false) rfl hp trivial (setStack_self s .run []) hp (by decide : 3 < 4))
  | leaving => exact .inr (hgo (l := .clear) rfl hp trivial h.stack hp (by decide : 2 < 3))
  | releasing stop conn =>
    exact .inr (hgo (l := .closeStop stop conn) rfl hp trivial h.stack hp (by decide : 1 < 2))
  | closing conn => exact .inr (hgo (l := .closeConn conn) rfl hp trivial h.stack hp (by decide : 0 < 1))
  | awaiting => exact .inl (.inl rfl)
  | draining => exact .inl (.inr (.draining hp))
  | backoff => exact .inl (.inr (.backoff hp))
  | top => exact .inl (.inr (.top hp))
  | dialing => exact .inl (.inr (.resumed (.inl hp)))
  | stopped => exact .inl (.inr (.resumed (.inr hp)))

/-! ## `Run` after the pump -/

/-- Steps `Run` has left until then. -/
def resumesLeft (s : Client) : Nat :=
  match s.run with
  | .awaiting => s.sendCh.length + 4
  | .draining => s.sendCh.length + 3
  | .backoff => 2
  | .top => 1
  | _ => 0

/-- **`Run`, by itself,** gets closer to the next attempt. -/
theorem resumes_step (s : Client) (h : Resumes s ∧ s.stack .run = []) :
    Resumed s ∨ ∃ l s', ByPumpOrRun l ∧ step s l = some s' ∧
      (Resumes s' ∧ s'.stack .run = []) ∧ resumesLeft s' < resumesLeft s := by
  obtain ⟨h, hstack⟩ := h
  have hgo : ∀ {l : Label}, owner l = some .run → Guard s l → step s l = some (effect s l) := by
    intro l ho hguard
    refine Run.guardedStep_eq_some.mpr ⟨⟨fun _ => ?_, hguard⟩, rfl⟩
    rw [ho]
    exact hstack
  have hleft : ∀ {p : RunPhase}, s.run = p → resumesLeft s = resumesLeft { s with run := p } := by
    rintro p rfl
    rfl
  cases h with
  | awaiting h hdone =>
    obtain ⟨k, hk, hclosed⟩ := hdone
    have hrel : released s = true := by
      rw [released, hk]
      exact hclosed
    refine .inr ⟨.await, _, .inr rfl, hgo rfl ⟨h, hrel⟩, ⟨.draining rfl, hstack⟩, ?_⟩
    rw [hleft h]
    show s.sendCh.length + 3 < s.sendCh.length + 4
    omega
  -- Each message that is discarded shortens the channel.
  | draining h =>
    right
    cases hch : s.sendCh with
    | nil =>
      refine ⟨.drained, _, .inr rfl, hgo rfl ⟨h, hch⟩, ⟨?_, hstack⟩, ?_⟩
      · cases hc : s.cancelled with
        | true => exact .resumed (.inr (by simp [effect, hc]))
        | false => exact .backoff (by simp [effect, hc])
      · rw [hleft h]
        have hlt : resumesLeft (effect s .drained) ≤ 2 := by
          cases hc : s.cancelled <;> simp [effect, hc, resumesLeft]
        show resumesLeft (effect s .drained) < s.sendCh.length + 3
        omega
    | cons m ms =>
      have hhead : s.sendCh.head? = some m := by rw [hch]; rfl
      refine ⟨.discard m, _, .inr rfl, hgo rfl ⟨h, hhead⟩, ⟨.draining h, hstack⟩, ?_⟩
      have hafter : resumesLeft (effect s (.discard m)) = s.sendCh.tail.length + 3 := by
        rw [resumesLeft, show (effect s (.discard m)).run = .draining from h]
        rfl
      rw [hafter, hleft h, hch]
      show ms.length + 3 < (m :: ms).length + 3
      rw [List.length_cons]
      omega
  -- The context is looked at on the way: where it is cancelled, Run has come to its end.
  | backoff h =>
    refine .inr ⟨.retry, _, .inr rfl, hgo rfl h, ⟨?_, hstack⟩, ?_⟩
    · cases hc : s.cancelled with
      | true => exact .resumed (.inr (by simp [effect, hc]))
      | false => exact .top (by simp [effect, hc])
    · rw [hleft h]
      cases hc : s.cancelled <;> simp [effect, hc, resumesLeft]
  | top h =>
    refine .inr ⟨.check, _, .inr rfl, hgo rfl h, ⟨?_, hstack⟩, ?_⟩
    · cases hc : s.cancelled with
      | true => exact .resumed (.inr (by simp [effect, hc]))
      | false => exact .resumed (.inl (by simp [effect, hc]))
    · rw [hleft h]
      cases hc : s.cancelled <;> simp [effect, hc, resumesLeft]
  | resumed h => exact .inl h

/-- The steps of `Run` and of the pump lead from every state to the next attempt: the calls of `Run`
    return, it goes to wait for the pump, the pump ends, and `Run` goes on. -/
theorem inv_resumes (h : Inv s) :
    ∃ ls t, (∀ l ∈ ls, ByPumpOrRun l) ∧ Run.exec step s ls = some t ∧ Resumed t := by
  have hpump : ∀ s, Waits s → DoneClosed s ∨
      ∃ l s', ByPumpOrRun l ∧ step s l = some s' ∧ Waits s' ∧ left s' < left s := by
    intro s hw
    rcases waits_progress s hw with hdone | ⟨l, hby, hsome⟩
    · exact .inl hdone
    · obtain ⟨s', hs⟩ := Option.isSome_iff_exists.mp hsome
      exact .inr ⟨l, s', .inl hby, hs, waits_step s l s' hby hs hw⟩
  -- two parts of the way
  have hjoin : ∀ {u : Client} {ls : List Label}, (∀ l ∈ ls, ByPumpOrRun l) → Run.exec step s ls = some u →
      (∃ ms t, (∀ l ∈ ms, ByPumpOrRun l) ∧ Run.exec step u ms = some t ∧ Resumed t) →
      ∃ ls t, (∀ l ∈ ls, ByPumpOrRun l) ∧ Run.exec step s ls = some t ∧ Resumed t := by
    rintro u ls hls hu ⟨ms, t, hms, ht, hres⟩
    refine ⟨ls ++ ms, t, fun l hl => ?_, Run.exec_append hu ht, hres⟩
    rcases List.mem_append.mp hl with hl | hl
    · exact hls l hl
    · exact hms l hl
  have hlast : ∀ {v : Client}, Resumes v → v.stack .run = [] →
      ∃ ms t, (∀ l ∈ ms, ByPumpOrRun l) ∧ Run.exec step v ms = some t ∧ Resumed t := by
    intro v hv hstack
    obtain ⟨ms, t, hms, ht, hres, -⟩ := Run.exists_exec_of_measure resumes_step ⟨hv, hstack⟩
    exact ⟨ms, t, hms, ht, hres⟩
  obtain ⟨ls₁, u₁, hls₁, hu₁, hstack, hinv⟩ := Run.exists_exec_of_measure calls_return h
  obtain ⟨ls₂, u₂, hls₂, hu₂, hend, hcalm⟩ := Run.exists_exec_of_measure waits_next ⟨hinv, hstack⟩
  have hls₁₂ : ∀ l ∈ ls₁ ++ ls₂, ByPumpOrRun l := fun l hl => by
    rcases List.mem_append.mp hl with hl | hl
    · exact hls₁ l hl
    · exact hls₂ l hl
  refine hjoin hls₁₂ (Run.exec_append hu₁ hu₂) ?_
  rcases hend with hawait | hres
  · obtain ⟨ls₃, u₃, hls₃, hu₃, hdone, hw⟩ := Run.exists_exec_of_measure hpump ⟨hcalm.inv, hawait⟩
    obtain ⟨ms, t, hms, ht, hres⟩ := hlast (.awaiting hw.awaiting hdone) hw.quiet
    refine ⟨ls₃ ++ ms, t, fun l hl => ?_, Run.exec_append hu₃ ht, hres⟩
    rcases List.mem_append.mp hl with hl | hl
    · exact hls₃ l hl
    · exact hms l hl
  · exact hlast hres hcalm.stack

/-- **No deadlock.**  In every run whose steps leave the slots free that are needed: a pump that
    `readLoop` waits for can go on, and whatever it does it closes `writeDone`, with no help from
    anybody; and from every state, the steps of the pump and of `Run` lead to the next attempt to
    connect.

    The rank of a pump counts the steps to the closing of `writeDone`, the calls on its stack included (`left`).
    Without the condition it may sit in the `Send` of its own warning, with a full channel that nobody else empties.
    -/
theorem pump_releases {ls : List Label} (hroom : Run.Guarded step Room init ls)
    (hrun : Run.exec step init ls = some s) :
    (s.run = .awaiting → Run.Finishes step ByPump DoneClosed s) ∧
      ∃ ls t, (∀ l ∈ ls, ByPumpOrRun l) ∧ Run.exec step s ls = some t ∧ Resumed t := by
  have hinv : Inv s := Run.exec_inv inv_step hroom hrun inv_init
  exact ⟨fun hw => Run.finishes_of_measure waits_step waits_progress ⟨hinv, hw⟩, inv_resumes hinv⟩

end

/-- A ping fails while the connection is still up; then reading fails, too, and `Run` logs it while the
    pump is in the `Send` of its own event.  Both find room. -/
def pingFails : List Label :=
  [.check, .dial, .enter, .select, .tick (some 0), .tickConn, .ping 0 false, .go .pump .log [],
    .go .pump (.enter ⟨0, .eventReport⟩) [], .readFails 0 true, .go .run .log [],
    .go .run (.enter ⟨1, .eventReport⟩) [], .go .run (.push ⟨1, .eventReport⟩) [], .clear,
    .closeStop (some 0) (some 0), .closeConn (some 0)]

/-- The pump is still in the `Send` of its event when `readLoop` begins to wait. -/
theorem pump_releases_ping_fails :
    ∃ s, Run.exec step init pingFails = some s ∧ s.stack .pump = [.push ⟨0, .eventReport⟩] ∧
      Run.Finishes step ByPump DoneClosed s ∧
      ∃ ls t, (∀ l ∈ ls, ByPumpOrRun l) ∧ Run.exec step s ls = some t ∧ Resumed t := by
  have hroom : Run.Guarded step Room init pingFails := by decide
  exact ⟨_, rfl, rfl, (pump_releases hroom rfl).1 rfl, (pump_releases hroom rfl).2⟩

/-! ## A full channel -/

/-- Sender 0 sends `n` results, the first with the number `c`. -/
def fill : Nat → Nat → List Label
  | _, 0 => []
  | c, n + 1 =>
    .send 0 .commandResult :: .go (.sender 0) (.enter ⟨c, .commandResult⟩) [] ::
      .go (.sender 0) (.push ⟨c, .commandResult⟩) [] :: fill (c + 1) n

/-- `n` results, the first with the number `c`. -/
def results : Nat → Nat → List Message
  | _, 0 => []
  | c, n + 1 => ⟨c, .commandResult⟩ :: results (c + 1) n

theorem length_results (c n : Nat) : (results c n).length = n := by
  induction n generalizing c with
  | zero => rfl
  | succ n ih =>
    show (results (c + 1) n).length + 1 = n + 1
    rw [ih]

/-- After `n` results have been sent. -/
def filled (s : Client) (n : Nat) : Client :=
  { s with
    sendCh := s.sendCh ++ results s.calls n
    returned := s.returned ++ results s.calls n
    calls := s.calls + n }

/-- Filling the channel one by one. -/
theorem filled_filled (s : Client) (n : Nat) : filled (filled s 1) n = filled s (n + 1) := by
  have hnum : s.calls + 1 + n = s.calls + (n + 1) := by omega
  simp [filled, results, hnum]

/-- The three steps of one `Send` that finds room. -/
theorem exec_send {s : Client} (hst : s.stack (.sender 0) = [])
    (hfree : s.sendCh.length < capacity) :
    Run.exec step s (fill s.calls 1) = some (filled s 1) := by
  let m : Message := ⟨s.calls, .commandResult⟩
  let s₁ := callSend s (.sender 0) .commandResult []
  let s₂ := setStack s₁ (.sender 0) [.push m]
  have h₁ : step s (.send 0 .commandResult) = some s₁ :=
    Run.guardedStep_eq_some.mpr ⟨⟨fun _ => hst, trivial⟩, rfl⟩
  have h₂ : step s₁ (.go (.sender 0) (.enter m) []) = some s₂ := by
    have hin : s₁.stack (.sender 0) = [.enter m] := setStack_self s (.sender 0) _
    refine Run.guardedStep_eq_some.mpr ⟨⟨nofun, hin, nofun⟩, ?_⟩
    exact (advance_critical s₁ (.sender 0) [] (m := m) rfl).symm
  have h₃ : step s₂ (.go (.sender 0) (.push m) []) = some (enqueue s₂ (.sender 0) m []) :=
    Run.guardedStep_eq_some.mpr ⟨⟨nofun, setStack_self .., fun _ => hfree⟩, rfl⟩
  -- the call is over, and the stack is what it was
  have hback : Function.update (Function.update (Function.update s.stack (.sender 0) [.enter m])
      (.sender 0) [.push m]) (.sender 0) [] = s.stack := by
    rw [Function.update_idem, Function.update_idem, ← hst, Function.update_eq_self]
  have hend : enqueue s₂ (.sender 0) m [] = filled s 1 := by
    simp only [enqueue, setStack, callSend, filled, results, s₂, s₁]
    rw [hback]
  rw [← hend]
  exact Run.exec_cons_eq.mpr ⟨s₁, h₁, Run.exec_cons_eq.mpr ⟨s₂, h₂, Run.exec_cons_eq.mpr
    ⟨_, h₃, rfl⟩⟩⟩

/-- They all fit, up to the capacity of the channel. -/
theorem exec_fill (n : Nat) : ∀ (s : Client), s.stack (.sender 0) = [] →
    s.sendCh.length + n ≤ capacity → Run.exec step s (fill s.calls n) = some (filled s n) := by
  induction n with
  | zero =>
    intro s _ _
    show some s = some (filled s 0)
    rw [filled, results]
    simp
  | succ n ih =>
    intro s hst hcap
    have hsend := exec_send hst (by omega)
    have hlen : (filled s 1).sendCh.length = s.sendCh.length + 1 := List.length_append ..
    have hrest := ih (filled s 1) hst (by omega)
    rw [filled_filled] at hrest
    exact Run.exec_append hsend hrest

/-- The pump has taken a message; before it writes, the channel fills up.  The write fails, and the
    pump has to `Send` an event about it. -/
def writing : List Label :=
  [.check, .dial, .enter, .select, .send 0 .commandResult,
    .go (.sender 0) (.enter ⟨0, .commandResult⟩) [], .go (.sender 0) (.push ⟨0, .commandResult⟩) [],
    .receive (some 0) ⟨0, .commandResult⟩, .takeConn ⟨0, .commandResult⟩]

/-- The pump writes message `m`, in vain; `c` is the number of its event. -/
def tornDown (m : Message) (c : Nat) : List Label :=
  [.write 0 m false, .go .pump .log [], .go .pump (.enter ⟨c, .eventReport⟩) [], .readFails 0 false,
    .clear, .closeStop (some 0) (some 0), .closeConn (some 0)]

/-- `readLoop` waits and the pump is in `c.sendCh <- msg`, whatever the channel holds. -/
theorem exec_tornDown {s : Client} {m : Message} (hpump : s.pump = .writing 0 m)
    (hrun : s.run = .reading 0) (hconn : s.conn = some 0) (hstop : s.writeStop = some 0)
    (hst : s.stack = fun _ => []) :
    ∃ t, Run.exec step s (tornDown m s.calls) = some t ∧ t.run = .awaiting ∧
      t.stack .pump = [.push ⟨s.calls, .eventReport⟩] ∧ t.sendCh = s.sendCh ∧
      t.doneClosed = s.doneClosed := by
  let e : Message := ⟨s.calls, .eventReport⟩
  let s₁ : Client := { setStack s .pump [.log] with pump := .exiting }
  let s₂ := callSend s₁ .pump .eventReport []
  let s₃ := setStack s₂ .pump [.push e]
  have h₁ : step s (.write 0 m false) = some s₁ := by
    have hidle : s.stack .pump = [] := by rw [hst]
    exact Run.guardedStep_eq_some.mpr ⟨⟨fun _ => hidle, hpump, nofun⟩, rfl⟩
  have h₂ : step s₁ (.go .pump .log []) = some s₂ := by
    have hin : s₁.stack .pump = [.log] := setStack_self s .pump _
    have hup : s₁.conn.isSome = true := by
      show s.conn.isSome = true
      rw [hconn]
      rfl
    refine Run.guardedStep_eq_some.mpr ⟨⟨nofun, hin, nofun⟩, ?_⟩
    show s₂ = if s₁.conn.isSome then callSend s₁ .pump .eventReport [] else setStack s₁ .pump []
    rw [if_pos hup]
  have h₃ : step s₂ (.go .pump (.enter e) []) = some s₃ := by
    have hin : s₂.stack .pump = [.enter e] := setStack_self s₁ .pump _
    refine Run.guardedStep_eq_some.mpr ⟨⟨nofun, hin, nofun⟩, ?_⟩
    exact (advance_critical s₂ .pump [] (m := e) rfl).symm
  -- from here on nothing depends on the calls of the pump
  have hrest : ∃ t, Run.exec step s₃ [.readFails 0 false, .clear, .closeStop (some 0) (some 0),
      .closeConn (some 0)] = some t ∧ t.run = .awaiting ∧ t.stack .pump = s₃.stack .pump ∧
      t.sendCh = s₃.sendCh ∧ t.doneClosed = s₃.doneClosed := by
    obtain ⟨conn, writeStop, writeDone, sendCh, dialed, closed, stopClosed, doneClosed, calls,
      cancelled, run, pump, stack, returned, written⟩ := s
    cases hpump
    cases hrun
    cases hconn
    cases hstop
    cases hst
    exact ⟨_, rfl, rfl, rfl, rfl, rfl⟩
  obtain ⟨t, ht, hawait, hpush, hch, hclosed⟩ := hrest
  refine ⟨t, ?_, hawait, ?_, hch, hclosed⟩
  · exact Run.exec_cons_eq.mpr ⟨s₁, h₁, Run.exec_cons_eq.mpr ⟨s₂, h₂, Run.exec_cons_eq.mpr
      ⟨s₃, h₃, ht⟩⟩⟩
  · rw [hpush]
    exact setStack_self s₂ .pump _

/-- In `c.sendCh <- msg` with the channel full, the pump has no step. -/
theorem no_step_of_full {s : Client} {m : Message} (hst : s.stack .pump = [.push m])
    (hfull : s.sendCh.length = capacity) {l : Label} (hby : ByPump l) : step s l = none := by
  refine if_neg fun hen => ?_
  have hidle : outside l = true → False := by
    intro ho
    have hnil := hen.1 ho
    rw [show owner l = some .pump from hby] at hnil
    rw [show s.stack .pump = [] from hnil] at hst
    cases hst
  cases l with
  | go g f rest =>
    obtain rfl : g = .pump := Option.some.inj hby
    obtain ⟨hin, hpush⟩ := hen.2
    rw [hst] at hin
    cases hin
    have hlt := hpush rfl
    omega
  | _ => exact hidle rfl

/-- The pump waits for room that only the pump could make, and `readLoop` for the pump. -/
theorem pump_blocked :
    ∃ ls s, Run.exec step init ls = some s ∧ s.run = .awaiting ∧
      ¬ Run.Finishes step ByPump DoneClosed s := by
  obtain ⟨s, hs⟩ : ∃ s, Run.exec step init writing = some s := ⟨_, rfl⟩
  have hst : s.stack = fun _ => [] := by
    cases hs
    funext g
    cases g with
    | run => rfl
    | pump => rfl
    | sender n => cases n <;> rfl
  have hempty : s.sendCh = [] := by
    cases hs
    rfl
  have hopen : ∀ k, s.doneClosed k = false := by
    cases hs
    exact fun _ => rfl
  have hfill := exec_fill capacity s (by rw [hst]) (by rw [hempty]; exact Nat.le_refl _)
  have hlen : (filled s capacity).sendCh.length = capacity := by
    show (s.sendCh ++ results s.calls capacity).length = capacity
    rw [hempty, List.nil_append, length_results]
  obtain ⟨t, ht, hawait, hpump, hch, hdone⟩ :=
    exec_tornDown (s := filled s capacity) (m := ⟨0, .commandResult⟩)
      (by cases hs; rfl) (by cases hs; rfl) (by cases hs; rfl) (by cases hs; rfl) hst
  refine ⟨_, t, Run.exec_append hs (Run.exec_append hfill ht), hawait, ?_⟩
  rintro ⟨n, hfin⟩
  rcases (hfin [] t (fun _ h => nomatch h) rfl).2 with ⟨k, -, hclosed⟩ | ⟨l, hby, hsome⟩
  · rw [hdone] at hclosed
    rw [show (filled s capacity).doneClosed k = false from hopen k] at hclosed
    cases hclosed
  · rw [no_step_of_full hpump (by rw [hch, hlen]) hby] at hsome
    cases hsome

end Transport

end Agent

end Dtsys
