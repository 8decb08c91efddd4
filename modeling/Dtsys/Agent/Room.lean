/-
  WHO WAITS FOR A SLOT of `sendCh` when a connection is torn down?

  `readLoop` ends by waiting for `writeDone`, which the pump closes when it returns.  The pump is the
  only consumer of `sendCh`; yet when a ping or a write fails it LOGS A WARNING first, and while
  `c.conn` is still set the log forwarder makes an `event_report` of it, whose `Send` waits for room
  in `sendCh`.  If there is none, the pump waits for itself, and `Run` for the pump.

  `Run` is a sender, too: it answers pings, and a read error that it logs becomes an event.  Once the
  pump has left its loop, nobody makes room for that `Send` either, and `Run` does not even get to wait
  for the pump.

  So two slots of the channel may be spoken for (`needs`): that of the pump, from the moment
  `IsConnected` says yes until its event is queued, and that of `Run`, as long as it is in a call and
  the pump is past its loop.  `Room` says that a step leaves them free.  Steps that do keep the
  invariant `Inv`: there is a slot for everybody who needs one (`inv_step`).
-/
import Dtsys.Agent.Transport

namespace Dtsys

namespace Agent

/-- In `Send`, at or in front of `c.sendCh <- msg`. -/
def sending : List SendFrame → Bool
  | .enter _ :: _ | .push _ :: _ => true
  | _ => false

/-- In a call that may still put a message into `sendCh`. -/
def calling : List SendFrame → Bool
  | [] | .dropped _ :: _ => false
  | _ => true

/-- The step may put a message into `sendCh`. -/
def SendFrame.queues : SendFrame → Bool
  | .push _ | .offer _ => true
  | _ => false

/-- Before the clean-up has cleared the fields. -/
def RunPhase.up : RunPhase → Bool
  | .entering | .reading _ | .leaving => true
  | _ => false

/-- The channels and connections that the clean-up has in hand. -/
def RunPhase.numbers : RunPhase → List Nat
  | .releasing stop conn => stop.toList ++ conn.toList
  | .closing conn => conn.toList
  | _ => []

/-- Past its loop: nobody empties `sendCh` any more. -/
def PumpPhase.gone : PumpPhase → Bool
  | .exiting | .absent => true
  | _ => false

/-- The channel or the connection that the pump has in hand. -/
def PumpPhase.number : PumpPhase → Option Nat
  | .selecting stop => stop
  | .pinging k | .writing k _ => some k
  | _ => none

namespace Transport

/-! ## Slots that are spoken for -/

/-- The pump waits for a slot, in the `Send` of its warning. -/
def pumpNeeds (s : Client) : Nat := if sending (s.stack .pump) = true then 1 else 0

/-- `Run` is in a call, and nobody empties the channel. -/
structure Stranded (s : Client) : Prop where
  gone : s.pump.gone = true
  up : s.run.up = true
  calling : calling (s.stack .run) = true

instance (s : Client) : Decidable (Stranded s) :=
  decidable_of_iff (s.pump.gone = true ∧ s.run.up = true ∧ calling (s.stack .run) = true)
    ⟨fun h => ⟨h.1, h.2.1, h.2.2⟩, fun h => ⟨h.gone, h.up, h.calling⟩⟩

/-- `Run` waits for a slot, or may have to. -/
def runNeeds (s : Client) : Nat := if Stranded s then 1 else 0

/-- How many slots of `sendCh` have to be free. -/
def needs (s : Client) : Nat := pumpNeeds s + runNeeds s

/-- The step leaves the slots free that are needed.  A goroutine begins to need one when the warning of
    the pump becomes an event, and when `Run` answers a ping or logs a read error behind the pump; the
    pump that leaves its loop under a call of `Run` is needed no more, but a slot is. -/
def Room (s : Client) : Label → Prop
  | .go .pump .log _ => s.conn.isSome = true → s.sendCh.length + needs s < capacity
  | .go (.sender _) f _ => f.queues = true → 0 < needs s → s.sendCh.length + needs s < capacity
  | .pong _ | .readFails _ true => s.pump.gone = true → s.sendCh.length + needs s < capacity
  | .ping _ false | .write _ _ false => calling (s.stack .run) = true → s.sendCh.length < capacity
  | _ => True

instance (s : Client) : ∀ l, Decidable (Room s l)
  | .go .pump .log _ | .pong _ | .readFails _ true | .ping _ false | .write _ _ false =>
    inferInstanceAs (Decidable (_ → _))
  | .go (.sender _) _ _ => inferInstanceAs (Decidable (_ → _ → _))
  | .go .pump (.enter _) _ | .go .pump (.push _) _ | .go .pump (.offer _) _
  | .go .pump (.dropped _) _ | .go .run _ _ | .check | .dial | .dialFails | .enter
  | .readFails _ false | .shutdown _ | .clear | .closeStop .. | .closeConn _ | .await | .discard _
  | .drained | .retry | .select | .stop _ | .tick _ | .receive .. | .tickConn | .takeConn _
  | .ping _ true | .write _ _ true | .close | .send .. | .warn _ | .cancel =>
    inferInstanceAs (Decidable True)

/-- `c.writeDone` is closed. -/
def DoneClosed (s : Client) : Prop := ∃ k, s.writeDone = some k ∧ s.doneClosed k = true

/-- A step of the pump. -/
def ByPump (l : Label) : Prop := owner l = some .pump

/-- A step of the pump or of `Run`. -/
def ByPumpOrRun (l : Label) : Prop := owner l = some .pump ∨ owner l = some .run

/-! ## The invariant -/

/-- The calls the pump can be in: its warning, and the `Send` of the event made of it. -/
inductive PumpCalls (s : Client) : Prop
  | none (h : s.stack .pump = [])
  | log (hp : s.pump = .exiting) (h : s.stack .pump = [.log])
  | enter (m : Message) (hm : m.type = .eventReport) (hp : s.pump = .exiting)
      (h : s.stack .pump = [.enter m])
  | push (m : Message) (hp : s.pump = .exiting) (h : s.stack .pump = [.push m])

/-- Under a warning of `Run` there is at most the `Send` of a pong that is not queued. -/
def Returning (rest : List SendFrame) : Prop := rest = [] ∨ ∃ m, rest = [.dropped m]

/-- The calls `Run` can be in: the `Send` of its pong, its warning, and the `Send` of the event made
    of it. -/
inductive RunStack : List SendFrame → Prop
  | idle : RunStack []
  | pong (m : Message) (hm : m.type.isCritical = false) : RunStack [.enter m]
  | offer (m : Message) : RunStack [.offer m]
  | dropped (m : Message) : RunStack [.dropped m]
  | log (rest : List SendFrame) (h : Returning rest) : RunStack (.log :: rest)
  | event (m : Message) (hm : m.type.isCritical = true) (rest : List SendFrame) (h : Returning rest) :
      RunStack (.enter m :: rest)
  | push (m : Message) (rest : List SendFrame) (h : Returning rest) : RunStack (.push m :: rest)

/-- The client, the pump or the clean-up has the number `k` in hand. -/
def Holds (s : Client) (k : Nat) : Prop :=
  s.conn = some k ∨ s.writeStop = some k ∨ s.pump.number = some k ∨ k ∈ s.run.numbers

/-- Everything that is in hand is of the last connection, which nobody has closed while it is up. -/
structure Numbered (s : Client) : Prop where
  held : ∀ k, Holds s k → k + 1 = s.dialed
  ended : ∀ k, s.stopClosed k = true ∨ s.closed k = true →
    k + 1 ≤ s.dialed ∧ (k + 1 = s.dialed → s.run.up = false)

/-- What holds of the client in every state of the run. -/
structure Inv (s : Client) : Prop where
  one : OnePump s
  conn : s.conn.isSome = s.run.up
  numbered : Numbered s
  calls : PumpCalls s
  runStack : RunStack (s.stack .run)
  /-- without a connection `Run` is in no call, but for the warning of a failed dial -/
  down : s.run.up = false → s.stack .run = [] ∨ s.run = .backoff ∧ s.stack .run = [.log]
  gone : s.run.connected = true → ∃ k, s.writeDone = some k ∧ (s.pump = .absent → s.doneClosed k = true)
  room : s.sendCh.length + needs s ≤ capacity

theorem inv_init : Inv init where
  one := onePump_init
  conn := rfl
  numbered := ⟨fun k h => by simp [Holds, init, PumpPhase.number, RunPhase.numbers] at h, fun k h => by
    simp [init] at h⟩
  calls := .none rfl
  runStack := .idle
  down := fun _ => .inl rfl
  gone := fun h => by cases h
  room := by decide

section

variable {s s' : Client}

/-! ## What a step keeps, field by field -/

/-- Where `Run` looks at `ctx`, it has no connection. -/
theorem up_ite (cancelled : Bool) {p : RunPhase} (hp : p.up = false) :
    (if cancelled = true then RunPhase.stopped else p).up = false := by
  cases cancelled with
  | true => rfl
  | false => exact hp

/-- There is a connection exactly until the clean-up clears the field. -/
theorem conn_step {l : Label} (hs : step s l = some s') (h : s.conn.isSome = s.run.up) :
    s'.conn.isSome = s'.run.up := by
  obtain ⟨⟨-, hen⟩, rfl⟩ := Run.guardedStep_eq_some.mp hs
  -- `Run` goes on from a phase to one that is alike
  have hsame : ∀ {p q : RunPhase}, s.run = p → q.up = p.up → s.conn.isSome = q.up := by
    intro p q hp hup
    rw [hup, ← hp]
    exact h
  cases l with
  | check => exact hsame hen (up_ite s.cancelled rfl)
  | dial => rfl
  | dialFails => exact hsame hen rfl
  | enter =>
    dsimp only [effect]
    cases hconn : s.conn with
    | none =>
      rw [hconn, show s.run = .entering from hen] at h
      cases h
    | some k => rfl
  | readFails k logged => exact hsame hen rfl
  | shutdown k => exact hsame hen.1 rfl
  | clear => rfl
  | closeStop stop conn => exact hsame hen rfl
  | closeConn conn => exact hsame hen rfl
  | await => exact hsame hen.1 rfl
  | drained => exact hsame hen.1 (up_ite s.cancelled rfl)
  | retry => exact hsame hen (up_ite s.cancelled rfl)
  | ping k ok =>
    cases ok with
    | true => exact h
    | false => exact h
  | write k m ok =>
    cases ok with
    | true => exact h
    | false => exact h
  | go g f rest =>
    have hf := (advanced s g rest f).untouched
    show (advance s g rest f).conn.isSome = (advance s g rest f).run.up
    rw [hf.conn, hf.run]
    exact h
  | _ => exact h

/-- A step that does not dial takes nothing of another connection in hand. -/
theorem Numbered.move (h : Numbered s) (hdialed : s'.dialed = s.dialed) (hheld : ∀ k, Holds s' k → Holds s k)
    (hended : ∀ k, s'.stopClosed k = true ∨ s'.closed k = true →
      (s.stopClosed k = true ∨ s.closed k = true) ∨ Holds s k ∧ s'.run.up = false)
    (hup : s.run.up = false → s'.run.up = false) : Numbered s' := by
  refine ⟨fun k hk => ?_, fun k hk => ?_⟩
  · rw [hdialed]
    exact h.held k (hheld k hk)
  · rw [hdialed]
    rcases hended k hk with hold | ⟨hin, hdown⟩
    · exact ⟨(h.ended k hold).1, fun heq => hup ((h.ended k hold).2 heq)⟩
    · exact ⟨Nat.le_of_eq (h.held k hin), fun _ => hdown⟩

/-- A channel that is closed now was closed before, or is the one that a step closes. -/
theorem closeChan_eq_true {chans : Nat → Bool} {o : Option Nat} {k : Nat} (h : closeChan chans o k = true) :
    chans k = true ∨ o = some k := by
  cases o with
  | none => exact .inl h
  | some j =>
    by_cases hkj : k = j
    · exact .inr (hkj ▸ rfl)
    · rw [closeChan, Function.update_of_ne hkj] at h
      exact .inl h

/-- Where `Run` goes on without a channel or a connection in hand. -/
theorem Numbered.run (h : Numbered s) {p : RunPhase} (hnumbers : p.numbers = [])
    (hup : s.run.up = false → p.up = false) : Numbered { s with run := p } := by
  refine h.move rfl (fun k hk => ?_) (fun k hk => .inl hk) hup
  rcases hk with hk | hk | hk | hk
  · exact .inl hk
  · exact .inr (.inl hk)
  · exact .inr (.inr (.inl hk))
  · rw [show ({ s with run := p } : Client).run.numbers = [] from hnumbers] at hk
    cases hk

/-- Where the pump goes on, with what it has found in a field. -/
theorem Numbered.pump (h : Numbered s) {p : PumpPhase} (hnumber : ∀ k, p.number = some k → Holds s k) :
    Numbered { s with pump := p } := by
  refine h.move rfl (fun k hk => ?_) (fun k hk => .inl hk) id
  rcases hk with hk | hk | hk | hk
  · exact .inl hk
  · exact .inr (.inl hk)
  · exact hnumber k hk
  · exact .inr (.inr (.inr hk))

/-- What the numbers of the connections are read from. -/
theorem Numbered.same (h : Numbered s) (hdialed : s'.dialed = s.dialed) (hconn : s'.conn = s.conn)
    (hstop : s'.writeStop = s.writeStop) (hpump : s'.pump = s.pump) (hrun : s'.run = s.run)
    (hstopClosed : s'.stopClosed = s.stopClosed) (hclosed : s'.closed = s.closed) : Numbered s' := by
  refine h.move hdialed (fun k hk => ?_) (fun k hk => .inl ?_) fun hup => hrun ▸ hup
  · rw [Holds, hconn, hstop, hpump, hrun] at hk
    exact hk
  · rwa [hstopClosed, hclosed] at hk

/-- A goroutine in `Send` closes nothing. -/
theorem Advanced.fields {g : Goroutine} {rest : List SendFrame} {f : SendFrame} {t : Client}
    (h : Advanced s g rest f t) :
    t.writeStop = s.writeStop ∧ t.stopClosed = s.stopClosed ∧ t.closed = s.closed := by
  cases h <;> exact ⟨rfl, rfl, rfl⟩

/-- Every step keeps the numbers. -/
theorem numbered_step {l : Label} (hs : step s l = some s') (h : Numbered s) : Numbered s' := by
  obtain ⟨⟨-, hen⟩, rfl⟩ := Run.guardedStep_eq_some.mp hs
  have hnone : ∀ {p : PumpPhase}, p.number = none → ∀ k, p.number = some k → Holds s k := by
    intro p hp k hk
    rw [hp] at hk
    cases hk
  have hlogged : ∀ {p : RunPhase} {fs : List SendFrame}, p.numbers = [] → (s.run.up = false → p.up = false) →
      Numbered { setStack s .run fs with run := p } := fun hnumbers hup =>
    (h.run hnumbers hup).same rfl rfl rfl rfl rfl rfl rfl
  -- What a phase of the pump or of Run holds is a number below `dialed`, so only `dial` makes a new one, and
  -- only the two closing steps of `readLoop` end one.
  cases l with
  | check =>
    refine h.run ?_ fun _ => up_ite s.cancelled rfl
    cases s.cancelled <;> rfl
  | dial =>
    refine ⟨fun k hk => ?_, fun k hk => ?_⟩
    · simp only [Holds, effect, PumpPhase.number, RunPhase.numbers, Option.some.injEq, reduceCtorEq,
        List.not_mem_nil, or_false] at hk
      rcases hk with rfl | rfl <;> rfl
    · have hle := (h.ended k hk).1
      refine ⟨Nat.le_succ_of_le hle, fun heq => ?_⟩
      have heq : k + 1 = s.dialed + 1 := heq
      omega
  | dialFails => exact hlogged rfl fun _ => rfl
  | enter =>
    have hup : s.run.up = true := by
      rw [show s.run = .entering from hen]
      rfl
    refine h.run ?_ fun hdown => absurd (hup.symm.trans hdown) (by simp)
    cases s.conn <;> rfl
  | readFails k logged =>
    refine hlogged rfl fun hdown => ?_
    rw [show s.run = .reading k from hen] at hdown
    cases hdown
  | shutdown k =>
    refine h.run rfl fun hdown => ?_
    rw [show s.run = .reading k from hen.1] at hdown
    cases hdown
  | clear =>
    refine h.move rfl (fun k hk => ?_) (fun k hk => .inl hk) fun _ => rfl
    simp only [Holds, effect, RunPhase.numbers, List.mem_append, Option.mem_toList, reduceCtorEq, false_or] at hk
    rcases hk with hk | hk | hk
    · exact .inr (.inr (.inl hk))
    · exact .inr (.inl hk)
    · exact .inl hk
  -- What is closed is what readLoop has in hand, and Run is not up any more.
  | closeStop stop conn =>
    have hnumbers : s.run.numbers = stop.toList ++ conn.toList := by
      rw [show s.run = .releasing stop conn from hen]
      rfl
    refine h.move rfl (fun k hk => ?_) (fun k hk => ?_) fun _ => rfl
    · rcases hk with hk | hk | hk | hk
      · exact .inl hk
      · exact .inr (.inl hk)
      · exact .inr (.inr (.inl hk))
      · exact .inr (.inr (.inr (hnumbers ▸ List.mem_append_right _ hk)))
    · rcases hk with hk | hk
      · rcases closeChan_eq_true hk with hold | rfl
        · exact .inl (.inl hold)
        · refine .inr ⟨.inr (.inr (.inr ?_)), rfl⟩
          rw [hnumbers]
          exact List.mem_append_left _ (List.mem_singleton_self k)
      · exact .inl (.inr hk)
  | closeConn conn =>
    have hnumbers : s.run.numbers = conn.toList := by
      rw [show s.run = .closing conn from hen]
      rfl
    refine h.move rfl (fun k hk => ?_) (fun k hk => ?_) fun _ => rfl
    · rcases hk with hk | hk | hk | hk
      · exact .inl hk
      · exact .inr (.inl hk)
      · exact .inr (.inr (.inl hk))
      · cases hk
    · rcases hk with hk | hk
      · exact .inl (.inl hk)
      · rcases closeChan_eq_true hk with hold | rfl
        · exact .inl (.inr hold)
        · refine .inr ⟨.inr (.inr (.inr ?_)), rfl⟩
          rw [hnumbers]
          exact List.mem_singleton_self k
  | await => exact h.run rfl fun _ => rfl
  | drained =>
    refine h.run ?_ fun _ => up_ite s.cancelled rfl
    cases s.cancelled <;> rfl
  | retry =>
    refine h.run ?_ fun _ => up_ite s.cancelled rfl
    cases s.cancelled <;> rfl
  | select => exact h.pump fun k hk => .inr (.inl hk)
  | stop k => exact h.pump (hnone rfl)
  | tick stop => exact h.pump (hnone rfl)
  | receive stop m =>
    exact (h.pump (p := .took m) (hnone rfl)).same rfl rfl rfl rfl rfl rfl rfl
  -- The pump reads `c.conn`: the number it goes on with is the one in the field.
  | tickConn =>
    refine h.pump fun k hk => .inl ?_
    cases hconn : s.conn with
    | none =>
      rw [hconn] at hk
      cases hk
    | some j =>
      rw [hconn] at hk
      exact hk
  | takeConn m =>
    refine h.pump fun k hk => .inl ?_
    cases hconn : s.conn with
    | none =>
      rw [hconn] at hk
      cases hk
    | some j =>
      rw [hconn] at hk
      exact hk
  | ping k ok =>
    cases ok with
    | true => exact h.pump (hnone rfl)
    | false => exact (h.pump (p := .exiting) (hnone rfl)).same rfl rfl rfl rfl rfl rfl rfl
  | write k m ok =>
    cases ok with
    | true => exact (h.pump (p := .looping) (hnone rfl)).same rfl rfl rfl rfl rfl rfl rfl
    | false => exact (h.pump (p := .exiting) (hnone rfl)).same rfl rfl rfl rfl rfl rfl rfl
  | close => exact (h.pump (p := .absent) (hnone rfl)).same rfl rfl rfl rfl rfl rfl rfl
  | go g f rest =>
    have hf := advanced s g rest f
    obtain ⟨hstop, hstopClosed, hclosed⟩ := hf.fields
    exact h.same hf.untouched.dialed hf.untouched.conn hstop hf.untouched.pump hf.untouched.run hstopClosed hclosed
  | _ => exact h.same rfl rfl rfl rfl rfl rfl rfl

/-! ## The calls of `Run` -/

/-- A call of `Run` goes on to one of its calls. -/
theorem runStack_advance {f : SendFrame} {rest : List SendFrame} {t : Client} (h : RunStack (f :: rest))
    (ht : Advanced s .run rest f t) : RunStack (t.stack .run) := by
  have hback : ∀ {rest : List SendFrame}, Returning rest → RunStack rest := by
    rintro rest (rfl | ⟨m, rfl⟩)
    · exact .idle
    · exact .dropped m
  have hset := setStack_self s .run
  -- One case for each statement of Send and of the handler; in most of them the stack allows one call only.
  cases ht with
  | @skips m hdrop =>
    rw [hset]
    cases h with
    | pong _ _ => exact .log _ (.inr ⟨m, rfl⟩)
    | event _ hm _ _ =>
      rw [MsgType.not_critical_of_drop hdrop] at hm
      cases hm
  | @blocks m =>
    rw [hset]
    cases h with
    | pong _ _ => exact .push m [] (.inl rfl)
    | event _ _ _ hrest => exact .push m rest hrest
  | @offers m hcrit =>
    rw [hset]
    cases h with
    | pong _ _ => exact .offer m
    | event _ hm _ _ =>
      rw [hcrit] at hm
      cases hm
  -- The message is in the channel: the call returns to what is under it.
  | pushed =>
    rw [show ∀ m, (enqueue s .run m rest).stack .run = rest from fun m => hset rest]
    cases h with
    | push _ _ hrest => exact hback hrest
  | taken =>
    rw [show ∀ m, (enqueue s .run m rest).stack .run = rest from fun m => hset rest]
    cases h with
    | offer _ => exact .idle
  | @full m =>
    rw [hset]
    cases h with
    | offer _ => exact .log _ (.inr ⟨m, rfl⟩)
  | dropped =>
    show RunStack ((setStack s .run rest).stack .run)
    rw [hset]
    cases h with
    | dropped _ => exact .idle
  | forwarded =>
    show RunStack ((setStack s .run _).stack .run)
    rw [hset]
    cases h with
    | log _ hrest => exact .event _ rfl rest hrest
  | printed =>
    rw [hset]
    cases h with
    | log _ hrest => exact hback hrest

/-- `Run` sends a pong, and logs an error; other goroutines leave its stack alone. -/
theorem runStack_step {l : Label} (hs : step s l = some s') (h : RunStack (s.stack .run)) :
    RunStack (s'.stack .run) := by
  obtain ⟨⟨-, hen⟩, rfl⟩ := Run.guardedStep_eq_some.mp hs
  have hset := setStack_self s .run
  have hne : ∀ (g : Goroutine) (fs : List SendFrame), .run ≠ g →
      (setStack s g fs).stack .run = s.stack .run := fun g fs hg => setStack_of_ne s hg fs
  have hother : ∀ {t : Client}, t.stack .run = s.stack .run → RunStack (t.stack .run) := by
    intro t ht
    rw [ht]
    exact h
  cases l with
  | dialFails =>
    show RunStack ((setStack s .run [.log]).stack .run)
    rw [hset]
    exact .log [] (.inl rfl)
  | pong k =>
    show RunStack ((setStack s .run [.enter ⟨s.calls, .pong⟩]).stack .run)
    rw [hset]
    exact .pong _ rfl
  | readFails k logged =>
    show RunStack ((setStack s .run _).stack .run)
    rw [hset]
    cases logged with
    | true => exact .log [] (.inl rfl)
    | false => exact .idle
  -- What the pump and the senders push is on stacks of their own.
  | ping k ok =>
    cases ok with
    | true => exact h
    | false => exact hother (hne .pump [.log] (by simp))
  | write k m ok =>
    cases ok with
    | true => exact h
    | false => exact hother (hne .pump [.log] (by simp))
  | send n ty => exact hother (hne (.sender n) [.enter ⟨s.calls, ty⟩] (by simp))
  | warn n => exact hother (hne (.sender n) [.log] (by simp))
  | go g f rest =>
    have hf := advanced s g rest f
    by_cases hg : g = .run
    · subst hg
      exact runStack_advance (hen.1 ▸ h) hf
    · show RunStack ((advance s g rest f).stack .run)
      rw [hf.stack fun he => hg he.symm]
      exact h
  | _ => exact h

/-- Once the fields are cleared `Run` is in no call, but for the warning of a failed dial, of which no
    event is made. -/
theorem down_step {l : Label} (hs : step s l = some s') (hconn : s.conn.isSome = s.run.up)
    (h : s.run.up = false → s.stack .run = [] ∨ s.run = .backoff ∧ s.stack .run = [.log]) :
    s'.run.up = false → s'.stack .run = [] ∨ s'.run = .backoff ∧ s'.stack .run = [.log] := by
  obtain ⟨⟨hidle, hen⟩, rfl⟩ := Run.guardedStep_eq_some.mp hs
  have hne : ∀ (g : Goroutine) (fs : List SendFrame), .run ≠ g →
      (setStack s g fs).stack .run = s.stack .run := fun g fs hg => setStack_of_ne s hg fs
  have hother : ∀ {t : Client}, t.stack .run = s.stack .run → t.run = s.run →
      t.run.up = false → t.stack .run = [] ∨ t.run = .backoff ∧ t.stack .run = [.log] := by
    intro t ht hrun
    rw [ht, hrun]
    exact h
  cases l with
  | dialFails => exact fun _ => .inr ⟨rfl, setStack_self s .run [.log]⟩
  | pong k =>
    intro hup
    have hup : s.run.up = false := hup
    rw [show s.run = .reading k from hen] at hup
    cases hup
  | readFails k logged => exact fun hup => nomatch hup
  | ping k ok =>
    cases ok with
    | true => exact h
    | false => exact hother (hne .pump [.log] (by simp)) rfl
  | write k m ok =>
    cases ok with
    | true => exact h
    | false => exact hother (hne .pump [.log] (by simp)) rfl
  | send n ty => exact hother (hne (.sender n) [.enter ⟨s.calls, ty⟩] (by simp)) rfl
  | warn n => exact hother (hne (.sender n) [.log] (by simp)) rfl
  | go g f rest =>
    have hf := advanced s g rest f
    intro hup
    have hdown : s.run.up = false := hf.untouched.run ▸ hup
    show (advance s g rest f).stack .run = [] ∨
      (advance s g rest f).run = .backoff ∧ (advance s g rest f).stack .run = [.log]
    by_cases hg : g = .run
    · subst hg
      rcases h hdown with hnil | ⟨-, hlog⟩
      · rw [hen.1] at hnil
        cases hnil
      · obtain ⟨rfl, rfl⟩ := List.cons.inj (hen.1.symm.trans hlog)
        -- There is no connection, so forwardingHandler only prints the record.
        have hnone : ¬ s.conn.isSome = true := by
          rw [hconn, hdown]
          decide
        refine .inl ?_
        rw [advance, if_neg hnone]
        exact setStack_self ..
    · rw [hf.stack fun he => hg he.symm, hf.untouched.run]
      exact h hdown
  | select => exact h
  | stop k => exact h
  | tick stop => exact h
  | receive stop m => exact h
  | tickConn => exact h
  | takeConn m => exact h
  | close => exact h
  | cancel => exact h
  | _ => exact fun _ => .inl (hidle rfl)

/-- The calls of the pump go on. -/
theorem pumpCalls_advance {f : SendFrame} {rest : List SendFrame}
    (hstack : s.stack .pump = f :: rest) (h : PumpCalls s) : PumpCalls (advance s .pump rest f) := by
  have hset := setStack_self s .pump
  cases h with
  | none h =>
    rw [h] at hstack
    cases hstack
  | log he h =>
    rw [h] at hstack
    cases hstack
    unfold advance
    dsimp only
    split
    · exact .enter ⟨s.calls, .eventReport⟩ rfl he (hset _)
    · exact .none (hset _)
  | enter m hm he h =>
    rw [h] at hstack
    cases hstack
    rw [advance_critical s .pump [] (m := m) (by rw [hm]; rfl)]
    exact .push m he (hset _)
  | push m he h =>
    rw [h] at hstack
    cases hstack
    exact .none (hset _)

/-- The pump logs when a write fails, and otherwise calls nothing. -/
theorem calls_step {l : Label} (hone : OnePump s) (hs : step s l = some s') (h : PumpCalls s) :
    PumpCalls s' := by
  obtain ⟨⟨hidle, hen⟩, rfl⟩ := Run.guardedStep_eq_some.mp hs
  -- a step of another goroutine
  have hsame : ∀ {t : Client}, t.pump = s.pump → t.stack .pump = s.stack .pump → PumpCalls t := by
    intro t hp hst
    cases h with
    | none h => exact .none (hst.trans h)
    | log he h => exact .log (hp.trans he) (hst.trans h)
    | enter m hm he h => exact .enter m hm (hp.trans he) (hst.trans h)
    | push m he h => exact .push m (hp.trans he) (hst.trans h)
  have hlog := setStack_self s .pump [.log]
  cases l with
  -- the old pump is gone: its stack is empty
  | dial =>
    have hexit : s.pump ≠ .exiting := by
      intro he
      have hc := hone.connected (by rw [he]; simp)
      rw [show s.run = .dialing from hen] at hc
      cases hc
    cases h with
    | none h => exact .none h
    | log he h => exact absurd he hexit
    | enter m hm he h => exact absurd he hexit
    | push m he h => exact absurd he hexit
  | select => exact .none (hidle rfl)
  | stop k => exact .none (hidle rfl)
  | tick stop => exact .none (hidle rfl)
  | receive stop m => exact .none (hidle rfl)
  | tickConn => exact .none (hidle rfl)
  | takeConn m => exact .none (hidle rfl)
  | ping k ok =>
    cases ok with
    | true => exact .none (hidle rfl)
    | false => exact .log rfl hlog
  | write k m ok =>
    cases ok with
    | true => exact .none (hidle rfl)
    | false => exact .log rfl hlog
  | close => exact .none (hidle rfl)
  | go g f rest =>
    have hf := (advanced s g rest f).untouched
    by_cases hg : g = .pump
    · subst hg
      exact pumpCalls_advance hen.1 h
    · exact hsame hf.pump ((advanced s g rest f).stack fun he => hg he.symm)
  | _ => exact hsame rfl rfl

/-- When the pump is gone, it has closed `c.writeDone`. -/
theorem gone_step {l : Label} (hs : step s l = some s')
    (h : s.run.connected = true →
      ∃ k, s.writeDone = some k ∧ (s.pump = .absent → s.doneClosed k = true)) :
    s'.run.connected = true →
      ∃ k, s'.writeDone = some k ∧ (s'.pump = .absent → s'.doneClosed k = true) := by
  obtain ⟨⟨-, hen⟩, rfl⟩ := Run.guardedStep_eq_some.mp hs
  -- the pump goes on
  have hlive : ∀ {q : PumpPhase}, q ≠ .absent → s.run.connected = true →
      ∃ k, s.writeDone = some k ∧ (q = .absent → s.doneClosed k = true) := by
    intro q hq hc
    obtain ⟨k, hk, -⟩ := h hc
    exact ⟨k, hk, fun hq' => absurd hq' hq⟩
  -- `Run` goes on
  have hrun : ∀ {p : RunPhase} {P : Prop}, s.run = p → p.connected = true → P →
      ∃ k, s.writeDone = some k ∧ (s.pump = .absent → s.doneClosed k = true) :=
    fun hp hpc _ => h (by rw [hp]; exact hpc)
  cases l with
  | check =>
    intro hc
    dsimp only [effect] at hc
    cases hx : s.cancelled <;> simp [hx, RunPhase.connected] at hc
  | dial => exact fun _ => ⟨s.dialed, rfl, fun hp => nomatch hp⟩
  | dialFails => exact fun hc => nomatch hc
  | enter => exact hrun hen rfl
  | readFails k logged => exact hrun hen rfl
  | shutdown k => exact hrun hen.1 rfl
  | clear => exact hrun hen rfl
  | closeStop stop conn => exact hrun hen rfl
  | closeConn conn => exact hrun hen rfl
  | await => exact fun hc => nomatch hc
  | drained =>
    intro hc
    dsimp only [effect] at hc
    cases hx : s.cancelled <;> simp [hx, RunPhase.connected] at hc
  | retry =>
    intro hc
    dsimp only [effect] at hc
    cases hx : s.cancelled <;> simp [hx, RunPhase.connected] at hc
  | select => exact hlive (by simp [effect])
  | stop k => exact hlive (by simp [effect])
  | tick stop => exact hlive (by simp [effect])
  | receive stop m => exact hlive (by simp [effect])
  | tickConn =>
    refine hlive ?_
    dsimp only [effect]
    cases s.conn with
    | none => simp
    | some k => simp
  | takeConn m =>
    refine hlive ?_
    dsimp only [effect]
    cases s.conn with
    | none => simp
    | some k => simp
  | ping k ok =>
    cases ok with
    | true => exact hlive (by simp [effect])
    | false => exact hlive (by simp [effect])
  | write k m ok =>
    cases ok with
    | true => exact hlive (by simp [effect])
    | false => exact hlive (by simp [effect])
  | close =>
    intro hc
    obtain ⟨k, hk, -⟩ := h hc
    refine ⟨k, hk, fun _ => ?_⟩
    show closeChan s.doneClosed s.writeDone k = true
    rw [hk]
    exact Function.update_self ..
  | go g f rest =>
    have hf := (advanced s g rest f).untouched
    show (advance s g rest f).run.connected = true → ∃ k, (advance s g rest f).writeDone = some k ∧
      ((advance s g rest f).pump = .absent → (advance s g rest f).doneClosed k = true)
    rw [hf.run, hf.writeDone, hf.pump, hf.doneClosed]
    exact h
  | _ => exact h

/-- A call puts at most one message into `sendCh`, and only at the end of `Send`. -/
theorem advance_length {g : Goroutine} {rest : List SendFrame} {f : SendFrame} {t : Client}
    (h : Advanced s g rest f t) : t.sendCh.length ≤ s.sendCh.length + if f.queues then 1 else 0 := by
  have hadd : ∀ m : Message, (s.sendCh ++ [m]).length ≤ s.sendCh.length + 1 := fun m => by
    rw [List.length_append]
    exact Nat.le_refl _
  cases h with
  | pushed => exact hadd _
  | taken => exact hadd _
  | _ => exact Nat.le_add_right ..


/-! ## Room for what is needed -/

/-- The pump needs no more than before, if it was in the `Send` already. -/
theorem pumpNeeds_le (h : sending (s'.stack .pump) = true → sending (s.stack .pump) = true) :
    pumpNeeds s' ≤ pumpNeeds s := by
  rw [pumpNeeds, pumpNeeds]
  split
  · rename_i hsending
    exact Nat.le_of_eq (if_pos (h hsending)).symm
  · exact Nat.zero_le _

/-- So does `Run`. -/
theorem runNeeds_le (h : Stranded s' → Stranded s) : runNeeds s' ≤ runNeeds s := by
  rw [runNeeds, runNeeds]
  split
  · rename_i hstranded
    exact Nat.le_of_eq (if_pos (h hstranded)).symm
  · exact Nat.zero_le _

theorem pumpNeeds_of_not (h : sending (s.stack .pump) = false) : pumpNeeds s = 0 :=
  if_neg (by simp [h])

theorem runNeeds_of_not (h : ¬ Stranded s) : runNeeds s = 0 := if_neg h

theorem pumpNeeds_le_one (s : Client) : pumpNeeds s ≤ 1 := by
  rw [pumpNeeds]
  split
  · exact Nat.le_refl _
  · exact Nat.zero_le _

theorem runNeeds_le_one (s : Client) : runNeeds s ≤ 1 := by
  rw [runNeeds]
  split
  · exact Nat.le_refl _
  · exact Nat.zero_le _

/-- The pump that sends is past its loop. -/
theorem PumpCalls.gone (h : PumpCalls s) (hsending : sending (s.stack .pump) = true) : s.pump.gone = true := by
  cases h with
  | none h =>
    rw [h] at hsending
    cases hsending
  | log hp h =>
    rw [h] at hsending
    cases hsending
  | enter m hm hp h => rw [hp]; rfl
  | push m hp h => rw [hp]; rfl

/-- As long as the pump is in its loop, no slot is needed. -/
theorem needs_of_loop (h : PumpCalls s) (hpump : s.pump.gone = false) : needs s = 0 := by
  have hpumpNeeds : pumpNeeds s = 0 := by
    refine if_neg fun hsending => ?_
    rw [h.gone hsending] at hpump
    cases hpump
  have hrunNeeds : runNeeds s = 0 := by
    refine runNeeds_of_not fun hstranded => ?_
    have hgone := hstranded.gone
    rw [hpump] at hgone
    cases hgone
  rw [needs, hpumpNeeds, hrunNeeds]

/-- A call leaves the channel within its capacity. -/
theorem advance_le (h : s.sendCh.length ≤ capacity) {g : Goroutine} {f : SendFrame} {rest : List SendFrame}
    (hpush : f.isPush = true → s.sendCh.length < capacity) : (advance s g rest f).sendCh.length ≤ capacity := by
  have hadd : ∀ m : Message, s.sendCh.length < capacity → (s.sendCh ++ [m]).length ≤ capacity := by
    intro m hlt
    rw [List.length_append]
    exact hlt
  cases f with
  | push m => exact hadd m (hpush rfl)
  | offer m =>
    rw [advance]
    split
    · rename_i hlt
      exact hadd m hlt
    · exact h
  | enter m =>
    have hlen := advance_length (advanced s g rest (.enter m))
    exact Nat.le_trans hlen h
  | dropped m => exact h
  | log =>
    have hlen := advance_length (advanced s g rest .log)
    exact Nat.le_trans hlen h

/-- The pump goes on from its warning to its event, if there is a slot for it, and puts it there. -/
theorem advance_pump_room {f : SendFrame} {rest : List SendFrame}
    (hstack : s.stack .pump = f :: rest) (hcalls : PumpCalls s) (hl : Room s (.go .pump f rest))
    (h : s.sendCh.length + needs s ≤ capacity) :
    (advance s .pump rest f).sendCh.length + needs (advance s .pump rest f) ≤ capacity := by
  have hf := advanced s .pump rest f
  have hrun : runNeeds (advance s .pump rest f) ≤ runNeeds s := runNeeds_le fun hstranded =>
    ⟨hf.untouched.pump ▸ hstranded.gone, hf.untouched.run ▸ hstranded.up,
      hf.stack (show Goroutine.run ≠ .pump by simp) ▸ hstranded.calling⟩
  have hlen := advance_length hf
  rw [needs] at h ⊢
  cases hcalls with
  | none hst =>
    rw [hst] at hstack
    cases hstack
  | log hp hst =>
    rw [hst] at hstack
    cases hstack
    have hle : (advance s .pump [] .log).sendCh.length ≤ s.sendCh.length := hlen
    by_cases hconn : s.conn.isSome = true
    -- here the condition on the run is used: there is a slot when `Send` is entered
    · have hfree : s.sendCh.length + needs s < capacity := hl hconn
      have hone := pumpNeeds_le_one (advance s .pump [] .log)
      rw [needs, pumpNeeds_of_not (by rw [hst]; rfl)] at hfree
      omega
    · have hzero : pumpNeeds (advance s .pump [] .log) = 0 := by
        refine pumpNeeds_of_not ?_
        rw [advance, if_neg hconn, setStack_self]
        rfl
      omega
  | enter m hm hp hst =>
    have hle : (advance s .pump rest f).sendCh.length ≤ s.sendCh.length := by
      rw [hst] at hstack
      cases hstack
      exact hlen
    have hkeep : pumpNeeds (advance s .pump rest f) ≤ pumpNeeds s := pumpNeeds_le fun _ => by rw [hst]; rfl
    omega
  | push m hp hst =>
    have hone : pumpNeeds s = 1 := if_pos (by rw [hst]; rfl)
    rw [hst] at hstack
    cases hstack
    have hle : (advance s .pump [] (.push m)).sendCh.length ≤ s.sendCh.length + 1 := hlen
    have hzero : pumpNeeds (advance s .pump [] (.push m)) = 0 := by
      refine pumpNeeds_of_not ?_
      show sending ((setStack s .pump []).stack .pump) = false
      rw [setStack_self]
      rfl
    omega

/-- `Run` puts its message where a slot was kept for it, or where the pump makes room. -/
theorem advance_run_room {f : SendFrame} {rest : List SendFrame} (hstack : s.stack .run = f :: rest)
    (hcalls : PumpCalls s) (hshape : RunStack (s.stack .run)) (hup : s.run.up = true)
    (hpush : f.isPush = true → s.sendCh.length < capacity) (h : s.sendCh.length + needs s ≤ capacity) :
    (advance s .run rest f).sendCh.length + needs (advance s .run rest f) ≤ capacity := by
  have hf := advanced s .run rest f
  have hpumpNeeds : pumpNeeds (advance s .run rest f) ≤ pumpNeeds s := pumpNeeds_le fun hsending =>
    hf.stack (show Goroutine.pump ≠ .run by simp) ▸ hsending
  have hlen := advance_length hf
  have hgone : (advance s .run rest f).pump.gone = s.pump.gone := congrArg PumpPhase.gone hf.untouched.pump
  rw [hstack] at hshape
  cases hpump : s.pump.gone with
  -- the pump is in its loop
  | false =>
    have hle : (advance s .run rest f).sendCh.length ≤ capacity :=
      advance_le (Nat.le_trans (Nat.le_add_right ..) h) hpush
    have hzero : runNeeds (advance s .run rest f) = 0 := runNeeds_of_not fun hstranded => by
      have hyes := hstranded.gone
      rw [hgone, hpump] at hyes
      cases hyes
    have hnone := needs_of_loop hcalls hpump
    rw [needs] at hnone ⊢
    omega
  | true =>
    have hback : ∀ {rest : List SendFrame}, Returning rest → calling rest = false := by
      rintro rest (rfl | ⟨m, rfl⟩)
      · rfl
      · rfl
    have hcalling : calling (f :: rest) = true → runNeeds s = 1 := fun hcalling =>
      if_pos ⟨hpump, hup, hstack ▸ hcalling⟩
    have hkeep : calling (f :: rest) = true → runNeeds (advance s .run rest f) ≤ runNeeds s := fun hcalling' => by
      rw [hcalling hcalling']
      exact runNeeds_le_one _
    have hover : ∀ {t : Client}, t.stack .run = rest → calling rest = false → runNeeds t = 0 := by
      intro t ht hnot
      refine runNeeds_of_not fun hstranded => ?_
      have hyes := hstranded.calling
      rw [ht, hnot] at hyes
      cases hyes
    rw [needs] at h ⊢
    cases hshape with
    | pong m hm =>
      have hrun := hkeep rfl
      have hle : (advance s .run [] (.enter m)).sendCh.length ≤ s.sendCh.length := hlen
      omega
    | event m hm _ hrest =>
      have hrun := hkeep rfl
      have hle : (advance s .run rest (.enter m)).sendCh.length ≤ s.sendCh.length := hlen
      omega
    | log _ hrest =>
      have hrun := hkeep rfl
      have hle : (advance s .run rest .log).sendCh.length ≤ s.sendCh.length := hlen
      omega
    | push m _ hrest =>
      have hone := hcalling rfl
      have hle : (advance s .run rest (.push m)).sendCh.length ≤ s.sendCh.length + 1 := hlen
      have hzero : runNeeds (advance s .run rest (.push m)) = 0 := hover (setStack_self s .run rest) (hback hrest)
      omega
    | offer m =>
      have hone := hcalling rfl
      have hfree : s.sendCh.length < capacity := by omega
      have htaken : advance s .run [] (.offer m) = enqueue s .run m [] := if_pos hfree
      have hle : (advance s .run [] (.offer m)).sendCh.length ≤ s.sendCh.length + 1 := hlen
      have hzero : runNeeds (advance s .run [] (.offer m)) = 0 := by
        rw [htaken]
        exact hover (setStack_self s .run []) rfl
      omega
    | dropped m =>
      have hle : (advance s .run [] (.dropped m)).sendCh.length ≤ s.sendCh.length := hlen
      have hzero : runNeeds (advance s .run [] (.dropped m)) = 0 := hover (setStack_self s .run []) rfl
      omega

/-- Another goroutine takes no slot that is needed. -/
theorem advance_sender_room {n : Nat} {f : SendFrame} {rest : List SendFrame}
    (hpush : f.isPush = true → s.sendCh.length < capacity) (hl : Room s (.go (.sender n) f rest))
    (h : s.sendCh.length + needs s ≤ capacity) :
    (advance s (.sender n) rest f).sendCh.length + needs (advance s (.sender n) rest f) ≤ capacity := by
  have hf := advanced s (.sender n) rest f
  have hpumpNeeds : pumpNeeds (advance s (.sender n) rest f) ≤ pumpNeeds s := pumpNeeds_le fun hsending =>
    hf.stack (show Goroutine.pump ≠ .sender n by simp) ▸ hsending
  have hrunNeeds : runNeeds (advance s (.sender n) rest f) ≤ runNeeds s := runNeeds_le fun hstranded =>
    ⟨hf.untouched.pump ▸ hstranded.gone, hf.untouched.run ▸ hstranded.up,
      hf.stack (show Goroutine.run ≠ .sender n by simp) ▸ hstranded.calling⟩
  have hneeds : needs (advance s (.sender n) rest f) ≤ needs s := Nat.add_le_add hpumpNeeds hrunNeeds
  have hlen := advance_length hf
  cases hqueues : f.queues with
  | false =>
    rw [hqueues] at hlen
    have hle : (advance s (.sender n) rest f).sendCh.length ≤ s.sendCh.length := hlen
    omega
  | true =>
    rw [hqueues] at hlen
    have hle : (advance s (.sender n) rest f).sendCh.length ≤ s.sendCh.length + 1 := hlen
    by_cases hneed : 0 < needs s
    · have hfree : s.sendCh.length + needs s < capacity := hl hqueues hneed
      omega
    · have hfit : (advance s (.sender n) rest f).sendCh.length ≤ capacity :=
        advance_le (Nat.le_trans (Nat.le_add_right ..) h) hpush
      omega

/-- **The slots that are needed stay free,** if the step leaves them free where a goroutine begins to
    need one. -/
theorem room_step {l : Label} (hl : Room s l) (hs : step s l = some s') (hconn : s.conn.isSome = s.run.up)
    (hnumbered : Numbered s) (hcalls : PumpCalls s) (hshape : RunStack (s.stack .run))
    (hdown : s.run.up = false → s.stack .run = [] ∨ s.run = .backoff ∧ s.stack .run = [.log])
    (h : s.sendCh.length + needs s ≤ capacity) : s'.sendCh.length + needs s' ≤ capacity := by
  have hconn' := conn_step hs hconn
  obtain ⟨⟨hidle, hen⟩, rfl⟩ := Run.guardedStep_eq_some.mp hs
  have hle : s.sendCh.length ≤ capacity := Nat.le_trans (Nat.le_add_right ..) h
  -- nothing is needed that was not needed before
  have hkeep : ∀ {t : Client}, t.sendCh.length ≤ s.sendCh.length →
      (sending (t.stack .pump) = true → sending (s.stack .pump) = true) →
      (Stranded t → Stranded s) → t.sendCh.length + needs t ≤ capacity := by
    intro t hlen hpump hrun
    have hpumpNeeds := pumpNeeds_le hpump
    have hrunNeeds := runNeeds_le hrun
    rw [needs] at h ⊢
    omega
  -- a step of `Run` to a phase without a connection, or from one where it is in no call
  have hfree : ∀ {p : RunPhase}, (p.up = true → s.stack .run = []) → ¬ Stranded { s with run := p } := by
    intro p hp hstranded
    have hcalling : calling (s.stack .run) = true := hstranded.calling
    rw [hp hstranded.up] at hcalling
    cases hcalling
  -- a step of the pump that stays in its loop
  have hloop : ∀ {p : PumpPhase} {t : Client}, t.pump = p → p.gone = false → ¬ Stranded t := by
    intro p t ht hp hstranded
    have hgone := hstranded.gone
    rw [ht, hp] at hgone
    cases hgone
  have hpumpStack : ∀ fs, (setStack s .run fs).stack .pump = s.stack .pump := setStack_of_ne s (by simp)
  -- `Run` begins a call
  have hcall : ∀ {t : Client} (fs : List SendFrame), t.stack = (setStack s .run fs).stack ∧ t.pump = s.pump ∧
      t.sendCh = s.sendCh → (s.pump.gone = true → s.sendCh.length + needs s < capacity) →
      t.sendCh.length + needs t ≤ capacity := by
    rintro t fs ⟨hstack, hpump, hch⟩ hslot
    have hpumpNeeds : pumpNeeds t ≤ pumpNeeds s := pumpNeeds_le fun hsending => by
      rwa [hstack, hpumpStack] at hsending
    have hone := runNeeds_le_one t
    rw [hch]
    cases hgone : s.pump.gone with
    | false =>
      have hzero : runNeeds t = 0 := runNeeds_of_not (hloop hpump hgone)
      rw [needs] at h ⊢
      omega
    | true =>
      have hfree := hslot hgone
      rw [needs] at hfree ⊢
      omega
  -- the pump begins its warning
  have hwarned : ∀ {t : Client}, s.pump.gone = false → t = { setStack s .pump [.log] with pump := .exiting } →
      (calling (s.stack .run) = true → s.sendCh.length < capacity) → t.sendCh.length + needs t ≤ capacity := by
    rintro t hpump rfl hroom
    have hpumpNeeds : pumpNeeds { setStack s .pump [.log] with pump := .exiting } = 0 := by
      refine pumpNeeds_of_not ?_
      rw [show ({ setStack s .pump [.log] with pump := .exiting } : Client).stack .pump = [.log] from
        setStack_self s .pump [.log]]
      rfl
    rw [needs, hpumpNeeds, Nat.zero_add]
    have hone := runNeeds_le_one { setStack s .pump [.log] with pump := .exiting }
    cases hcalling : calling (s.stack .run) with
    | true => exact Nat.le_trans (Nat.add_le_add_left hone _) (hroom hcalling)
    | false =>
      have hzero : runNeeds { setStack s .pump [.log] with pump := .exiting } = 0 :=
        runNeeds_of_not fun hstranded => by
          have hyes : calling ((setStack s .pump [.log]).stack .run) = true := hstranded.calling
          rw [setStack_of_ne s (by simp), hcalling] at hyes
          cases hyes
      rw [hzero]
      exact hle
  cases l with
  | check => exact hkeep (Nat.le_refl _) id fun hst => absurd hst (hfree fun hup => by
      rw [up_ite s.cancelled rfl] at hup
      cases hup)
  | dial => exact hkeep (Nat.le_refl _) id fun hst => absurd hst (hloop rfl rfl)
  | dialFails =>
    exact hkeep (Nat.le_refl _) (fun hsending => hpumpStack [.log] ▸ hsending) fun hst =>
      absurd hst.up (by simp [effect, RunPhase.up])
  | enter => exact hkeep (Nat.le_refl _) id fun hst => absurd hst (hfree fun _ => hidle rfl)
  | pong k => exact hcall [.enter ⟨s.calls, .pong⟩] ⟨rfl, rfl, rfl⟩ hl
  | readFails k logged =>
    cases logged with
    | true => exact hcall [.log] ⟨rfl, rfl, rfl⟩ hl
    | false =>
      refine hkeep (Nat.le_refl _) (fun hsending => hpumpStack [] ▸ hsending) fun hst => ?_
      have hcalling : calling ((setStack s .run []).stack .run) = true := hst.calling
      rw [setStack_self] at hcalling
      cases hcalling
  | shutdown k => exact hkeep (Nat.le_refl _) id fun hst => absurd hst (hfree fun _ => hidle rfl)
  | clear => exact hkeep (Nat.le_refl _) id fun hst => absurd hst.up (by simp [effect, RunPhase.up])
  | closeStop stop conn => exact hkeep (Nat.le_refl _) id fun hst => absurd hst.up (by simp [effect, RunPhase.up])
  | closeConn conn => exact hkeep (Nat.le_refl _) id fun hst => absurd hst.up (by simp [effect, RunPhase.up])
  | await => exact hkeep (Nat.le_refl _) id fun hst => absurd hst.up (by simp [effect, RunPhase.up])
  | discard m => exact hkeep (List.length_tail ▸ Nat.sub_le ..) id fun hst => ⟨hst.gone, hst.up, hst.calling⟩
  | drained => exact hkeep (Nat.le_refl _) id fun hst => absurd hst (hfree fun hup => by
      rw [up_ite s.cancelled rfl] at hup
      cases hup)
  | retry => exact hkeep (Nat.le_refl _) id fun hst => absurd hst (hfree fun hup => by
      rw [up_ite s.cancelled rfl] at hup
      cases hup)
  | select => exact hkeep (Nat.le_refl _) id fun hst => absurd hst (hloop rfl rfl)
  -- the channel is closed only after the fields are cleared
  | stop k =>
    refine hkeep (Nat.le_refl _) id fun hst => ?_
    have hheld := hnumbered.held k (.inr (.inr (.inl (by rw [hen.1]; rfl))))
    have hup : s.run.up = true := hst.up
    rw [(hnumbered.ended k (.inl hen.2)).2 hheld] at hup
    cases hup
  | tick stop => exact hkeep (Nat.le_refl _) id fun hst => absurd hst (hloop rfl rfl)
  | receive stop m =>
    exact hkeep (List.length_tail ▸ Nat.sub_le ..) id fun hst => absurd hst (hloop rfl rfl)
  -- without a connection `Run` is not in a call
  | tickConn =>
    refine hkeep (Nat.le_refl _) id fun hst => ?_
    cases hfield : s.conn with
    | none =>
      have hup : s.run.up = true := hst.up
      rw [← hconn, hfield] at hup
      cases hup
    | some j => exact absurd hst (hloop (p := .pinging j) (by dsimp only [effect]; rw [hfield]) rfl)
  | takeConn m =>
    refine hkeep (Nat.le_refl _) id fun hst => ?_
    cases hfield : s.conn with
    | none =>
      have hup : s.run.up = true := hst.up
      rw [← hconn, hfield] at hup
      cases hup
    | some j => exact absurd hst (hloop (p := .writing j m) (by dsimp only [effect]; rw [hfield]) rfl)
  | ping k ok =>
    cases ok with
    | true => exact hkeep (Nat.le_refl _) id fun hst => absurd hst (hloop rfl rfl)
    | false => exact hwarned (by rw [hen.1]; rfl) rfl hl
  | write k m ok =>
    cases ok with
    | true => exact hkeep (Nat.le_refl _) id fun hst => absurd hst (hloop rfl rfl)
    | false => exact hwarned (by rw [hen.1]; rfl) rfl hl
  | close =>
    have hexits : s.pump = .exiting := hen
    exact hkeep (Nat.le_refl _) id fun hst => ⟨by rw [hexits]; rfl, hst.up, hst.calling⟩
  | send n ty =>
    have hother : ∀ g, g ≠ .sender n → (effect s (.send n ty)).stack g = s.stack g := fun g hg =>
      setStack_of_ne s hg _
    refine hkeep (Nat.le_refl _) (fun hsending => ?_) fun hst => ⟨hst.gone, hst.up, ?_⟩
    · rwa [hother .pump (by simp)] at hsending
    · exact hother .run (by simp) ▸ hst.calling
  | warn n =>
    have hother : ∀ g, g ≠ .sender n → (effect s (.warn n)).stack g = s.stack g := fun g hg =>
      setStack_of_ne s hg _
    refine hkeep (Nat.le_refl _) (fun hsending => ?_) fun hst => ⟨hst.gone, hst.up, ?_⟩
    · rwa [hother .pump (by simp)] at hsending
    · exact hother .run (by simp) ▸ hst.calling
  | go g f rest =>
    have hf := advanced s g rest f
    cases g with
    | pump => exact advance_pump_room hen.1 hcalls hl h
    | run =>
      cases hup : s.run.up with
      | true => exact advance_run_room hen.1 hcalls hshape hup hen.2 h
      | false =>
        have hlen := advance_length hf
        have hlog : f = .log := by
          rcases hdown hup with hnil | ⟨-, hlog⟩
          · rw [hen.1] at hnil
            cases hnil
          · exact (List.cons.inj (hen.1.symm.trans hlog)).1
        subst hlog
        refine hkeep hlen (fun hsending => hf.stack (show Goroutine.pump ≠ .run by simp) ▸ hsending) fun hst => ?_
        have hyes := hst.up
        rw [show (effect s (.go .run .log rest)).run = s.run from hf.untouched.run, hup] at hyes
        cases hyes
    | sender n =>
      exact advance_sender_room hen.2 hl h
  | cancel => exact hkeep (Nat.le_refl _) id fun hst => ⟨hst.gone, hst.up, hst.calling⟩

/-- **One step** keeps the invariant, if it leaves the slots free that are needed. -/
theorem inv_step (s : Client) (l : Label) (s' : Client) (hl : Room s l) (hs : step s l = some s')
    (h : Inv s) : Inv s' where
  one := onePump_step l hs h.one
  conn := conn_step hs h.conn
  numbered := numbered_step hs h.numbered
  calls := calls_step h.one hs h.calls
  runStack := runStack_step hs h.runStack
  down := down_step hs h.conn h.down
  gone := gone_step hs h.gone
  room := room_step hl hs h.conn h.numbered h.calls h.runStack h.down h.room

end

end Transport

end Agent

end Dtsys
