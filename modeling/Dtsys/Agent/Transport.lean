/-
  `Client` (`transport/client.go`) — the agent's end of the websocket across CONNECTIONS: the queue
  `sendCh`, the goroutines that share it, and what a lost connection does to it.

  A label is one step of one goroutine, so a schedule of labels is an interleaving:

  * `Run`: `dial` a connection (or `dialFails`), `enter` the read loop, `pong`, leave the loop
    (`readFails`, `shutdown`), then the deferred clean-up `clear`, `closeStop`, `closeConn`, `await`,
    and `discard`, one message at a time, until `sendCh` is empty (`drained`);
  * `writePump`: `select`, then `stop`, `tick` or `receive`; look at `c.conn` (`tickConn`,
    `takeConn`); `ping` or `write` with the outcome; and `close`, the deferred `close(c.writeDone)`;
  * anybody: `send` a message, `warn` (a record at level Warn or above), and `go`, the next step of
    the `Send` or the log call it is in.

  A warning is not only printed: `forwardingHandler` turns it into an `event_report` and calls `Send`
  AGAIN, in the goroutine that logged it, the pump included.  So the calls a goroutine is in form a
  stack (`SendFrame`).

  `select` reads the field `c.writeStop` when it is entered; the clean-up sets the field to `nil`
  before it closes the channel, and a pump that comes too late waits on `nil`.  The network may fail
  at any write; a write on a closed connection does.  Handlers of messages, backoff and the data of
  messages play no part.
-/
import Dtsys.Lib.Run
import Mathlib.Logic.Function.Basic

namespace Dtsys

namespace Agent

/-! ## Messages -/

/-- The types of the messages an agent sends (`transport/messages.go`, and the answer to a ping). -/
inductive MsgType
  | telemetry
  | softwareInventory
  | eventReport
  | ntpStatus
  | networkInfo
  | sshKeys
  | processList
  | agentInfo
  | commandOutput
  | commandResult
  | screenshotResult
  | pong
  deriving DecidableEq, Repr

/-- `isCriticalMessage`. -/
def MsgType.isCritical : MsgType → Bool
  | .eventReport | .commandResult | .screenshotResult => true
  | _ => false

/-- `shouldDropWhenBusy`. -/
def MsgType.shouldDropWhenBusy : MsgType → Bool
  | .telemetry | .processList | .ntpStatus | .networkInfo => true
  | _ => false

/-- What may be dropped when the buffer is busy is not critical. -/
theorem MsgType.not_critical_of_drop {ty : MsgType} (h : ty.shouldDropWhenBusy = true) :
    ty.isCritical = false := by
  cases ty <;> first | rfl | cases h

/-- A message; `id` numbers the calls of `Send`. -/
structure Message where
  id : Nat
  type : MsgType
  deriving DecidableEq, Repr

/-! ## Goroutines -/

/-- `Run` (with `readLoop`), the write pump, and everybody else who sends. -/
inductive Goroutine
  | run
  | pump
  | sender (n : Nat)
  deriving DecidableEq, Repr

/-- What a goroutine is in the middle of, inside `Send` and the logger. -/
inductive SendFrame
  /-- at the top of `Send` -/
  | enter (m : Message)
  /-- at `c.sendCh <- msg` -/
  | push (m : Message)
  /-- at the `select` with a `default` -/
  | offer (m : Message)
  /-- at the end of `Send`, the message not queued -/
  | dropped (m : Message)
  /-- in `Handle` of a warning, at `client.IsConnected()` -/
  | log
  deriving DecidableEq, Repr

/-- The goroutine is at `c.sendCh <- msg`. -/
def SendFrame.isPush : SendFrame → Bool
  | .push _ => true
  | _ => false

/-- Where `Run` stands. -/
inductive RunPhase
  /-- at the top of its loop -/
  | top
  /-- in `connect` -/
  | dialing
  /-- connected, at the top of `readLoop` -/
  | entering
  | reading (conn : Nat)
  /-- in the deferred function, in front of `c.mu.Lock` -/
  | leaving
  /-- the fields are cleared; next is `close(stop)` -/
  | releasing (stop conn : Option Nat)
  /-- next is `conn.Close()` -/
  | closing (conn : Option Nat)
  /-- at `<-c.writeDone` -/
  | awaiting
  /-- in `drainSendCh` -/
  | draining
  /-- before the next attempt -/
  | backoff
  | stopped
  deriving DecidableEq, Repr

/-- From `connect` until `<-c.writeDone` has returned. -/
def RunPhase.connected : RunPhase → Bool
  | .entering | .reading _ | .leaving | .releasing .. | .closing _ | .awaiting => true
  | _ => false

/-- Where the write pump stands. -/
inductive PumpPhase
  /-- there is none -/
  | absent
  /-- in front of the `select` -/
  | looping
  /-- in the `select`, with the value `c.writeStop` had -/
  | selecting (stop : Option Nat)
  /-- at `c.mu.Lock`, after a tick -/
  | ticked
  /-- at `c.mu.Lock`, with a message -/
  | took (m : Message)
  | pinging (conn : Nat)
  | writing (conn : Nat) (m : Message)
  /-- returning; next is `close(c.writeDone)` -/
  | exiting
  deriving DecidableEq, Repr

/-- The message the pump has in hand. -/
def PumpPhase.current : PumpPhase → Option Message
  | .took m => some m
  | .writing _ m => some m
  | _ => none

/-! ## The client -/

/-- The fields of the `Client`, the channels and connections of its past, and where each goroutine
    stands.  Connection `k` comes with the channels `writeStop` and `writeDone` number `k`. -/
structure Client where
  conn : Option Nat
  writeStop : Option Nat
  writeDone : Option Nat
  sendCh : List Message
  /-- connections made so far -/
  dialed : Nat
  /-- closed connections -/
  closed : Nat → Bool
  stopClosed : Nat → Bool
  doneClosed : Nat → Bool
  /-- calls of `Send` so far -/
  calls : Nat
  /-- `ctx` is cancelled -/
  cancelled : Bool
  run : RunPhase
  pump : PumpPhase
  stack : Goroutine → List SendFrame
  /-- the messages whose `Send` has returned -/
  returned : List Message
  /-- the messages `WriteJSON` has written -/
  written : List Message

/-- `make(chan Message, 256)`. -/
def capacity : Nat := 256

namespace Transport

/-- The steps of `Run`, of the read loop and of the pump. -/
inductive Label
  | check
  | dial
  | dialFails
  | enter
  | pong (k : Nat)
  | readFails (k : Nat) (logged : Bool)
  | shutdown (k : Nat)
  | clear
  | closeStop (stop conn : Option Nat)
  | closeConn (conn : Option Nat)
  | await
  | discard (m : Message)
  | drained
  | retry
  | select
  | stop (k : Nat)
  | tick (stop : Option Nat)
  | receive (stop : Option Nat) (m : Message)
  | tickConn
  | takeConn (m : Message)
  | ping (k : Nat) (ok : Bool)
  | write (k : Nat) (m : Message) (ok : Bool)
  | close
  | send (n : Nat) (ty : MsgType)
  | warn (n : Nat)
  | go (g : Goroutine) (f : SendFrame) (rest : List SendFrame)
  | cancel
  deriving DecidableEq, Repr

/-- `NewClient`. -/
def init : Client where
  conn := none
  writeStop := none
  writeDone := none
  sendCh := []
  dialed := 0
  closed := fun _ => false
  stopClosed := fun _ => false
  doneClosed := fun _ => false
  calls := 0
  cancelled := false
  run := .top
  pump := .absent
  stack := fun _ => []
  returned := []
  written := []

/-- The goroutine that takes the step. -/
def owner : Label → Option Goroutine
  | .check | .dial | .dialFails | .enter | .pong _ | .readFails .. | .shutdown _ | .clear
  | .closeStop .. | .closeConn _ | .await | .discard _ | .drained | .retry => some .run
  | .select | .stop _ | .tick _ | .receive .. | .tickConn | .takeConn _ | .ping .. | .write ..
  | .close => some .pump
  | .send n _ | .warn n => some (.sender n)
  | .go g _ _ => some g
  | .cancel => none

/-- A step outside of `Send` and the logger. -/
def outside : Label → Bool
  | .go .. => false
  | _ => true

/-- `c.writeDone == nil`, or closed. -/
def released (s : Client) : Bool :=
  match s.writeDone with
  | some k => s.doneClosed k
  | none => true

/-- What the step has to find. -/
def Guard (s : Client) : Label → Prop
  | .check => s.run = .top
  | .dial => s.run = .dialing
  | .dialFails => s.run = .dialing
  | .enter => s.run = .entering
  | .pong k => s.run = .reading k
  | .readFails k _ => s.run = .reading k
  | .shutdown k => s.run = .reading k ∧ s.cancelled = true
  | .clear => s.run = .leaving
  | .closeStop stop conn => s.run = .releasing stop conn
  | .closeConn conn => s.run = .closing conn
  | .await => s.run = .awaiting ∧ released s = true
  | .discard m => s.run = .draining ∧ s.sendCh.head? = some m
  | .drained => s.run = .draining ∧ s.sendCh = []
  | .retry => s.run = .backoff
  | .select => s.pump = .looping
  | .stop k => s.pump = .selecting (some k) ∧ s.stopClosed k = true
  | .tick stop => s.pump = .selecting stop
  | .receive stop m => s.pump = .selecting stop ∧ s.sendCh.head? = some m
  | .tickConn => s.pump = .ticked
  | .takeConn m => s.pump = .took m
  | .ping k ok => s.pump = .pinging k ∧ (ok = true → s.closed k = false)
  | .write k m ok => s.pump = .writing k m ∧ (ok = true → s.closed k = false)
  | .close => s.pump = .exiting
  | .send .. => True
  | .warn _ => True
  -- only `c.sendCh <- msg` may have to wait
  | .go g f rest => s.stack g = f :: rest ∧ (f.isPush = true → s.sendCh.length < capacity)
  | .cancel => True

/-- The goroutine is in no call. -/
def idle (s : Client) : Option Goroutine → Prop
  | some g => s.stack g = []
  | none => True

/-- When a step can be taken: a goroutine that is in a call does nothing else. -/
def Enabled (s : Client) (l : Label) : Prop := (outside l = true → idle s (owner l)) ∧ Guard s l

instance (s : Client) : ∀ o, Decidable (idle s o)
  | some _ => inferInstanceAs (Decidable (_ = _))
  | none => inferInstanceAs (Decidable True)

instance (s : Client) : ∀ l, Decidable (Guard s l)
  | .check | .dial | .dialFails | .enter | .pong _ | .readFails .. | .clear | .closeStop ..
  | .closeConn _ | .retry | .select | .tick _ | .tickConn | .takeConn _ | .close =>
    inferInstanceAs (Decidable (_ = _))
  | .shutdown _ | .await | .discard _ | .drained | .stop _ | .receive .. | .ping .. | .write ..
  | .go .. => inferInstanceAs (Decidable (_ ∧ _))
  | .send .. | .warn _ | .cancel => inferInstanceAs (Decidable True)

instance (s : Client) (l : Label) : Decidable (Enabled s l) := inferInstanceAs (Decidable (_ ∧ _))

/-! ## What a step does -/

/-- The calls goroutine `g` is in. -/
def setStack (s : Client) (g : Goroutine) (fs : List SendFrame) : Client :=
  { s with stack := Function.update s.stack g fs }

/-- A goroutine is where it has been put. -/
theorem setStack_self (s : Client) (g : Goroutine) (fs : List SendFrame) :
    (setStack s g fs).stack g = fs := by
  rw [setStack]
  exact Function.update_self ..

/-- The others are where they were. -/
theorem setStack_of_ne (s : Client) {g g' : Goroutine} (h : g' ≠ g) (fs : List SendFrame) :
    (setStack s g fs).stack g' = s.stack g' := by
  rw [setStack]
  exact Function.update_of_ne h ..

/-- `c.Send(Message{Type: ty})`: the call begins. -/
def callSend (s : Client) (g : Goroutine) (ty : MsgType) (rest : List SendFrame) : Client :=
  { setStack s g (.enter ⟨s.calls, ty⟩ :: rest) with calls := s.calls + 1 }

/-- `sendCh` takes the message, and `Send` returns. -/
def enqueue (s : Client) (g : Goroutine) (m : Message) (rest : List SendFrame) : Client :=
  { setStack s g rest with sendCh := s.sendCh ++ [m], returned := s.returned ++ [m] }

/-- The next step of the innermost call. -/
def advance (s : Client) (g : Goroutine) (rest : List SendFrame) : SendFrame → Client
  | .enter m =>
    if capacity * 3 / 4 ≤ s.sendCh.length ∧ m.type.shouldDropWhenBusy = true then
      setStack s g (.log :: .dropped m :: rest)
    else if m.type.isCritical then setStack s g (.push m :: rest)
    else setStack s g (.offer m :: rest)
  | .push m => enqueue s g m rest
  | .offer m =>
    if s.sendCh.length < capacity then enqueue s g m rest
    else setStack s g (.log :: .dropped m :: rest)
  | .dropped m => { setStack s g rest with returned := s.returned ++ [m] }
  -- the record becomes an `event_report`, if there is a connection to send it on
  | .log => if s.conn.isSome then callSend s g .eventReport rest else setStack s g rest

/-- `Send` takes the blocking branch for a critical message, however full the channel is. -/
theorem advance_critical (s : Client) (g : Goroutine) (rest : List SendFrame) {m : Message}
    (hm : m.type.isCritical = true) :
    advance s g rest (.enter m) = setStack s g (.push m :: rest) := by
  have hdrop : ¬ m.type.shouldDropWhenBusy = true := by
    intro hd
    rw [MsgType.not_critical_of_drop hd] at hm
    cases hm
  unfold advance
  dsimp only
  rw [if_neg fun hb => hdrop hb.2, if_pos hm]

/-- `close(ch)`, when there is a channel. -/
def closeChan (chans : Nat → Bool) : Option Nat → Nat → Bool
  | some k => Function.update chans k true
  | none => chans

/-- What a step does. -/
def effect (s : Client) : Label → Client
  | .check => { s with run := if s.cancelled then .stopped else .dialing }
  | .dial =>
    { s with
      conn := some s.dialed
      writeStop := some s.dialed
      writeDone := some s.dialed
      dialed := s.dialed + 1
      pump := .looping
      run := .entering }
  | .dialFails => { setStack s .run [.log] with run := .backoff }
  | .enter =>
    { s with run := match s.conn with
        | some k => .reading k
        | none => .leaving }
  | .pong _ => callSend s .run .pong []
  | .readFails _ logged => { setStack s .run (if logged then [.log] else []) with run := .leaving }
  | .shutdown _ => { s with run := .leaving }
  | .clear => { s with conn := none, writeStop := none, run := .releasing s.writeStop s.conn }
  | .closeStop stop conn =>
    { s with stopClosed := closeChan s.stopClosed stop, run := .closing conn }
  | .closeConn conn => { s with closed := closeChan s.closed conn, run := .awaiting }
  | .await => { s with run := .draining }
  | .discard _ => { s with sendCh := s.sendCh.tail }
  | .drained => { s with run := if s.cancelled then .stopped else .backoff }
  | .retry => { s with run := if s.cancelled then .stopped else .top }
  | .select => { s with pump := .selecting s.writeStop }
  | .stop _ => { s with pump := .exiting }
  | .tick _ => { s with pump := .ticked }
  | .receive _ m => { s with pump := .took m, sendCh := s.sendCh.tail }
  | .tickConn =>
    { s with pump := match s.conn with
        | some k => .pinging k
        | none => .exiting }
  | .takeConn m =>
    { s with pump := match s.conn with
        | some k => .writing k m
        -- `return`: the message is in no queue any more
        | none => .exiting }
  | .ping _ ok =>
    if ok then { s with pump := .looping } else { setStack s .pump [.log] with pump := .exiting }
  | .write _ m ok =>
    if ok then { s with pump := .looping, written := s.written ++ [m] }
    else { setStack s .pump [.log] with pump := .exiting }
  | .close => { s with doneClosed := closeChan s.doneClosed s.writeDone, pump := .absent }
  | .send n ty => callSend s (.sender n) ty []
  | .warn n => setStack s (.sender n) [.log]
  | .go g f rest => advance s g rest f
  | .cancel => { s with cancelled := true }

/-- One step of one goroutine. -/
def step : Client → Label → Option Client := Run.guardedStep Enabled effect

/-- What the calls of a goroutine leave alone. -/
structure Untouched (s s' : Client) : Prop where
  run : s'.run = s.run
  pump : s'.pump = s.pump
  conn : s'.conn = s.conn
  dialed : s'.dialed = s.dialed
  doneClosed : s'.doneClosed = s.doneClosed
  writeDone : s'.writeDone = s.writeDone
  written : s'.written = s.written

/-! ## One pump at a time -/

/-- `Run` does not get past `<-c.writeDone` while the pump is running. -/
structure OnePump (s : Client) : Prop where
  fresh : ∀ k, s.dialed ≤ k → s.doneClosed k = false
  dialed : ∀ k, s.writeDone = some k → k < s.dialed
  unreleased : s.pump ≠ .absent → released s = false
  connected : s.pump ≠ .absent → s.run.connected = true

/-- There is no pump yet. -/
theorem onePump_init : OnePump init :=
  ⟨fun _ _ => rfl, fun _ h => (nomatch h), fun h => absurd rfl h, fun h => absurd rfl h⟩

section

variable {s s' : Client}

/-- A step that neither dials nor closes `c.writeDone`. -/
theorem OnePump.move (h : OnePump s) (hdialed : s'.dialed = s.dialed)
    (hclosed : s'.doneClosed = s.doneClosed) (hdone : s'.writeDone = s.writeDone)
    (hpump : s'.pump ≠ .absent → s.pump ≠ .absent ∧ s'.run.connected = true) : OnePump s' := by
  have hreleased : released s' = released s := by
    unfold released
    rw [hdone, hclosed]
  refine ⟨?_, ?_, ?_, ?_⟩
  · rw [hdialed, hclosed]; exact h.fresh
  · rw [hdialed, hdone]; exact h.dialed
  · intro hp
    rw [hreleased]
    exact h.unreleased (hpump hp).1
  · exact fun hp => (hpump hp).2

/-- A dial starts the pump of its connection. -/
theorem OnePump.dial (h : OnePump s) : OnePump (effect s .dial) := by
  refine ⟨?_, ?_, ?_, ?_⟩
  · intro k hk
    have hle : s.dialed + 1 ≤ k := hk
    exact h.fresh k (by omega)
  · intro k hk
    have hkd : k = s.dialed := (Option.some.inj hk).symm
    show k < s.dialed + 1
    omega
  · intro _
    exact h.fresh s.dialed (Nat.le_refl _)
  · exact fun _ => rfl

/-- The end of a connection stops its pump. -/
theorem OnePump.close (h : OnePump s) : OnePump (effect s .close) := by
  refine ⟨?_, h.dialed, fun hp => absurd rfl hp, fun hp => absurd rfl hp⟩
  intro k hk
  have hfresh := h.fresh k hk
  show closeChan s.doneClosed s.writeDone k = false
  cases hdone : s.writeDone with
  | none => exact hfresh
  | some j =>
    have hjd : j < s.dialed := h.dialed j hdone
    have hkd : s.dialed ≤ k := hk
    have hne : k ≠ j := by omega
    show Function.update s.doneClosed j true k = false
    rw [Function.update_of_ne hne]
    exact hfresh

/-- What the next step of a call is: it calls on, it puts its message into `sendCh`, it returns without,
    or it ends. -/
inductive Advanced (s : Client) (g : Goroutine) (rest : List SendFrame) : SendFrame → Client → Prop
  | skips {m : Message} (hdrop : m.type.shouldDropWhenBusy = true) :
      Advanced s g rest (.enter m) (setStack s g (.log :: .dropped m :: rest))
  | blocks {m : Message} : Advanced s g rest (.enter m) (setStack s g (.push m :: rest))
  | offers {m : Message} (hcrit : m.type.isCritical = false) :
      Advanced s g rest (.enter m) (setStack s g (.offer m :: rest))
  | pushed {m : Message} : Advanced s g rest (.push m) (enqueue s g m rest)
  | taken {m : Message} : Advanced s g rest (.offer m) (enqueue s g m rest)
  | full {m : Message} : Advanced s g rest (.offer m) (setStack s g (.log :: .dropped m :: rest))
  | dropped {m : Message} :
      Advanced s g rest (.dropped m) { setStack s g rest with returned := s.returned ++ [m] }
  | forwarded : Advanced s g rest .log (callSend s g .eventReport rest)
  | printed : Advanced s g rest .log (setStack s g rest)

/-- **The cases of `advance`.** -/
theorem advanced (s : Client) (g : Goroutine) (rest : List SendFrame) (f : SendFrame) :
    Advanced s g rest f (advance s g rest f) := by
  unfold advance
  cases f with
  | enter m =>
    dsimp only
    split
    · rename_i hbusy
      exact .skips hbusy.2
    · split
      · exact .blocks
      · rename_i hcrit
        exact .offers (Bool.eq_false_iff.mpr hcrit)
  | push m => exact .pushed
  | offer m =>
    dsimp only
    split
    · exact .taken
    · exact .full
  | dropped m => exact .dropped
  | log =>
    dsimp only
    split
    · exact .forwarded
    · exact .printed

/-- A goroutine in `Send` leaves the rest of the client alone. -/
theorem Advanced.untouched {g : Goroutine} {rest : List SendFrame} {f : SendFrame} {t : Client}
    (h : Advanced s g rest f t) : Untouched s t := by
  cases h <;> exact ⟨rfl, rfl, rfl, rfl, rfl, rfl, rfl⟩

/-- A call changes the stack of its own goroutine. -/
theorem Advanced.stack {g : Goroutine} {rest : List SendFrame} {f : SendFrame} {t : Client}
    (h : Advanced s g rest f t) {g' : Goroutine} (hg : g' ≠ g) : t.stack g' = s.stack g' := by
  cases h <;> exact setStack_of_ne s hg _

/-- **One step** keeps it at one pump. -/
theorem onePump_step (l : Label) (hs : step s l = some s') (h : OnePump s) : OnePump s' := by
  obtain ⟨⟨-, hen⟩, rfl⟩ := Run.guardedStep_eq_some.mp hs
  -- a step of `Run` or of the pump, within a connection
  have hrun : ∀ {p q : RunPhase}, s.run = p → (p.connected = true → q.connected = true) →
      s.pump ≠ .absent → s.pump ≠ .absent ∧ q.connected = true :=
    fun hp hpq habs => ⟨habs, hpq (hp ▸ h.connected habs)⟩
  have hpump : ∀ {p : PumpPhase}, s.pump = p → p ≠ .absent →
      s.pump ≠ .absent ∧ s.run.connected = true :=
    fun hp hne => ⟨hp ▸ hne, h.connected (hp ▸ hne)⟩
  -- a step that only `Run` without a pump can take
  have hgone : ∀ {p : RunPhase} {P : Prop}, s.run = p → p.connected = false → s.pump ≠ .absent → P :=
    fun hp hpc habs => by
      have hc := h.connected habs
      rw [hp, hpc] at hc
      cases hc
  cases l with
  | check => exact h.move rfl rfl rfl (hgone hen rfl)
  | dial => exact h.dial
  | dialFails => exact h.move rfl rfl rfl (hgone hen rfl)
  | enter =>
    refine h.move rfl rfl rfl (hrun hen fun _ => ?_)
    dsimp only [effect]
    cases s.conn with
    | none => rfl
    | some k => rfl
  | pong k => exact h.move rfl rfl rfl fun habs => ⟨habs, h.connected habs⟩
  | readFails k logged => exact h.move rfl rfl rfl (hrun hen id)
  | shutdown k => exact h.move rfl rfl rfl (hrun hen.1 id)
  | clear => exact h.move rfl rfl rfl (hrun hen id)
  | closeStop stop conn => exact h.move rfl rfl rfl (hrun hen id)
  | closeConn conn => exact h.move rfl rfl rfl (hrun hen id)
  -- `<-c.writeDone` returns, so the pump is gone
  | await =>
    refine h.move rfl rfl rfl fun habs => ?_
    have hopen := h.unreleased habs
    rw [hen.2] at hopen
    cases hopen
  | discard m => exact h.move rfl rfl rfl (hgone hen.1 rfl)
  | drained => exact h.move rfl rfl rfl (hgone hen.1 rfl)
  | retry => exact h.move rfl rfl rfl (hgone hen rfl)
  | select => exact h.move rfl rfl rfl fun _ => hpump hen (by simp)
  | stop k => exact h.move rfl rfl rfl fun _ => hpump hen.1 (by simp)
  | tick stop => exact h.move rfl rfl rfl fun _ => hpump hen (by simp)
  | receive stop m => exact h.move rfl rfl rfl fun _ => hpump hen.1 (by simp)
  | tickConn => exact h.move rfl rfl rfl fun _ => hpump hen (by simp)
  | takeConn m => exact h.move rfl rfl rfl fun _ => hpump hen (by simp)
  | ping k ok =>
    cases ok with
    | true => exact h.move rfl rfl rfl fun _ => hpump hen.1 (by simp)
    | false => exact h.move rfl rfl rfl fun _ => hpump hen.1 (by simp)
  | write k m ok =>
    cases ok with
    | true => exact h.move rfl rfl rfl fun _ => hpump hen.1 (by simp)
    | false => exact h.move rfl rfl rfl fun _ => hpump hen.1 (by simp)
  | close => exact h.close
  | send n ty => exact h.move rfl rfl rfl fun habs => ⟨habs, h.connected habs⟩
  | warn n => exact h.move rfl rfl rfl fun habs => ⟨habs, h.connected habs⟩
  | go g f rest =>
    have hf := (advanced s g rest f).untouched
    refine h.move hf.dialed hf.doneClosed hf.writeDone fun habs => ?_
    have habs' : s.pump ≠ .absent := hf.pump ▸ habs
    refine ⟨habs', ?_⟩
    show (advance s g rest f).run.connected = true
    rw [hf.run]
    exact h.connected habs'
  | cancel => exact h.move rfl rfl rfl fun habs => ⟨habs, h.connected habs⟩

end

end Transport

end Agent

end Dtsys
