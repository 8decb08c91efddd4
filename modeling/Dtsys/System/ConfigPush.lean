/-
  FROM THE FORM TO THE TICKERS: the configuration of a device (`update_device_config`, the handshake of
  `device_websocket`) and the agent that is to follow it.

  A request stores the configuration, commits, and only then pushes it to the socket that the manager has for the
  device; a handshake reads the configuration, and sends it later, too.  So a message may be late: another request
  has committed in between.

  As long as every message is what is stored when it is sent, and every request that commits comes to its push, the
  last message of the socket is what is stored (`Inv.current`).  With an agent whose handlers do not overtake each
  other, the stored intervals are in its memory, in its file and in its tickers once everything is quiet
  (`stored_config_wins`).
-/
import Dtsys.Agent.ConfigUpdates
import Dtsys.Lib.Columns

namespace Dtsys

open Agent

deriving instance DecidableEq for DeviceConfigRequest

/-! ## Requests and handshakes -/

/-- Where `update_device_config` stands. -/
inductive PostPhase
  | idle
  /-- `found`: what `db.get` has loaded -/
  | loaded (body : DeviceConfigRequest) (found : Option DeviceConfigRequest)
  | committed (body : DeviceConfigRequest)

/-- The message that the request is going to send. -/
def PostPhase.owed : PostPhase → Option DeviceConfigRequest
  | .committed body => some body
  | _ => none

/-- Where `device_websocket` stands, behind `manager.connect`. -/
inductive Greeting
  | registered
  | read (config : Option DeviceConfigRequest)
  | over
  deriving DecidableEq

/-- The message that the handshake is going to send. -/
def Greeting.owed : Greeting → Option DeviceConfigRequest
  | .read config => config
  | _ => none

/-- One device: its `DeviceConfig`, its sockets and its agent. -/
structure ConfigPush where
  stored : Option DeviceConfigRequest
  request : Nat → PostPhase
  /-- the socket that the manager has for the device -/
  registry : Option Nat
  sockets : Nat
  greeting : Nat → Greeting
  /-- the messages that have been put on a socket -/
  sent : Nat → List DeviceConfigRequest
  /-- the agent's socket, and how many messages it has read -/
  conn : Option (Nat × Nat)
  agent : Updating

namespace ConfigPush

/-- The steps of the requests, of the handshakes and of the agent. -/
inductive Label
  | load (n : Nat) (body : DeviceConfigRequest)
  | commit (n : Nat)
  | push (n : Nat)
  | abort (n : Nat)
  | connect
  | read (k : Nat)
  | greet (k : Nat)
  /-- `manager.disconnect` -/
  | disconnect
  | deliver
  /-- the agent's end of the connection -/
  | drop
  | agent (l : UpdateLabel)

/-- No request and no socket; the agent has loaded its file. -/
def init (stored : Option DeviceConfigRequest) (c : CollectConfig) : ConfigPush :=
  ⟨stored, fun _ => .idle, none, 0, fun _ => .registered, fun _ => [], none, .loaded c⟩

/-- Request `n` goes on. -/
def setRequest (s : ConfigPush) (n : Nat) (p : PostPhase) : ConfigPush :=
  { s with request := Function.update s.request n p }

/-- The handshake of socket `k` goes on. -/
def setGreeting (s : ConfigPush) (k : Nat) (g : Greeting) : ConfigPush :=
  { s with greeting := Function.update s.greeting k g }

/-- `manager.send_to_device`: to the socket that the manager has, if it has one. -/
def sendToDevice (s : ConfigPush) (m : DeviceConfigRequest) : ConfigPush :=
  { s with sent := fun k => if s.registry = some k then s.sent k ++ [m] else s.sent k }

/-- The message that the agent reads next. -/
def next (s : ConfigPush) : Option DeviceConfigRequest := s.conn.bind fun c => (s.sent c.1)[c.2]?

/-- The row after the flush of a request; `none` if the INSERT finds that there is one. -/
def flush (body : DeviceConfigRequest) :
    Option DeviceConfigRequest → Option DeviceConfigRequest → Option DeviceConfigRequest
  | none, none => some body
  | none, some _ => none
  | some old, current => current.map (Columns.merge old body)

/-- One step. -/
def step (s : ConfigPush) : Label → Option ConfigPush
  | .load n body =>
    match s.request n with
    | .idle => some (s.setRequest n (.loaded body s.stored))
    | _ => none
  | .commit n =>
    match s.request n with
    | .loaded body found =>
      match flush body found s.stored with
      | some row => some ({ s with stored := some row }.setRequest n (.committed body))
      | none => some (s.setRequest n .idle)
    | _ => none
  | .push n => (s.request n).owed.map fun body => (s.sendToDevice body).setRequest n .idle
  | .abort n => some (s.setRequest n .idle)
  | .connect =>
    if s.conn = none then
      some { s with
        registry := some s.sockets
        sockets := s.sockets + 1
        greeting := Function.update s.greeting s.sockets .registered
        sent := Function.update s.sent s.sockets []
        conn := some (s.sockets, 0) }
    else none
  | .read k => if s.greeting k = .registered then some (s.setGreeting k (.read s.stored)) else none
  | .greet k =>
    match s.greeting k with
    | .read (some config) => some ((s.sendToDevice config).setGreeting k .over)
    | .read none => some (s.setGreeting k .over)
    | _ => none
  | .disconnect => some { s with registry := none }
  | .deliver => s.next.bind fun m =>
    (updateStep s.agent (.deliver m.modelDump)).map fun agent =>
      { s with conn := s.conn.map fun c => (c.1, c.2 + 1), agent }
  | .drop => some { s with conn := none }
  | .agent l =>
    match l with
    | .deliver _ => none
    | l => (updateStep s.agent l).map fun agent => { s with agent }

/-! ## Late messages -/

/-- Every message is what is stored when it is sent, every request that has committed comes to its push, and the
    handlers of the agent keep their order. -/
def InStep (s : ConfigPush) : Label → Prop
  | .push n => ∀ body ∈ (s.request n).owed, s.stored = some body
  | .abort n => (s.request n).owed = none
  | .greet k => ∀ config ∈ (s.greeting k).owed, s.stored = some config
  | .deliver => ∀ m ∈ s.next, inOrder s.agent (.deliver m.modelDump) = true
  | .agent l => inOrder s.agent l = true
  | _ => True

instance (s : ConfigPush) : ∀ l, Decidable (InStep s l)
  | .push n => inferInstanceAs (Decidable (∀ body ∈ (s.request n).owed, _))
  | .abort n => inferInstanceAs (Decidable ((s.request n).owed = none))
  | .greet k => inferInstanceAs (Decidable (∀ config ∈ (s.greeting k).owed, _))
  | .deliver => inferInstanceAs (Decidable (∀ m ∈ s.next, _))
  | .agent l => inferInstanceAs (Decidable (inOrder s.agent l = true))
  | .load .. | .commit _ | .connect | .read _ | .disconnect | .drop => inferInstanceAs (Decidable True)

/-- No request is between its commit and its push. -/
def Pushed (s : ConfigPush) : Prop := ∀ n, (s.request n).owed = none

/-- The agent reads the socket that the manager has, the handshake is over, and nothing is on the way. -/
structure Settled (s : ConfigPush) : Prop where
  pushed : Pushed s
  connected : ∃ k, s.registry = some k ∧ s.greeting k = .over ∧ s.conn = some (k, (s.sent k).length)
  quiet : Quiet s.agent

/-- What a socket has been told last is what is stored, or will be. -/
structure Inv (s : ConfigPush) : Prop where
  current : ∀ k config, s.registry = some k → s.stored = some config → Pushed s →
    s.greeting k = .registered ∨ s.greeting k = .read (some config) ∨ (s.sent k).getLast? = some config
  read : ∀ k i, s.conn = some (k, i) → i ≤ (s.sent k).length
  told : ∀ k i m u, s.conn = some (k, i + 1) → (s.sent k)[i]? = some m → decodeConfigUpdate m.modelDump = some u →
    (s.agent.handlers.map Agent.Handler.update).getLast? = some u
  ordered : Ordered s.agent

variable {s s' : ConfigPush}

/-! ## The server's end -/

/-- What a step leaves as it is. -/
structure SameAgent (s s' : ConfigPush) : Prop where
  conn : s'.conn = s.conn
  agent : s'.agent = s.agent
  sent : ∀ k, s.sent k <+: s'.sent k

/-- The agent's end of the invariant, where nothing is taken back from a socket. -/
theorem Inv.sameAgent (h : Inv s) (hsame : SameAgent s s')
    (hcurrent : ∀ k config, s'.registry = some k → s'.stored = some config → Pushed s' →
      s'.greeting k = .registered ∨ s'.greeting k = .read (some config) ∨ (s'.sent k).getLast? = some config) :
    Inv s' where
  current := hcurrent
  read := fun k i hconn => Nat.le_trans (h.read k i (hsame.conn ▸ hconn)) (hsame.sent k).length_le
  told := fun k i m u hconn hm hdecode => by
    rw [hsame.conn] at hconn
    rw [hsame.agent]
    have hlt : i < (s.sent k).length := h.read k (i + 1) hconn
    refine h.told k i m u hconn ?_ hdecode
    obtain ⟨more, hmore⟩ := hsame.sent k
    rw [← hm, ← hmore, List.getElem?_append_left hlt]
  ordered := hsame.agent ▸ h.ordered

/-- A request that owes nothing leaves what was pushed. -/
theorem pushed_setRequest {n : Nat} {p : PostPhase} (hpushed : Pushed (s.setRequest n p))
    (hn : (s.request n).owed = none) : Pushed s := by
  intro m
  have hother := hpushed m
  by_cases hmn : m = n
  · exact hmn ▸ hn
  · rw [setRequest] at hother
    dsimp only at hother
    rwa [Function.update_of_ne hmn] at hother

theorem Inv.setRequest (h : Inv s) {n : Nat} (p : PostPhase) (hn : (s.request n).owed = none) :
    Inv (s.setRequest n p) :=
  h.sameAgent ⟨rfl, rfl, fun _ => List.prefix_rfl⟩ fun k config hk hconfig hpushed =>
    h.current k config hk hconfig (pushed_setRequest hpushed hn)

theorem sameAgent_sendToDevice (s : ConfigPush) (m : DeviceConfigRequest) : SameAgent s (s.sendToDevice m) := by
  refine ⟨rfl, rfl, fun k => ?_⟩
  rw [sendToDevice]
  dsimp only
  split
  · exact List.prefix_append _ _
  · exact List.prefix_rfl

/-- The socket that the manager has is told what is stored. -/
theorem getLast?_sendToDevice {m : DeviceConfigRequest} {k : Nat} (hk : s.registry = some k) :
    ((s.sendToDevice m).sent k).getLast? = some m := by
  rw [sendToDevice]
  dsimp only
  rw [if_pos hk, List.getLast?_concat]

/-- **A message that is what is stored**, of a request or of a handshake. -/
theorem Inv.sendToDevice (h : Inv s) {m : DeviceConfigRequest} (hm : s.stored = some m)
    {request : Nat → PostPhase} {greeting : Nat → Greeting} :
    Inv { s.sendToDevice m with request, greeting } := by
  obtain ⟨hconn, hagent, hsent⟩ := sameAgent_sendToDevice s m
  refine h.sameAgent ⟨hconn, hagent, hsent⟩ fun k config hk hconfig _ => .inr (.inr ?_)
  obtain rfl := Option.some.inj (hm.symm.trans hconfig)
  exact getLast?_sendToDevice hk

theorem Inv.push (h : Inv s) {n : Nat} (hstep : InStep s (.push n)) (hs : step s (.push n) = some s') : Inv s' := by
  obtain ⟨body, hbody, rfl⟩ := Option.map_eq_some_iff.mp hs
  exact h.sendToDevice (hstep body hbody)

/-- A request has committed: as long as it has not come to its push, nothing is said of the socket. -/
theorem Inv.commit (h : Inv s) {n : Nat} (hs : step s (.commit n) = some s') : Inv s' := by
  rw [step] at hs
  split at hs
  · rename_i body found hloaded
    split at hs
    · obtain rfl := Option.some.inj hs
      refine h.sameAgent ⟨rfl, rfl, fun _ => List.prefix_rfl⟩ fun k config _ _ hpushed => ?_
      have howed := hpushed n
      rw [ConfigPush.setRequest] at howed
      dsimp only at howed
      rw [Function.update_self] at howed
      cases howed
    · obtain rfl := Option.some.inj hs
      exact h.setRequest _ (hloaded ▸ rfl)
  · cases hs

theorem Inv.greet (h : Inv s) {k : Nat} (hstep : InStep s (.greet k)) (hs : step s (.greet k) = some s') :
    Inv s' := by
  rw [step] at hs
  split at hs
  · rename_i config hread
    obtain rfl := Option.some.inj hs
    exact h.sendToDevice (hstep config (hread ▸ rfl))
  · rename_i hread
    obtain rfl := Option.some.inj hs
    refine h.sameAgent ⟨rfl, rfl, fun _ => List.prefix_rfl⟩ fun j config hj hconfig hpushed => ?_
    rw [setGreeting]
    dsimp only
    have hcurrent := h.current j config hj hconfig hpushed
    by_cases hjk : j = k
    · subst hjk
      rw [hread] at hcurrent
      simp only [reduceCtorEq, Greeting.read.injEq, false_or] at hcurrent
      exact .inr (.inr hcurrent)
    · rw [Function.update_of_ne hjk]
      exact hcurrent
  · cases hs

/-- The configuration that a connection reads. -/
theorem Inv.readConfig (h : Inv s) {k : Nat} (hs : step s (.read k) = some s') : Inv s' := by
  rw [step] at hs
  split at hs
  · obtain rfl := Option.some.inj hs
    refine h.sameAgent ⟨rfl, rfl, fun _ => List.prefix_rfl⟩ fun j config hj hconfig hpushed => ?_
    rw [setGreeting]
    dsimp only
    by_cases hjk : j = k
    · rw [hjk, Function.update_self]
      exact .inr (.inl (congrArg Greeting.read hconfig))
    · rw [Function.update_of_ne hjk]
      exact h.current j config hj hconfig hpushed
  · cases hs

theorem Inv.connect (h : Inv s) (hs : step s .connect = some s') : Inv s' := by
  rw [step] at hs
  split at hs
  · obtain rfl := Option.some.inj hs
    refine ⟨fun k config hk _ _ => .inl ?_, fun k i hconn => ?_, fun k i m u hconn => ?_, h.ordered⟩
    · obtain rfl := Option.some.inj hk
      exact Function.update_self ..
    · obtain ⟨-, rfl⟩ := Prod.mk.inj (Option.some.inj hconn)
      exact Nat.zero_le _
    · obtain ⟨-, hzero⟩ := Prod.mk.inj (Option.some.inj hconn)
      cases hzero
  · cases hs

/-! ## The agent's end -/

/-- The agent reads a message. -/
theorem Inv.deliver (h : Inv s) (hstep : InStep s .deliver) (hs : step s .deliver = some s') : Inv s' := by
  obtain ⟨m, hm, hmap⟩ := Option.bind_eq_some_iff.mp hs
  obtain ⟨agent, hagent, rfl⟩ := Option.map_eq_some_iff.mp hmap
  obtain ⟨⟨k, i⟩, hconn, hki⟩ := Option.bind_eq_some_iff.mp hm
  have hconn' : s.conn.map (fun c => (c.1, c.2 + 1)) = some (k, i + 1) := by
    rw [hconn, Option.map_some]
  refine ⟨h.current, fun j n hn => ?_, fun j n m' u hn hm' hdecode => ?_,
    step_ordered (hstep m hm) hagent h.ordered⟩
  · obtain ⟨rfl, rfl⟩ := Prod.mk.inj (Option.some.inj (hconn'.symm.trans hn))
    exact (List.getElem?_eq_some_iff.mp hki).1
  · obtain ⟨rfl, hi⟩ := Prod.mk.inj (Option.some.inj (hconn'.symm.trans hn))
    obtain rfl := Nat.succ.inj hi
    obtain rfl := Option.some.inj (hki.symm.trans hm')
    rw [step_updates hagent, UpdateLabel.update, hdecode, Option.toList_some, List.getLast?_concat]

/-- A step of the agent that starts no handler. -/
theorem Inv.agentStep (h : Inv s) {l : UpdateLabel} (hstep : inOrder s.agent l = true)
    (hs : step s (.agent l) = some s') : Inv s' := by
  have hrest : ∀ {agent}, updateStep s.agent l = some agent → l.update = none → Inv { s with agent } := by
    intro agent hagent hnone
    refine ⟨h.current, h.read, fun k i m u hconn hm hdecode => ?_, step_ordered hstep hagent h.ordered⟩
    rw [step_updates hagent, hnone, Option.toList_none, List.append_nil]
    exact h.told k i m u hconn hm hdecode
  cases l with
  | deliver data => cases hs
  | lock n saved =>
    obtain ⟨agent, hagent, rfl⟩ := Option.map_eq_some_iff.mp hs
    exact hrest hagent rfl
  | recv n =>
    obtain ⟨agent, hagent, rfl⟩ := Option.map_eq_some_iff.mp hs
    exact hrest hagent rfl
  | push n =>
    obtain ⟨agent, hagent, rfl⟩ := Option.map_eq_some_iff.mp hs
    exact hrest hagent rfl
  | start i =>
    obtain ⟨agent, hagent, rfl⟩ := Option.map_eq_some_iff.mp hs
    exact hrest hagent rfl
  | drain i =>
    obtain ⟨agent, hagent, rfl⟩ := Option.map_eq_some_iff.mp hs
    exact hrest hagent rfl

/-! ## Runs -/

theorem inv_init (stored : Option DeviceConfigRequest) (c : CollectConfig) : Inv (init stored c) where
  current := fun k config hk => by cases hk
  read := fun k i hconn => by cases hconn
  told := fun k i m u hconn => by cases hconn
  ordered := ⟨fun _ => tracks_loaded c, fun u hu => by cases hu⟩

theorem inv_step {l : Label} (hstep : InStep s l) (hs : step s l = some s') (h : Inv s) : Inv s' := by
  cases l with
  | load n body =>
    rw [step] at hs
    split at hs
    · rename_i hidle
      obtain rfl := Option.some.inj hs
      exact h.setRequest _ (hidle ▸ rfl)
    · cases hs
  | commit n => exact h.commit hs
  | push n => exact h.push hstep hs
  | abort n =>
    obtain rfl := Option.some.inj hs
    exact h.setRequest _ hstep
  | connect => exact h.connect hs
  | read k => exact h.readConfig hs
  | greet k => exact h.greet hstep hs
  | disconnect =>
    obtain rfl := Option.some.inj hs
    exact ⟨fun k config hk => (by cases hk), h.read, h.told, h.ordered⟩
  | deliver => exact h.deliver hstep hs
  | drop =>
    obtain rfl := Option.some.inj hs
    exact ⟨h.current, fun k i hconn => (by cases hconn), fun k i m u hconn => (by cases hconn), h.ordered⟩
  | agent l => exact h.agentStep hstep hs

/-- What the agent has taken last is everywhere, for the intervals that it sets. -/
theorem applied_of_quiet {a : Updating} (h : Ordered a) (hquiet : Quiet a) {u : ConfigUpdateData}
    (hlast : (a.handlers.map Agent.Handler.update).getLast? = some u) {i : Interval} (hpos : 0 < u.get i) :
    a.config.memory.get i = u.get i ∧ (∃ c, a.config.file = some c ∧ c.get i = u.get i) ∧
      a.period i = some (u.get i * i.unit) := by
  have htracks := h.tracks fun g hg => not_failed_of_returned (hquiet.returned g hg)
  have hsetting : lastSetting i (a.handlers.map Agent.Handler.update) = some u := by
    obtain ⟨before, hbefore⟩ := List.getLast?_eq_some_iff.mp hlast
    rw [lastSetting, hbefore, List.filter_append, List.filter_singleton, decide_eq_true hpos]
    exact List.getLast?_concat
  have hlatest := latest_returned hquiet.returned hsetting
  have hmemory : a.config.memory.get i = u.get i := (htracks.slots i).memory _ hlatest
  have hduration : durationOf i (u.get i) = u.get i * i.unit :=
    durationOf_of_small hpos (fits_get (h.fits u (List.mem_of_getLast? hlast)) i hpos)
  refine ⟨hmemory, ⟨_, htracks.file, hmemory⟩, ?_⟩
  rcases (htracks.slots i).holds _ hlatest rfl with hfull | ⟨-, hperiod⟩
  · exact absurd (hfull.symm.trans (hquiet.drained i)) (by simp)
  · exact hduration ▸ hperiod

/-- **The stored configuration wins**: in a run without late messages, the agent that has come to rest has the
    stored intervals in memory and in its file, and its tickers go by them.

    Each interval is followed from the row of the table through the pushes to the agent; at rest nothing is on the
    way, so what the agent has is the row. -/
theorem stored_config_wins {stored : Option DeviceConfigRequest} {c : CollectConfig} {ls : List Label}
    (hstep : Run.Guarded step InStep (init stored c) ls) (hs : Run.exec step (init stored c) ls = some s)
    (hsettled : Settled s) {r : DeviceConfigRequest} (hr : s.stored = some r) {u : ConfigUpdateData}
    (hu : decodeConfigUpdate r.modelDump = some u) {i : Interval} (hpos : 0 < u.get i) :
    s.agent.config.memory.get i = u.get i ∧ (∃ c, s.agent.config.file = some c ∧ c.get i = u.get i) ∧
      s.agent.period i = some (u.get i * i.unit) := by
  have hinv : Inv s := Run.exec_inv (fun _ _ _ hl hs h => inv_step hl hs h) hstep hs (inv_init stored c)
  obtain ⟨k, hk, hover, hconn⟩ := hsettled.connected
  have hlast : (s.sent k).getLast? = some r := by
    have hcurrent := hinv.current k r hk hr hsettled.pushed
    rw [hover] at hcurrent
    simpa using hcurrent
  obtain ⟨before, hbefore⟩ := List.getLast?_eq_some_iff.mp hlast
  have hread : s.conn = some (k, before.length + 1) := by
    rw [hconn, hbefore, List.length_append, List.length_singleton]
  have hm : (s.sent k)[before.length]? = some r := by
    rw [hbefore, List.getElem?_append_right (Nat.le_refl _), Nat.sub_self, List.getElem?_cons_zero]
  exact applied_of_quiet hinv.ordered hsettled.quiet (hinv.told k _ r u hread hm hu) hpos

/-- Two requests: the first commits first, and its push comes last. -/
def late : List Label :=
  [.agent (.start .telemetry), .connect, .read 0, .greet 0, .load 0 ⟨30, 0, 0⟩, .commit 0, .load 1 ⟨60, 0, 0⟩,
    .commit 1, .push 1, .push 0, .deliver, .agent (.lock 0 true), .agent (.recv 0), .agent (.push 0),
    .agent (.drain .telemetry), .deliver, .agent (.lock 1 true), .agent (.recv 1), .agent (.push 1),
    .agent (.drain .telemetry)]

/-- The agent is left with a configuration that is not stored. -/
example : ∃ s, Run.exec step (init none defaultCollect) late = some s ∧ s.stored = some ⟨60, 0, 0⟩ ∧
    s.next = none ∧ s.agent.config.memory.telemetryIntervalSecs = 30 :=
  ⟨_, rfl, rfl, rfl, rfl⟩

/-- The agent connects; a request sets its telemetry interval, and is pushed. -/
def pushed : List Label :=
  [.agent (.start .telemetry), .connect, .read 0, .greet 0, .load 0 ⟨30, 0, 0⟩, .commit 0, .push 0, .deliver,
    .agent (.lock 0 true), .agent (.recv 0), .agent (.push 0), .agent (.drain .telemetry)]

theorem stored_config_wins_pushed :
    ∃ s, Run.exec step (init none defaultCollect) pushed = some s ∧ s.stored = some ⟨30, 0, 0⟩ ∧
      s.agent.config.memory.get .telemetry = 30 ∧
      (∃ c, s.agent.config.file = some c ∧ c.get .telemetry = 30) ∧
      s.agent.period .telemetry = some (30 * Interval.telemetry.unit) := by
  have hstep : Run.Guarded step InStep (init none defaultCollect) pushed := by decide +kernel
  have hsettled : ∃ s, Run.exec step (init none defaultCollect) pushed = some s ∧ s.stored = some ⟨30, 0, 0⟩ ∧
      Settled s := by
    refine ⟨_, rfl, rfl, fun n => ?_, ⟨0, rfl, rfl, rfl⟩, List.all_eq_true.mp rfl, fun i => ?_⟩
    · cases n <;> rfl
    · cases i <;> rfl
  obtain ⟨s, hs, hr, hsettled⟩ := hsettled
  exact ⟨s, hs, hr, stored_config_wins hstep hs hsettled hr rfl (i := .telemetry) (by decide)⟩

end ConfigPush

end Dtsys
