/-
  THE HUB: the websocket connections of the devices beside the other writers of their rows.

  Each step is a transaction (or the part of one between two others) of

  * a connection: the handshake, which loads the ORM instance the endpoint will use from then on; the
    connect sequence; a message; the end;
  * `_schedule_offline` and the two halves of `_check_offline_devices_async`;
  * a maintenance request and a revocation.

  Every transaction starts on what is committed then, but a connection starts on the INSTANCE it has
  (`expire_on_commit=False`): what others have written to the row since is not in it.

  `step_change` says once what a step can do to the committed database, `step_moved` what it does
  beside it; the invariants and laws of `Dtsys.System.Freshness`, `Dtsys.System.Uptime` and
  `Dtsys.System.Detectors` follow from these two.
-/
import Dtsys.Server.Lifecycle
import Dtsys.Server.Offline

namespace Dtsys

open Server

/-- An authenticated device: the instance, and when the transaction began. -/
structure Handshake where
  device : Device
  began : Nat

/-- An open websocket and the instance of its endpoint. -/
structure Connection where
  device : Device
  socket : Socket

/-- The server; endpoints and passes are numbered. -/
structure Hub where
  world : World
  clock : Nat
  handshakes : Nat → Option Handshake
  connections : Nat → Option Connection
  passes : Nat → Option OfflinePass
  /-- what the last maintenance request of a device that went through has asked for -/
  maintenance : Uuid → Option Bool
  /-- the devices a revocation of which went through -/
  revoked : Uuid → Bool

namespace Hub

/-- The steps of the connections, of the background task and of the requests. -/
inductive Label
  | wait (micros : Nat)
  | authenticate (n : Nat) (d : Uuid) (token : String)
  | connect (n : Nat) (ws : Socket) (ip : String)
  | message (n : Nat) (message : Json)
  | close (n : Nat)
  | offlineTask (d : Uuid)
  | checkBegin (n : Nat)
  | checkEnd (n : Nat)
  | setMaintenance (org d : Uuid) (body : MaintenanceRequest)
  | revoke (user : User) (org d : Uuid)

/-- Nothing connected and nothing requested, on the database of `w`. -/
def start (w : World) : Hub :=
  ⟨w, w.clock, fun _ => none, fun _ => none, fun _ => none, fun _ => none, fun _ => false⟩

/-- What is committed. -/
def db (s : Hub) : Db := s.world.committed

/-- A transaction that begins now, of an endpoint with the instance `device`. -/
def session (s : Hub) (device : Device) : World :=
  { newSession s.world device with clock := s.clock }

/-- A transaction of an endpoint without one. -/
def request (s : Hub) : World := s.session s.world.device

variable (E : Env)

/-- The handshake.  A refused device gets no further. -/
def authenticateDevice (s : Hub) (n : Nat) (d : Uuid) (token : String) : Hub :=
  match (authenticate E d token s.request).1 with
  | .ok (some device) =>
    { s with handshakes := Function.update s.handshakes n (some ⟨device, s.clock⟩) }
  | _ => s

/-- The connect sequence; `delete(attempts_key)` may raise in front of it. -/
def connectDevice (s : Hub) (n : Nat) (hs : Handshake) (ws : Socket) (ip : String) : Hub :=
  let s := { s with handshakes := Function.update s.handshakes n none }
  match clearAttempts ip (s.session hs.device) with
  | (.error _, _) => s
  | (.ok _, w) =>
    let w := (connectSince E hs.device.id ws ip hs.began w).2
    { s with world := w, connections := Function.update s.connections n (some ⟨w.device, ws⟩) }

/-- A message.  The endpoint keeps its instance, or ends. -/
def receiveMessage (s : Hub) (n : Nat) (c : Connection) (message : Json) : Hub :=
  let w := s.session c.device
  { s with
    world := afterMessage E c.socket message w
    connections := Function.update s.connections n
      (match receive E c.socket message w with
        | (.ok _, w') => some ⟨w'.device, c.socket⟩
        | (.error _, _) => none) }

/-- The query of a pass. -/
def beginCheck (s : Hub) (n : Nat) : Hub :=
  match (findStale E s.request).1 with
  | .ok p => { s with passes := Function.update s.passes n (some p) }
  | .error _ => s

/-- The writes of a pass. -/
def endCheck (s : Hub) (n : Nat) (p : OfflinePass) : Hub :=
  { s with
    world := (markStale E p s.request).2
    passes := Function.update s.passes n none }

/-- A maintenance request. -/
def putMaintenance (s : Hub) (org d : Uuid) (body : MaintenanceRequest) : Hub :=
  match getDb E (setDeviceMaintenance E org d body) s.request with
  | (.ok _, w) =>
    { s with world := w, maintenance := Function.update s.maintenance d (some body.enabled) }
  | (.error _, w) => { s with world := w }

/-- A revocation. -/
def deleteDevice (s : Hub) (user : User) (org d : Uuid) : Hub :=
  match getDb E (revokeDeviceRequest E user org d) s.request with
  | (.ok _, w) => { s with world := w, revoked := Function.update s.revoked d true }
  | (.error _, w) => { s with world := w }

/-- One step. -/
def step (s : Hub) : Label → Option Hub
  | .wait micros => some { s with clock := s.clock + micros }
  | .authenticate n d token => some (s.authenticateDevice E n d token)
  | .connect n ws ip => (s.handshakes n).map fun hs => s.connectDevice E n hs ws ip
  | .message n message => (s.connections n).map fun c => s.receiveMessage E n c message
  | .close n => (s.connections n).map fun c =>
    { s with
      world := { s.world with manager := s.world.manager.pop c.device.id }
      connections := Function.update s.connections n none }
  | .offlineTask d => some { s with world := (scheduleOffline E d s.request).2 }
  | .checkBegin n => some (s.beginCheck E n)
  | .checkEnd n => (s.passes n).map fun p => s.endCheck E n p
  | .setMaintenance org d body => some (s.putMaintenance E org d body)
  | .revoke user org d => some (s.deleteDevice E user org d)

variable {E} {s t : Hub}

theorem session_clean (s : Hub) (device : Device) : (s.session device).Clean :=
  ⟨⟨rfl, rfl⟩, rfl⟩

theorem request_clean (s : Hub) : s.request.Clean := s.session_clean _

/-- A pass that nothing comes between is the periodic task. -/
theorem check_together (s : Hub) (n : Nat) :
    (Run.exec (step E) s [.checkBegin n, .checkEnd n]).map Hub.world =
      some (checkOfflineDevices E s.request).2 := by
  let p : OfflinePass := ⟨s.request.clock, s.request.db.devices.filter (staleDevice E s.request.clock)⟩
  have hfind : findStale E s.request = (.ok p, s.request) := findStale_run s.request_clean.toSettled
  have htask : checkOfflineDevices E s.request = markStale E p s.request := Act.bind_of_ok hfind
  have hbegin : step E s (.checkBegin n) =
      some { s with passes := Function.update s.passes n (some p) } := by
    show some (s.beginCheck E n) = _
    rw [beginCheck, hfind]
  have hend : step E { s with passes := Function.update s.passes n (some p) } (.checkEnd n) =
      some { s with
        world := (markStale E p s.request).2
        passes := Function.update (Function.update s.passes n (some p)) n none } := by
    show (Function.update s.passes n (some p) n).map _ = _
    rw [Function.update_self]
    rfl
  rw [htask, Run.exec, hbegin, Option.bind_some, Run.exec, hend]
  rfl

/-! ## What a step does to the database -/

/-- The committed database after a step that changes it. -/
inductive Change (E : Env) (s : Hub) : Label → Db → Prop
  | connected {n : Nat} {ws : Socket} {ip : String} {hs : Handshake}
      (hhs : s.handshakes n = some hs) (id : Uuid) :
      Change E s (.connect n ws ip) { s.db with
        devices := s.db.devices.map (connectedRow hs.device.id s.clock)
        uptimeEvents := s.db.uptimeEvents ++ [onlineEvent id hs.device.id hs.began s.clock s.db] }
  | handled {n : Nat} {c : Connection} {message : Json} (hc : s.connections n = some c)
      (hacc : flushAccepted E (handle E message (s.session c.device)).2 = true) :
      Change E s (.message n message) (handle E message (s.session c.device)).2.view
  | marked (d : Uuid) : Change E s (.offlineTask d) (s.db.setStatus d .offline)
  | passed {n : Nat} {p : OfflinePass} (hp : s.passes n = some p) {db' : Db}
      (h : Passed p.began p.stale s.db db') : Change E s (.checkEnd n) db'
  | maintained {org d : Uuid} {body : MaintenanceRequest}
      (hrow : ∃ r ∈ s.db.devices, r.id = d ∧ r.isRevoked = false) :
      Change E s (.setMaintenance org d body)
        (s.db.mapDevices fun r => if r.id = d then body.apply r else r)
  | revoked {user : User} {org d : Uuid} (hrow : ∃ r ∈ s.db.devices, r.id = d)
      (audit : List AuditLog) :
      Change E s (.revoke user org d) { revokeIn d s.db with auditLog := audit }

/-- The counter of attempts is cleared in Redis, or Redis fails. -/
theorem clearAttempts_run (ip : String) (w : World) :
    (∃ e, clearAttempts ip w = (.error e, w)) ∨
      ∃ redis, clearAttempts ip w = (.ok (), { w with redis := redis }) := by
  rw [clearAttempts]
  split
  · exact .inl ⟨_, rfl⟩
  · exact .inr ⟨_, rfl⟩

/-- **What a step does**: the database stays, or it changes as `Change` says. -/
theorem step_change {l : Label} (h : step E s l = some t) :
    t.db = s.db ∨ Change E s l t.db := by
  cases l with
  | wait micros =>
    cases h
    exact .inl rfl
  | authenticate n d token =>
    cases h
    left
    rw [authenticateDevice]
    split
    · rfl
    · rfl
  -- `redis.delete` may raise before the rest of the connect sequence runs.
  | connect n ws ip =>
    obtain ⟨hs, hhs, rfl⟩ := Option.map_eq_some_iff.mp h
    rw [connectDevice]
    dsimp only
    rcases clearAttempts_run ip (({ s with handshakes := Function.update s.handshakes n none } :
      Hub).session hs.device) with ⟨e, hrun⟩ | ⟨redis, hrun⟩
    · rw [hrun]
      exact .inl rfl
    · rw [hrun]
      right
      show Change E s _ (connectSince E hs.device.id ws ip hs.began _).2.committed
      rw [connectSince_committed (by exact ⟨rfl, rfl⟩)]
      exact .connected hhs _
  -- What is committed is what the handler left, if the message was handled to its end.
  | message n message =>
    obtain ⟨c, hc, rfl⟩ := Option.map_eq_some_iff.mp h
    have hcom := afterMessage_committed (E := E) (s.session_clean c.device) c.socket message
    show (afterMessage E c.socket message (s.session c.device)).committed = _ ∨
      Change E s _ (afterMessage E c.socket message (s.session c.device)).committed
    rw [hcom]
    split
    · exact .inr (.handled hc ‹_›)
    · exact .inl rfl
  | close n =>
    obtain ⟨c, hc, rfl⟩ := Option.map_eq_some_iff.mp h
    exact .inl rfl
  | offlineTask d =>
    cases h
    right
    show Change E s _ (scheduleOffline E d s.request).2.committed
    rw [scheduleOffline_committed s.request_clean.toSettled]
    exact .marked d
  | checkBegin n =>
    cases h
    left
    rw [beginCheck]
    split
    · rfl
    · rfl
  | checkEnd n =>
    obtain ⟨p, hp, rfl⟩ := Option.map_eq_some_iff.mp h
    rcases markStale_committed (E := E) s.request_clean.toSettled p with hsame | hpassed
    · exact .inl hsame
    · exact .inr (.passed hp hpassed)
  -- A request that raises commits nothing; the others commit one update of the row.
  | setMaintenance org d body =>
    cases h
    rw [putMaintenance]
    rcases setDeviceMaintenance_run (E := E) s.request_clean org d body with
      ⟨e, w', hrun, hcom⟩ | ⟨hrow, w', hrun, hcom⟩
    · rw [hrun]
      exact .inl hcom
    · rw [hrun]
      right
      show Change E s _ w'.committed
      rw [hcom]
      exact .maintained hrow
  | revoke user org d =>
    cases h
    rw [deleteDevice]
    rcases revokeDeviceRequest_run (E := E) s.request_clean user org d with
      ⟨e, w', hrun, hcom⟩ | ⟨hrow, w', audit, hrun, hcom⟩
    · rw [hrun]
      exact .inl hcom
    · rw [hrun]
      right
      show Change E s _ w'.committed
      rw [hcom]
      exact .revoked hrow audit

/-! ## What a message leaves alone -/

/-- What requests change of a row, and nobody else. -/
def standing (r : Device) : Uuid × Bool × Bool := (r.id, r.maintenanceMode, r.isRevoked)

/-- What both branches agree on. -/
theorem ite_keeps {α β : Type} (f : α → β) {p : Prop} [Decidable p] {a b : α} (h : f a = f b) :
    f (if p then a else b) = f b := by
  split
  · exact h
  · rfl

/-- A sync keeps the standing of a device. -/
theorem syncDevice_standing (x y r : Device) : standing (World.syncDevice x y r) = standing r :=
  ite_keeps standing rfl

theorem connectedRow_standing (d : Uuid) (t : Nat) (r : Device) :
    standing (connectedRow d t r) = standing r :=
  ite_keeps standing rfl

/-- An UPDATE of what is not read. -/
theorem map_keeps {β : Type} (g : Device → β) {f : Device → Device} (hf : ∀ r, g (f r) = g r)
    (rows : List Device) : (rows.map f).map g = rows.map g := by
  rw [List.map_map]
  exact List.map_congr_left fun r _ => hf r

/-- No handler of a device changes the standing of a row. -/
theorem respected_standing (d : Uuid) :
    Respected d fun a b => b.devices.map standing = a.devices.map standing where
  refl _ := rfl
  trans hab hbc := hbc.trans hab
  congr {a b} x hab := by
    rw [Db.insert_devices, Db.insert_devices]
    exact hab
  report a x _ _ := by rw [Db.insert_devices]
  sync a x y x' _ _ := by
    have hsync : ∀ z, (a.devices.map (World.syncDevice z y)).map standing =
        a.devices.map standing :=
      fun z => map_keeps standing (syncDevice_standing z y) _
    exact (hsync x').trans (hsync x).symm
  statement hf a := by rw [hf.devices]

/-- No handler of a device writes uptime events. -/
theorem respected_uptime (d : Uuid) :
    Respected d fun a b => b.uptimeEvents = a.uptimeEvents where
  refl _ := rfl
  trans hab hbc := hbc.trans hab
  congr {a b} x hab := by
    cases x with
    | uptime e => exact congrArg (· ++ [e]) hab
    | _ => exact hab
  report a x _ hx := by
    cases x with
    | uptime e => cases hx
    | _ => rfl
  sync _ _ _ _ _ _ := rfl
  statement hf a := by cases hf <;> rfl

theorem handled_standing (s : Hub) (c : Connection) (message : Json) :
    (handle E message (s.session c.device)).2.view.devices.map standing =
      s.db.devices.map standing :=
  handle_respects (respected_standing c.device.id) (fun _ _ _ => rfl) (fun _ _ _ => rfl)
    (s.session_clean _).toSettled rfl message

/-- A message writes no uptime event. -/
theorem handled_uptime (s : Hub) (c : Connection) (message : Json) :
    (handle E message (s.session c.device)).2.view.uptimeEvents = s.db.uptimeEvents :=
  handle_respects (respected_uptime c.device.id) (fun _ _ _ => rfl) (fun _ _ _ => rfl)
    (s.session_clean _).toSettled rfl message

theorem map_id_of_standing {xs ys : List Device} (h : xs.map standing = ys.map standing) :
    xs.map Device.id = ys.map Device.id := by
  have hid : ∀ zs : List Device, zs.map Device.id = (zs.map standing).map Prod.fst := by
    intro zs
    rw [List.map_map]
    rfl
  rw [hid xs, hid ys, h]

/-- What a change that is no request does to the standing of the rows: nothing. -/
theorem Change.standing_eq {l : Label} {a : Db} (h : Change E s l a)
    (hm : ∀ org d body, l ≠ .setMaintenance org d body) (hr : ∀ user org d, l ≠ .revoke user org d) :
    a.devices.map standing = s.db.devices.map standing := by
  cases h with
  | connected hhs id => exact map_keeps standing (connectedRow_standing _ _) _
  | handled hc hacc => exact handled_standing s _ _
  | marked d =>
    refine map_keeps standing (fun r => ?_) _
    exact ite_keeps standing rfl
  | passed hp h =>
    rw [h.devices]
    refine map_keeps standing (fun r => ?_) _
    exact ite_keeps standing rfl
  | maintained hrow => exact absurd rfl (hm _ _ _)
  | revoked hrow audit => exact absurd rfl (hr _ _ _)

/-- No change adds or removes a device. -/
theorem Change.ids_eq {l : Label} {a : Db} (h : Change E s l a) :
    a.devices.map Device.id = s.db.devices.map Device.id := by
  cases h with
  | handled hc hacc => exact map_id_of_standing (handled_standing s _ _)
  | passed hp h =>
    rw [h.devices]
    refine map_keeps Device.id (fun r => ?_) _
    exact ite_keeps Device.id rfl
  | _ =>
    -- an UPDATE of one row
    refine map_keeps Device.id (fun r => ?_) _
    exact ite_keeps Device.id rfl

/-- No step of the hub changes the ids of the devices. -/
theorem step_ids {l : Label} (h : step E s l = some t) :
    t.db.devices.map Device.id = s.db.devices.map Device.id := by
  rcases step_change h with hsame | hchange
  · rw [hsame]
  · exact hchange.ids_eq

/-- Uptime events are written by connections and passes only. -/
theorem Change.uptime_eq {l : Label} {a : Db} (h : Change E s l a)
    (hc : ∀ n ws ip, l ≠ .connect n ws ip) (hp : ∀ n, l ≠ .checkEnd n) :
    a.uptimeEvents = s.db.uptimeEvents := by
  cases h with
  | connected hhs id => exact absurd rfl (hc _ _ _)
  | handled hconn hacc => exact handled_uptime s _ _
  | marked d => rfl
  | passed hpass h => exact absurd rfl (hp _)
  | maintained hrow => rfl
  | revoked hrow audit => rfl

/-! ## Keys and times -/

/-- No two rows have the same id, nor two rows a pass has found; and what has begun has begun
    before now. -/
structure Timed (s : Hub) : Prop where
  keys : (s.db.devices.map Device.id).Nodup
  passes : ∀ n p, s.passes n = some p → p.began ≤ s.clock ∧ (p.stale.map Device.id).Nodup
  handshakes : ∀ n hs, s.handshakes n = some hs → hs.began ≤ s.clock

theorem timed_start {w : World} (hkeys : (w.committed.devices.map Device.id).Nodup) :
    Timed (start w) :=
  ⟨hkeys, fun _ _ h => (nomatch h), fun _ _ h => nomatch h⟩

/-- What a step does beside the database: the time goes on, and an entry of a table is an old one or
    one that its step has just made. -/
structure Moved (E : Env) (s : Hub) (l : Label) (t : Hub) : Prop where
  clock : s.clock ≤ t.clock
  passes : ∀ n p, t.passes n = some p → s.passes n = some p ∨
    p = ⟨s.clock, s.db.devices.filter (staleDevice E s.clock)⟩
  handshakes : ∀ n hs, t.handshakes n = some hs → s.handshakes n = some hs ∨ hs.began = s.clock
  connections : ∀ n c, t.connections n = some c → s.connections n = some c ∨
    c.device.status = .online ∨ ∃ c₀ message, s.connections n = some c₀ ∧
      c.device = (receive E c₀.socket message (s.session c₀.device)).2.device
  requests : (∀ org d body, l ≠ .setMaintenance org d body) → (∀ user org d, l ≠ .revoke user org d) →
    t.maintenance = s.maintenance ∧ t.revoked = s.revoked

/-- A step that makes no entry. -/
theorem Moved.of_eq {l : Label} (hclock : s.clock ≤ t.clock) (hp : t.passes = s.passes)
    (hh : t.handshakes = s.handshakes) (hc : t.connections = s.connections)
    (hr : (∀ org d body, l ≠ .setMaintenance org d body) → (∀ user org d, l ≠ .revoke user org d) →
      t.maintenance = s.maintenance ∧ t.revoked = s.revoked) : Moved E s l t :=
  ⟨hclock, fun _ _ h => .inl (hp ▸ h), fun _ _ h => .inl (hh ▸ h), fun _ _ h => .inl (hc ▸ h), hr⟩

/-- An entry of an updated table is the new one or an old one. -/
theorem update_eq_some {α : Type} {f : Nat → Option α} {n m : Nat} {v : Option α} {a : α}
    (h : Function.update f n v m = some a) : (m = n ∧ v = some a) ∨ f m = some a := by
  by_cases hm : m = n
  · subst hm
    rw [Function.update_self] at h
    exact .inl ⟨rfl, h⟩
  · rw [Function.update_of_ne hm] at h
    exact .inr h

/-- An entry that is left after a deletion is an old one. -/
theorem of_update_none {α : Type} {f : Nat → Option α} {n m : Nat} {a : α}
    (h : Function.update f n none m = some a) : f m = some a := by
  rcases update_eq_some h with ⟨-, hnone⟩ | hold
  · cases hnone
  · exact hold

/-- **What a step does beside the database.** -/
theorem step_moved {l : Label} (h : step E s l = some t) : Moved E s l t := by
  cases l with
  | wait micros =>
    cases h
    exact .of_eq (Nat.le_add_right ..) rfl rfl rfl fun _ _ => ⟨rfl, rfl⟩
  -- A handshake that is new has read its row just now.
  | authenticate n d token =>
    cases h
    rw [authenticateDevice]
    split
    · refine ⟨Nat.le_refl _, fun _ _ hp => .inl hp, fun m hs hhs => ?_, fun _ _ hc => .inl hc,
        fun _ _ => ⟨rfl, rfl⟩⟩
      rcases update_eq_some hhs with ⟨-, hnew⟩ | hold
      · cases hnew
        exact .inr rfl
      · exact .inl hold
    · exact .of_eq (Nat.le_refl _) rfl rfl rfl fun _ _ => ⟨rfl, rfl⟩
  | connect n ws ip =>
    obtain ⟨hs, hhs, rfl⟩ := Option.map_eq_some_iff.mp h
    rw [connectDevice]
    dsimp only
    rcases clearAttempts_run ip (({ s with handshakes := Function.update s.handshakes n none } :
      Hub).session hs.device) with ⟨e, hrun⟩ | ⟨redis, hrun⟩
    · rw [hrun]
      exact ⟨Nat.le_refl _, fun _ _ hp => .inl hp, fun _ _ hold => .inl (of_update_none hold),
        fun _ _ hc => .inl hc, fun _ _ => ⟨rfl, rfl⟩⟩
    · rw [hrun]
      refine ⟨Nat.le_refl _, fun _ _ hp => .inl hp, fun _ _ hold => .inl (of_update_none hold),
        fun m c hc => ?_, fun _ _ => ⟨rfl, rfl⟩⟩
      rcases update_eq_some hc with ⟨-, hnew⟩ | hold
      · cases hnew
        exact .inr (.inl (connectSince_online (by exact ⟨rfl, rfl⟩) _ _ _ _))
      · exact .inl hold
  -- The session of a connection lives on only if the message did not raise.
  | message n message =>
    obtain ⟨c₀, hc₀, rfl⟩ := Option.map_eq_some_iff.mp h
    refine ⟨Nat.le_refl _, fun _ _ hp => .inl hp, fun _ _ hh => .inl hh, fun m c hc => ?_,
      fun _ _ => ⟨rfl, rfl⟩⟩
    rcases update_eq_some hc with ⟨rfl, hnew⟩ | hold
    · rcases hrun : receive E c₀.socket message (s.session c₀.device) with ⟨e | u, w'⟩
      · rw [hrun] at hnew
        cases hnew
      · rw [hrun] at hnew
        cases hnew
        exact .inr (.inr ⟨c₀, message, hc₀, by rw [hrun]⟩)
    · exact .inl hold
  | close n =>
    obtain ⟨c, hc, rfl⟩ := Option.map_eq_some_iff.mp h
    exact ⟨Nat.le_refl _, fun _ _ hp => .inl hp, fun _ _ hh => .inl hh,
      fun _ _ hold => .inl (of_update_none hold), fun _ _ => ⟨rfl, rfl⟩⟩
  | offlineTask d =>
    cases h
    exact .of_eq (Nat.le_refl _) rfl rfl rfl fun _ _ => ⟨rfl, rfl⟩
  -- The pending check holds the rows that the query finds now.
  | checkBegin n =>
    cases h
    rw [beginCheck, findStale_run s.request_clean.toSettled]
    refine ⟨Nat.le_refl _, fun m p hp => ?_, fun _ _ hh => .inl hh, fun _ _ hc => .inl hc,
      fun _ _ => ⟨rfl, rfl⟩⟩
    rcases update_eq_some hp with ⟨-, hnew⟩ | hold
    · cases hnew
      exact .inr rfl
    · exact .inl hold
  | checkEnd n =>
    obtain ⟨p, hp, rfl⟩ := Option.map_eq_some_iff.mp h
    exact ⟨Nat.le_refl _, fun _ _ hold => .inl (of_update_none hold), fun _ _ hh => .inl hh,
      fun _ _ hc => .inl hc, fun _ _ => ⟨rfl, rfl⟩⟩
  | setMaintenance org d body =>
    cases h
    rw [putMaintenance]
    split
    · exact .of_eq (Nat.le_refl _) rfl rfl rfl fun hm _ => absurd rfl (hm org d body)
    · exact .of_eq (Nat.le_refl _) rfl rfl rfl fun _ _ => ⟨rfl, rfl⟩
  | revoke user org d =>
    cases h
    rw [deleteDevice]
    split
    · exact .of_eq (Nat.le_refl _) rfl rfl rfl fun _ hr => absurd rfl (hr user org d)
    · exact .of_eq (Nat.le_refl _) rfl rfl rfl fun _ _ => ⟨rfl, rfl⟩

theorem step_timed {l : Label} (h : step E s l = some t) (hs : Timed s) : Timed t := by
  have hmoved := step_moved h
  refine ⟨by rw [step_ids h]; exact hs.keys, fun n p hp => ?_, fun n x hx => ?_⟩
  · rcases hmoved.passes n p hp with hold | rfl
    · obtain ⟨hbegan, hnodup⟩ := hs.passes n p hold
      exact ⟨Nat.le_trans hbegan hmoved.clock, hnodup⟩
    · exact ⟨hmoved.clock, hs.keys.sublist (List.filter_sublist.map Device.id)⟩
  · rcases hmoved.handshakes n x hx with hold | hnew
    · exact Nat.le_trans (hs.handshakes n x hold) hmoved.clock
    · rw [hnew]
      exact hmoved.clock

end Hub

end Dtsys
