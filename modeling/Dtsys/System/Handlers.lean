/-
  The `device_websocket` tasks of ONE server process, INTERLEAVED.

  asyncio runs one task at a time and switches only at an `await`.  A label is one stretch of a task
  between two suspensions, so a schedule of labels is an interleaving:

  * a handler, named by its socket `h`:  `connect` (nobody to replace) or `replace` (suspended in
    `old_ws.close` with `_lock` held) and `register`; `cancelOffline`; `serve`; then `leave` or
    `oversized` into the `finally` block, whose first act is `ping_task.cancel`; `pop`; `schedule`.
    A failure in front of the `try` is `abort`: nobody cleans up;
  * `send_to_device` of anybody: `send` (look the socket up), then `sendDone`, or `sendFails` and
    `drop`, the `disconnect` of a failed send;
  * an explicit `disconnect` (the revocation of a device), a ping that fails, the end of an offline
    task, and `lose`: the peer leaves or the network fails.

  `_lock` is held ACROSS a suspension only in `replace`; every other critical section is one stretch.

  The clean-up is keyed by DEVICE: `pop` and `drop` remove and close whatever socket the device has
  by then.  The specification is an observer of the schedule, `rightful`: the connection a device
  ought to have.  It has it as long as no clean-up meets the entry of somebody else
  (`replaced_cleanup_harmless`), and loses it otherwise (`cleanup_closes_successor`).
-/
import Dtsys.Lib.Run
import Dtsys.Server.Manager

namespace Dtsys

/-- Where a `device_websocket` task stands. -/
inductive Phase
  | handshake
  /-- in `connect`, suspended in `old_ws.close`, `_lock` held -/
  | replacing
  /-- in the table, on its way to `_cancel_pending_offline` -/
  | registered
  /-- the rest of the connect sequence, in front of the `try` -/
  | connected
  /-- in the receive loop -/
  | serving
  /-- in `finally`, on its way to the critical section of `disconnect` -/
  | leaving
  /-- in `finally`, suspended in `websocket.close` -/
  | closing
  | done
  deriving DecidableEq, Repr

namespace Phase

/-- Not in the table yet. -/
def fresh : Phase → Bool
  | handshake | replacing => true
  | _ => false

/-- In the table, and not on its way out. -/
def up : Phase → Bool
  | registered | connected | serving => true
  | _ => false

end Phase

/-- A call of `send_to_device`. -/
inductive Sender
  | idle
  | sending (d : Uuid) (ws : Socket)
  /-- `send_json` raised; next is `self.disconnect` -/
  | failed (d : Uuid) (ws : Socket)
  deriving DecidableEq, Repr

/-- What the tasks were called with: the device of each handler, and the entry of `_metadata` it is
    going to write. -/
structure Conns where
  dev : Socket → Uuid
  info : Socket → ConnMeta

/-- The state the tasks of a process share, and where each of them stands. -/
structure Process where
  manager : Manager
  /-- the handler that holds `_lock` across a suspension -/
  lock : Option Socket
  phase : Socket → Phase
  /-- the peer has left or the network failed -/
  dead : Socket → Bool
  /-- the ping task is running -/
  ping : Socket → Bool
  /-- the keys of `_pending_offline` -/
  pendingOffline : Uuid → Bool
  /-- how many `_schedule_offline` tasks of the device have not ended -/
  offlineTasks : Uuid → Nat
  sender : Nat → Sender

namespace Handlers

/-- The steps of the handler tasks, of the senders and of the peers. -/
inductive Label
  | connect (h : Socket)
  | replace (h : Socket)
  | register (h : Socket)
  | cancelOffline (h : Socket)
  | serve (h : Socket)
  | abort (h : Socket)
  | leave (h : Socket)
  | oversized (h : Socket)
  | pop (h : Socket)
  | schedule (h : Socket)
  | pingFails (h : Socket)
  | offlineEnds (d : Uuid)
  | disconnect (d : Uuid)
  | send (n : Nat) (d : Uuid)
  | sendDone (n : Nat) (d : Uuid) (ws : Socket)
  | sendFails (n : Nat) (d : Uuid) (ws : Socket)
  | drop (n : Nat) (d : Uuid) (ws : Socket)
  | lose (h : Socket)
  deriving DecidableEq, Repr

/-- No task yet. -/
def init : Process where
  manager := .empty
  lock := none
  phase := fun _ => .handshake
  dead := fun _ => false
  ping := fun _ => false
  pendingOffline := fun _ => false
  offlineTasks := fun _ => 0
  sender := fun _ => .idle

/-- Send on `ws` raises. -/
def broken (s : Process) (ws : Socket) : Prop := s.dead ws = true ∨ s.manager.closed ws = true

variable (C : Conns)

/-- When a stretch can run. -/
def Enabled (s : Process) : Label → Prop
  | .connect h => s.phase h = .handshake ∧ s.lock = none ∧ s.manager.connections (C.dev h) = none
  | .replace h =>
    s.phase h = .handshake ∧ s.lock = none ∧ s.manager.connections (C.dev h) ≠ none
  | .register h => s.phase h = .replacing ∧ s.lock = some h
  | .cancelOffline h => s.phase h = .registered
  | .serve h => s.phase h = .connected
  | .abort h => s.phase h = .connected
  | .leave h => s.phase h = .serving
  | .oversized h => s.phase h = .serving
  | .pop h => s.phase h = .leaving ∧ s.lock = none
  | .schedule h => s.phase h = .closing
  | .pingFails h => s.ping h = true ∧ broken s h
  | .offlineEnds d => 0 < s.offlineTasks d
  | .disconnect _ => s.lock = none
  | .send n _ => s.sender n = .idle
  | .sendDone n d ws => s.sender n = .sending d ws ∧ ¬ broken s ws
  | .sendFails n d ws => s.sender n = .sending d ws ∧ broken s ws
  | .drop n d ws => s.sender n = .failed d ws ∧ s.lock = none
  | .lose _ => True

instance (s : Process) (ws : Socket) : Decidable (broken s ws) :=
  inferInstanceAs (Decidable (_ ∨ _))

instance (s : Process) : ∀ l, Decidable (Enabled C s l)
  | .connect .. | .replace .. => inferInstanceAs (Decidable (_ ∧ _ ∧ _))
  | .register .. | .pop .. | .pingFails .. | .sendDone .. | .sendFails .. | .drop .. =>
    inferInstanceAs (Decidable (_ ∧ _))
  | .cancelOffline .. | .serve .. | .abort .. | .leave .. | .oversized .. | .schedule ..
  | .disconnect .. | .send .. => inferInstanceAs (Decidable (_ = _))
  | .offlineEnds .. => inferInstanceAs (Decidable (_ < _))
  | .lose .. => inferInstanceAs (Decidable True)

/-- The task of `h` goes on. -/
def goto (s : Process) (h : Socket) (p : Phase) : Process :=
  { s with phase := Function.update s.phase h p }

/-- The call `n` goes on. -/
def callGoto (s : Process) (n : Nat) (c : Sender) : Process :=
  { s with sender := Function.update s.sender n c }

/-- `create_task(_schedule_offline(device_id))`, unless one is registered. -/
def scheduleOffline (s : Process) (d : Uuid) : Process :=
  { s with
    pendingOffline := Function.update s.pendingOffline d true
    offlineTasks := if s.pendingOffline d then s.offlineTasks
      else Function.update s.offlineTasks d (s.offlineTasks d + 1) }

/-- The end of an offline task, cancelled or not: it removes the entry of the device, even when that
    is the entry of a newer task. -/
def offlineEnds (s : Process) (d : Uuid) : Process :=
  { s with
    pendingOffline := Function.update s.pendingOffline d false
    offlineTasks := Function.update s.offlineTasks d (s.offlineTasks d - 1) }

/-- What a stretch does. -/
def effect (s : Process) : Label → Process
  | .connect h =>
    goto { s with manager := s.manager.register (C.dev h) h (C.info h) } h .registered
  | .replace h =>
    goto { s with manager := s.manager.closeOld (C.dev h), lock := some h } h .replacing
  | .register h =>
    goto { s with manager := s.manager.register (C.dev h) h (C.info h), lock := none } h .registered
  | .cancelOffline h =>
    goto { s with pendingOffline := Function.update s.pendingOffline (C.dev h) false } h .connected
  | .serve h => goto { s with ping := Function.update s.ping h true } h .serving
  | .abort h => goto s h .done
  | .leave h => goto { s with ping := Function.update s.ping h false } h .leaving
  | .oversized h =>
    goto { s with manager := s.manager.close (some h), ping := Function.update s.ping h false } h
      .leaving
  | .pop h => goto { s with manager := s.manager.pop (C.dev h) } h .closing
  | .schedule h => goto (scheduleOffline s (C.dev h)) h .done
  | .pingFails h => { s with ping := Function.update s.ping h false }
  | .offlineEnds d => offlineEnds s d
  | .disconnect d => { s with manager := s.manager.pop d }
  | .send n d =>
    match s.manager.connections d with
    | none => s
    | some ws => callGoto s n (.sending d ws)
  | .sendDone n _ _ => callGoto s n .idle
  | .sendFails n d ws => callGoto s n (.failed d ws)
  | .drop n d _ => callGoto { s with manager := s.manager.pop d } n .idle
  | .lose h => { s with dead := Function.update s.dead h true }

/-- One stretch of one task. -/
def step : Process → Label → Option Process := Run.guardedStep (Enabled C) (effect C)

/-! ## The connection a device ought to have -/

/-- Connection `h` has ended by itself. -/
def retire (o : Uuid → Option Socket) (h : Socket) : Uuid → Option Socket :=
  if o (C.dev h) = some h then Function.update o (C.dev h) none else o

/-- The last connection of the device that was registered, unless it left its loop, is being
    replaced, or was disconnected on request. -/
def rightful (o : Uuid → Option Socket) : Label → Uuid → Option Socket
  | .connect h => Function.update o (C.dev h) (some h)
  | .replace h => Function.update o (C.dev h) none
  | .register h => Function.update o (C.dev h) (some h)
  | .abort h => retire C o h
  | .leave h => retire C o h
  | .oversized h => retire C o h
  | .disconnect d => Function.update o d none
  | _ => o

/-- Device `d` is served by `ws`: it is the entry of the table, it is open, and a send picks it. -/
structure Serves (s : Process) (d : Uuid) (ws : Socket) : Prop where
  entry : s.manager.connections d = some ws
  stays_open : s.manager.closed ws = false
  connected : s.manager.isConnected d = true
  picked : ∀ n s', step C s (.send n d) = some s' → s'.sender n = .sending d ws

/-- The stretches of the `finally` block of `h` (and what leads into it). -/
def finaliser (h : Socket) : List Label := [.leave h, .oversized h, .pop h, .schedule h]

/-- No stretch of a `finally` block removes or closes the socket of another handler. -/
def Harmless (s : Process) (l : Label) : Prop :=
  ∀ h s', l ∈ finaliser h → step C s l = some s' → ∀ d ws, ws ≠ h →
    s.manager.connections d = some ws →
      s'.manager.connections d = some ws ∧ s'.manager.closed ws = s.manager.closed ws

/-- A clean-up finds no entry, or the entry it is meant for. -/
def OwnEntry (s : Process) : Label → Prop
  | .pop h => s.manager.connections (C.dev h) = none ∨ s.manager.connections (C.dev h) = some h
  | .drop _ d ws => s.manager.connections d = none ∨ s.manager.connections d = some ws
  | _ => True

instance (s : Process) : ∀ l, Decidable (OwnEntry C s l)
  | .pop .. | .drop .. => inferInstanceAs (Decidable (_ ∨ _))
  | .connect .. | .replace .. | .register .. | .cancelOffline .. | .serve .. | .abort ..
  | .leave .. | .oversized .. | .schedule .. | .pingFails .. | .offlineEnds .. | .disconnect ..
  | .send .. | .sendDone .. | .sendFails .. | .lose .. => inferInstanceAs (Decidable True)

/-! ## The invariant -/

variable {C}

/-- What relates the process to the connections devices ought to have. -/
structure Inv (C : Conns) (s : Process) (o : Uuid → Option Socket) : Prop where
  entry_dev : ∀ d ws, s.manager.connections d = some ws →
    C.dev ws = d ∧ (s.phase ws).fresh = false
  fresh_open : ∀ ws, (s.phase ws).fresh = true → s.manager.closed ws = false
  failed_broken : ∀ n d ws, s.sender n = .failed d ws → broken s ws
  rightful : ∀ d ws, o d = some ws → s.dead ws = false →
    s.manager.connections d = some ws ∧ s.manager.closed ws = false ∧ (s.phase ws).up = true

theorem inv_init : Inv C init fun _ => none :=
  ⟨fun _ _ h => (nomatch h), fun _ _ => rfl, fun _ _ _ h => (nomatch h), fun _ _ h => (nomatch h)⟩

section

variable {s s' : Process} {o o' : Uuid → Option Socket}

/-- The invariant does not look at the lock, the pings and the offline tasks. -/
theorem Inv.congr (h : Inv C s o) (hm : s'.manager = s.manager) (hp : s'.phase = s.phase)
    (hd : s'.dead = s.dead) (hs : s'.sender = s.sender) : Inv C s' o := by
  refine ⟨?_, ?_, ?_, ?_⟩
  · rw [hm, hp]; exact h.entry_dev
  · rw [hm, hp]; exact h.fresh_open
  · unfold broken; rw [hm, hd, hs]; exact h.failed_broken
  · rw [hm, hp, hd]; exact h.rightful

/-- Fewer connections ought to be there. -/
theorem Inv.weaken (h : Inv C s o) (hsub : ∀ d ws, o' d = some ws → o d = some ws) : Inv C s o' :=
  ⟨h.entry_dev, h.fresh_open, h.failed_broken, fun d ws ho => h.rightful d ws (hsub d ws ho)⟩

/-- A task goes on to `p`, without becoming fresh again. -/
theorem Inv.goto (h : Inv C s o) (ws : Socket) (p : Phase)
    (hfresh : p.fresh = true → (s.phase ws).fresh = true)
    (hup : ∀ d, o d = some ws → s.dead ws = false → p.up = true) :
    Inv C (Handlers.goto s ws p) o := by
  refine ⟨?_, ?_, h.failed_broken, ?_⟩
  · intro d v hv
    obtain ⟨hdev, hf⟩ := h.entry_dev d v hv
    refine ⟨hdev, ?_⟩
    show (Function.update s.phase ws p v).fresh = false
    by_cases hvw : v = ws
    · subst hvw
      rw [Function.update_self]
      exact Bool.eq_false_iff.mpr fun hp => Bool.eq_false_iff.mp hf (hfresh hp)
    · rw [Function.update_of_ne hvw]
      exact hf
  · intro v hv
    replace hv : (Function.update s.phase ws p v).fresh = true := hv
    by_cases hvw : v = ws
    · subst hvw
      rw [Function.update_self] at hv
      exact h.fresh_open v (hfresh hv)
    · rw [Function.update_of_ne hvw] at hv
      exact h.fresh_open v hv
  · intro d v hv hd
    obtain ⟨hentry, hopen, hphase⟩ := h.rightful d v hv hd
    refine ⟨hentry, hopen, ?_⟩
    show (Function.update s.phase ws p v).up = true
    by_cases hvw : v = ws
    · subst hvw
      rw [Function.update_self]
      exact hup d hv hd
    · rw [Function.update_of_ne hvw]
      exact hphase

/-- A task goes on from a phase to one that is neither fresher nor less up. -/
theorem Inv.proceed (h : Inv C s o) {ws : Socket} {q : Phase} (hq : s.phase ws = q) (p : Phase)
    (hfresh : p.fresh = true → q.fresh = true) (hup : q.up = true → p.up = true) :
    Inv C (Handlers.goto s ws p) o := by
  refine h.goto ws p (fun hp => by rw [hq]; exact hfresh hp) fun d ho hdead => ?_
  have hphase := (h.rightful d ws ho hdead).2.2
  rw [hq] at hphase
  exact hup hphase

/-- A fresh handler enters the table: it is the one its device ought to have. -/
theorem Inv.register (h : Inv C s o) (ws : Socket) (hf : (s.phase ws).fresh = true) :
    Inv C (Handlers.goto { s with manager := s.manager.register (C.dev ws) ws (C.info ws) } ws
      .registered) (Function.update o (C.dev ws) (some ws)) := by
  refine ⟨?_, ?_, h.failed_broken, ?_⟩
  · intro d v hv
    replace hv : Function.update s.manager.connections (C.dev ws) (some ws) d = some v := hv
    show C.dev v = d ∧ (Function.update s.phase ws .registered v).fresh = false
    by_cases hd : d = C.dev ws
    · subst hd
      rw [Function.update_self] at hv
      cases hv
      exact ⟨rfl, by rw [Function.update_self]; rfl⟩
    · rw [Function.update_of_ne hd] at hv
      obtain ⟨hdev, hvf⟩ := h.entry_dev d v hv
      -- a socket belongs to one device, so the new one is not the entry of another
      have hne : v ≠ ws := fun hvw => hd (by rw [← hdev, hvw])
      exact ⟨hdev, by rw [Function.update_of_ne hne]; exact hvf⟩
  · intro v hv
    replace hv : (Function.update s.phase ws .registered v).fresh = true := hv
    by_cases hvw : v = ws
    · subst hvw
      rw [Function.update_self] at hv
      cases hv
    · rw [Function.update_of_ne hvw] at hv
      exact h.fresh_open v hv
  · intro d v hv hdead
    show Function.update s.manager.connections (C.dev ws) (some ws) d = some v ∧
      s.manager.closed v = false ∧ (Function.update s.phase ws .registered v).up = true
    by_cases hd : d = C.dev ws
    · subst hd
      rw [Function.update_self] at hv ⊢
      cases hv
      exact ⟨rfl, h.fresh_open ws hf, by rw [Function.update_self]; rfl⟩
    · rw [Function.update_of_ne hd] at hv ⊢
      obtain ⟨hentry, hopen, hup⟩ := h.rightful d v hv hdead
      have hne : v ≠ ws := fun hvw => hd (by rw [← (h.entry_dev d v hentry).1, hvw])
      exact ⟨hentry, hopen, by rw [Function.update_of_ne hne]; exact hup⟩

/-- The table forgets sockets, or closes them: only sockets in the table, and none that a device
    ought to have. -/
theorem Inv.shrink (h : Inv C s o) {m : Manager}
    (hsub : ∀ d ws, m.connections d = some ws → s.manager.connections d = some ws)
    (hclosed : ∀ ws, s.manager.closed ws = true → m.closed ws = true)
    (hfresh : ∀ ws, (s.phase ws).fresh = true → m.closed ws = s.manager.closed ws)
    (hkeep : ∀ d ws, o d = some ws → s.dead ws = false → m.connections d = some ws ∧
      m.closed ws = s.manager.closed ws) : Inv C { s with manager := m } o := by
  refine ⟨fun d ws hws => h.entry_dev d ws (hsub d ws hws), ?_, ?_, ?_⟩
  · intro ws hf
    show m.closed ws = false
    rw [hfresh ws hf]
    exact h.fresh_open ws hf
  · intro n d ws hws
    exact (h.failed_broken n d ws hws).imp id (hclosed ws)
  · intro d ws ho hd
    obtain ⟨-, hopen, hup⟩ := h.rightful d ws ho hd
    obtain ⟨hentry, hsame⟩ := hkeep d ws ho hd
    exact ⟨hentry, hsame.trans hopen, hup⟩

/-- The socket of another device is not the one that `disconnect` or `replace` closes. -/
theorem Inv.closed_other (h : Inv C s o) {d e : Uuid} {ws : Socket} (hde : e ≠ d)
    (hws : s.manager.connections e = some ws) :
    (s.manager.closed ws || decide (s.manager.connections d = some ws)) = s.manager.closed ws := by
  have hne : s.manager.connections d ≠ some ws :=
    fun hd => hde ((h.entry_dev e ws hws).1.symm.trans (h.entry_dev d ws hd).1)
  rw [decide_eq_false hne, Bool.or_false]

/-- A socket that has just come is not closed. -/
theorem Inv.closed_fresh (h : Inv C s o) (d : Uuid) {ws : Socket} (hf : (s.phase ws).fresh = true) :
    (s.manager.closed ws || decide (s.manager.connections d = some ws)) = s.manager.closed ws := by
  have hne : s.manager.connections d ≠ some ws := by
    intro hd
    rw [(h.entry_dev d ws hd).2] at hf
    cases hf
  rw [decide_eq_false hne, Bool.or_false]

/-- `disconnect` of a device that ought to have no connection (or has lost it). -/
theorem Inv.pop (h : Inv C s o) {d : Uuid} (hno : ∀ ws, o d = some ws → s.dead ws = true) :
    Inv C { s with manager := s.manager.pop d } o := by
  refine h.shrink ?_ ?_ ?_ ?_
  · intro e ws hws
    rw [Manager.pop_connections] at hws
    by_cases hed : e = d
    · subst hed
      rw [Function.update_self] at hws
      cases hws
    · rwa [Function.update_of_ne hed] at hws
  · intro ws hws
    rw [Manager.pop_closed, hws, Bool.true_or]
  · intro ws hf
    rw [Manager.pop_closed, h.closed_fresh d hf]
  · intro e ws ho hd
    have hed : e ≠ d := by
      rintro rfl
      rw [hno ws ho] at hd
      cases hd
    have hentry := (h.rightful e ws ho hd).1
    rw [Manager.pop_connections, Manager.pop_closed, Function.update_of_ne hed,
      h.closed_other hed hentry]
    exact ⟨hentry, rfl⟩

/-- The first half of `connect`: the old socket is closed, and the device ought to have none. -/
theorem Inv.closeOld (h : Inv C s o) {d : Uuid} (hno : o d = none) :
    Inv C { s with manager := s.manager.closeOld d } o := by
  refine h.shrink ?_ ?_ ?_ ?_
  · intro e ws hws
    rwa [Manager.closeOld_connections] at hws
  · intro ws hws
    rw [Manager.closeOld_closed, hws, Bool.true_or]
  · intro ws hf
    rw [Manager.closeOld_closed, h.closed_fresh d hf]
  · intro e ws ho hd
    have hed : e ≠ d := by
      rintro rfl
      rw [hno] at ho
      cases ho
    have hentry := (h.rightful e ws ho hd).1
    rw [Manager.closeOld_connections, Manager.closeOld_closed, h.closed_other hed hentry]
    exact ⟨hentry, rfl⟩

/-- A call of `send_to_device` goes on. -/
theorem Inv.callGoto (h : Inv C s o) {n : Nat} {c : Sender}
    (hc : ∀ d ws, c = .failed d ws → broken s ws) : Inv C (callGoto s n c) o := by
  refine ⟨h.entry_dev, h.fresh_open, ?_, h.rightful⟩
  intro k d ws hk
  replace hk : Function.update s.sender n c k = .failed d ws := hk
  by_cases hkn : k = n
  · subst hkn
    rw [Function.update_self] at hk
    exact hc d ws hk
  · rw [Function.update_of_ne hkn] at hk
    exact h.failed_broken k d ws hk

/-- A socket is lost: nobody ought to have it any more. -/
theorem Inv.lose (h : Inv C s o) (ws : Socket) :
    Inv C { s with dead := Function.update s.dead ws true } o := by
  have hmono : ∀ v, Function.update s.dead ws true v = false → s.dead v = false := by
    intro v hv
    by_cases hvw : v = ws
    · subst hvw
      rw [Function.update_self] at hv
      cases hv
    · rwa [Function.update_of_ne hvw] at hv
  refine ⟨h.entry_dev, h.fresh_open, ?_, fun d v ho hd => h.rightful d v ho (hmono v hd)⟩
  intro n d v hv
  rcases h.failed_broken n d v hv with hdead | hclosed
  · refine Or.inl ?_
    by_contra hne
    rw [hmono v (Bool.eq_false_iff.mpr hne)] at hdead
    cases hdead
  · exact Or.inr hclosed

end

/-! ## One stretch -/

theorem update_none_sub (o : Uuid → Option Socket) (d : Uuid) :
    ∀ e ws, Function.update o d none e = some ws → o e = some ws := by
  intro e ws h
  by_cases hed : e = d
  · subst hed
    rw [Function.update_self] at h
    cases h
  · rwa [Function.update_of_ne hed] at h

theorem retire_sub (o : Uuid → Option Socket) (ws : Socket) :
    ∀ d v, retire C o ws d = some v → o d = some v := by
  rw [retire]
  split
  · exact update_none_sub o (C.dev ws)
  · exact fun _ _ h => h

/-- A connection that ends by itself is not the rightful one any more. -/
theorem Inv.not_retired {s : Process} {o : Uuid → Option Socket} (h : Inv C s o) {ws : Socket}
    (d : Uuid) (hr : retire C o ws d = some ws) (hdead : s.dead ws = false) : False := by
  have ho := retire_sub o ws d ws hr
  obtain rfl := (h.entry_dev d ws (h.rightful d ws ho hdead).1).1
  rw [retire, if_pos ho, Function.update_self] at hr
  cases hr

/-- The handler `ws` leaves. -/
theorem Inv.leave {s : Process} {o : Uuid → Option Socket} (h : Inv C s o) (ws : Socket) {p : Phase}
    (hp : p.fresh = false) : Inv C (Handlers.goto s ws p) (retire C o ws) := by
  refine (h.weaken (retire_sub o ws)).goto ws p ?_ ?_
  · intro hfresh
    rw [hp] at hfresh
    cases hfresh
  · exact fun d hr hdead => (h.not_retired d hr hdead).elim

/-- A handler that has left its loop is nobody's rightful connection. -/
theorem Inv.pop_own {s : Process} {o : Uuid → Option Socket} (h : Inv C s o) {ws : Socket}
    (hphase : s.phase ws = .leaving) (hown : OwnEntry C s (.pop ws)) :
    ∀ v, o (C.dev ws) = some v → s.dead v = true := by
  intro v ho
  by_contra hdead
  obtain ⟨hentry, -, hup⟩ := h.rightful _ v ho (Bool.eq_false_iff.mpr hdead)
  rcases hown with hnone | hsome
  · rw [hnone] at hentry
    cases hentry
  · rw [hsome] at hentry
    cases hentry
    rw [hphase] at hup
    cases hup

/-- A socket on which a send failed is nobody's rightful connection. -/
theorem Inv.drop_own {s : Process} {o : Uuid → Option Socket} (h : Inv C s o) {n : Nat} {d : Uuid}
    {ws : Socket} (hfailed : s.sender n = .failed d ws) (hown : OwnEntry C s (.drop n d ws)) :
    ∀ v, o d = some v → s.dead v = true := by
  intro v ho
  by_contra hdead
  obtain ⟨hentry, hopen, -⟩ := h.rightful d v ho (Bool.eq_false_iff.mpr hdead)
  rcases hown with hnone | hsome
  · rw [hnone] at hentry
    cases hentry
  · rw [hsome] at hentry
    cases hentry
    rcases h.failed_broken n d ws hfailed with hbroken | hbroken
    · exact hdead hbroken
    · rw [hopen] at hbroken
      cases hbroken

/-- A handler closes its own socket, on its way out. -/
theorem Inv.close_own {s : Process} {o : Uuid → Option Socket} (h : Inv C s o) (ws : Socket)
    (hphase : (s.phase ws).fresh = false) :
    Inv C { s with manager := s.manager.close (some ws) } (retire C o ws) := by
  refine (h.weaken (retire_sub o ws)).shrink (fun _ _ h => h) ?_ ?_ ?_
  · intro v hv
    rw [Manager.close_closed, hv, Bool.true_or]
  · intro v hv
    have hne : ws ≠ v := by
      rintro rfl
      rw [hphase] at hv
      cases hv
    rw [Manager.close_closed, decide_eq_false (by simpa using hne), Bool.or_false]
  · intro d v hr hdead
    have hne : ws ≠ v := by
      rintro rfl
      exact h.not_retired d hr hdead
    refine ⟨(h.rightful d v (retire_sub o ws d v hr) hdead).1, ?_⟩
    rw [Manager.close_closed, decide_eq_false (by simpa using hne), Bool.or_false]

theorem retire_retire (o : Uuid → Option Socket) (ws : Socket) :
    retire C (retire C o ws) ws = retire C o ws := by
  by_cases h : o (C.dev ws) = some ws
  · have hr : retire C o ws = Function.update o (C.dev ws) none := if_pos h
    rw [hr]
    rw [retire, Function.update_self]
    rfl
  · have hr : retire C o ws = o := if_neg h
    rw [hr, hr]

/-- **One stretch** keeps the invariant, if a clean-up meets its own entry. -/
theorem step_inv (s : Process) (o : Uuid → Option Socket) (l : Label) (s' : Process)
    (hown : OwnEntry C s l) (hs : step C s l = some s') (h : Inv C s o) :
    Inv C s' (rightful C o l) := by
  obtain ⟨hen, rfl⟩ := Run.guardedStep_eq_some.mp hs
  cases l with
  | connect ws => exact h.register ws (by rw [hen.1]; rfl)
  | replace ws =>
    have hclosed := (h.weaken (update_none_sub o (C.dev ws))).closeOld (Function.update_self ..)
    exact (hclosed.proceed hen.1 .replacing id id).congr rfl rfl rfl rfl
  | register ws => exact (h.register ws (by rw [hen.1]; rfl)).congr rfl rfl rfl rfl
  | cancelOffline ws => exact (h.proceed hen .connected id id).congr rfl rfl rfl rfl
  | serve ws => exact (h.proceed hen .serving id id).congr rfl rfl rfl rfl
  | abort ws => exact h.leave ws rfl
  | leave ws => exact (h.leave ws (p := .leaving) rfl).congr rfl rfl rfl rfl
  -- the loop closes its own socket and leaves: it is retired once
  | oversized ws =>
    have hout := (h.close_own ws (by rw [hen]; rfl)).leave ws (p := .leaving) rfl
    rw [retire_retire] at hout
    exact hout.congr rfl rfl rfl rfl
  -- here and in `drop`, and only there, the condition on the run is used
  | pop ws => exact (h.pop (h.pop_own hen.1 hown)).proceed hen.1 .closing id id
  | schedule ws => exact (h.proceed hen .done id id).congr rfl rfl rfl rfl
  | pingFails ws => exact h.congr rfl rfl rfl rfl
  | offlineEnds d => exact h.congr rfl rfl rfl rfl
  | disconnect d =>
    refine (h.weaken (update_none_sub o d)).pop fun ws hws => ?_
    rw [Function.update_self] at hws
    cases hws
  | send n d =>
    show Inv C (match s.manager.connections d with
      | none => s
      | some ws => callGoto s n (.sending d ws)) o
    cases s.manager.connections d with
    | none => exact h
    | some ws => exact h.callGoto fun _ _ hc => (nomatch hc)
  | sendDone n d ws => exact h.callGoto fun _ _ hc => nomatch hc
  | sendFails n d ws =>
    refine h.callGoto fun e v hc => ?_
    cases hc
    exact hen.2
  | drop n d ws => exact (h.pop (h.drop_own hen.1 hown)).callGoto fun _ _ hc => nomatch hc
  | lose ws => exact h.lose ws

/-- What the invariant says of a connection that has not failed. -/
theorem Inv.serves {s : Process} {o : Uuid → Option Socket} (h : Inv C s o) {d : Uuid} {ws : Socket}
    (ho : o d = some ws) (hdead : s.dead ws = false) : Serves C s d ws := by
  obtain ⟨hentry, hopen, -⟩ := h.rightful d ws ho hdead
  refine ⟨hentry, hopen, by unfold Manager.isConnected; rw [hentry]; rfl, ?_⟩
  intro n s' hs
  obtain ⟨-, rfl⟩ := Run.guardedStep_eq_some.mp hs
  simp only [effect, hentry]
  exact Function.update_self ..

/-- A clean-up that meets its own entry harms nobody else. -/
theorem harmless_of_ownEntry (s : Process) (l : Label) (hown : OwnEntry C s l) :
    Harmless C s l := by
  intro h s' hl hs d ws hne hentry
  obtain ⟨-, rfl⟩ := Run.guardedStep_eq_some.mp hs
  simp only [finaliser, List.mem_cons, List.not_mem_nil, or_false] at hl
  rcases hl with rfl | rfl | rfl | rfl
  · exact ⟨hentry, rfl⟩
  · refine ⟨hentry, ?_⟩
    show (s.manager.close (some h)).closed ws = s.manager.closed ws
    rw [Manager.close_closed, decide_eq_false (by simpa using hne.symm), Bool.or_false]
  · show (s.manager.pop (C.dev h)).connections d = some ws ∧
      (s.manager.pop (C.dev h)).closed ws = s.manager.closed ws
    -- the entry of the device is `h` or nobody, so the victim is of another device
    have hother : s.manager.connections (C.dev h) ≠ some ws := by
      intro hws
      rcases hown with hnone | hsome
      · rw [hnone] at hws
        cases hws
      · rw [hsome] at hws
        exact hne (Option.some.inj hws).symm
    have hd : d ≠ C.dev h := fun hd => hother (hd ▸ hentry)
    rw [Manager.pop_connections, Function.update_of_ne hd, Manager.pop_closed,
      decide_eq_false hother, Bool.or_false]
    exact ⟨hentry, rfl⟩
  · exact ⟨hentry, rfl⟩

/-- **The clean-up of a replaced connection is harmless** in every run in which a clean-up finds no
    entry or its own: no `finally` block touches the socket of another handler, and in every state
    the rightful connection of a device, if it has not failed, serves it.

    `manager.disconnect` goes by the device alone, so a handler that has been replaced removes the entry of its
    successor if that is in the table by then.  The condition is on the table just before the removal.  The
    invariant has an owner for each device, the handler that connected last and has not been retired; a removal
    inside the condition takes nothing from an owner. -/
theorem replaced_cleanup_harmless (C : Conns) {ls : List Label} {s : Process}
    (hown : Run.Guarded (step C) (OwnEntry C) init ls) (hrun : Run.exec (step C) init ls = some s) :
    Run.Guarded (step C) (Harmless C) init ls ∧
      ∀ d ws, ls.foldl (rightful C) (fun _ => none) d = some ws → s.dead ws = false →
        Serves C s d ws :=
  ⟨hown.imp harmless_of_ownEntry, fun _ _ ho hdead =>
    (Run.exec_observed step_inv hown hrun inv_init).serves ho hdead⟩

/-- All handlers are of device 1. -/
def oneDevice : Conns := ⟨fun _ => 1, fun _ => ⟨0, "10.0.0.5"⟩⟩

/-- Handler 1 leaves and cleans up, handler 2 connects before the offline task is scheduled. -/
def inTurn : List Label :=
  [.connect 1, .cancelOffline 1, .serve 1, .leave 1, .pop 1, .connect 2, .schedule 1]

theorem replaced_cleanup_harmless_in_turn :
    ∃ s, Run.exec (step oneDevice) init inTurn = some s ∧ Serves oneDevice s 1 2 := by
  have hown : Run.Guarded (step oneDevice) (OwnEntry oneDevice) init inTurn := by decide
  exact ⟨_, rfl, (replaced_cleanup_harmless oneDevice hown rfl).2 1 2 rfl rfl⟩

/-- Handler 2 replaces handler 1, which then leaves its loop. -/
def overtaken : List Label :=
  [.connect 1, .cancelOffline 1, .serve 1, .replace 2, .register 2, .cancelOffline 2, .serve 2,
    .leave 1, .pop 1]

/-- The `finally` block of handler 1 has removed and closed socket 2, which did not fail. -/
theorem cleanup_closes_successor :
    ∃ s, Run.exec (step oneDevice) init overtaken = some s ∧
      overtaken.foldl (rightful oneDevice) (fun _ => none) 1 = some 2 ∧ s.dead 2 = false ∧
      s.manager.isConnected 1 = false ∧ s.manager.closed 2 = true ∧ ¬ Serves oneDevice s 1 2 :=
  ⟨_, rfl, rfl, rfl, rfl, rfl, fun h => nomatch h.connected⟩

end Handlers

end Dtsys
