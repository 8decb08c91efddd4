/-
  THE DELAYED OFFLINE MARK: `_schedule_offline`, `_cancel_pending_offline` and the places in
  `device_websocket` that use them, in any number of processes.

  When a connection ends, its handler starts a task that waits 15 seconds, looks whether the device is
  connected, and otherwise sets `status = "offline"`.  A new connection cancels the task.  The tasks of
  a process are registered by DEVICE in `_pending_offline`.

  A step is what runs between two `await`s.  A websocket: `accept`, `connect` (with an old entry, the
  old socket is closed under the manager's lock, and `register` follows), `cancel`, then the loop; at
  its end `leave`, `disconnect`, `schedule`.  It may `abort` where no `finally` protects it, and the
  peer may `drop` it at any time.  A task: `start`, `wake` (with the look at the table), `update`,
  `commit`, `finish`.  `task.cancel()` only sets a mark; the task notices at its next step, and may
  still be waiting for its COMMIT then.  `_pending_lock` is never held across an `await`.

  The mark can override a live connection (`offline_overrides`):

  * the table is the one of the task's own process, and a socket is in it only from `register` on;
  * a device may connect between the look at the table and the COMMIT;
  * the `finally` of a task pops the entry of its device, which may be the entry of a NEWER task, and
    nobody can cancel that one any more;
  * a handler that is suspended between its `disconnect` and its `schedule` starts its task after a
    new connection has done its cancelling.

  Without these four, no live connection is overridden (`offline_respects`).
-/
import Dtsys.Lib.Run
import Dtsys.Server.Values
import Mathlib.Logic.Function.Basic

namespace Dtsys

/-- Where a handler stands. -/
inductive WsPhase
  | accepted
  /-- in `manager.connect`, closing the old socket -/
  | registering
  /-- in front of `_cancel_pending_offline` -/
  | connected
  | serving
  /-- in the `finally`, in front of `manager.disconnect` -/
  | leaving
  /-- in the `finally`, in front of the schedule -/
  | disconnected
  | ended
  deriving DecidableEq, Repr

/-- A websocket and its handler. -/
structure Websocket where
  process : Nat
  device : Uuid
  phase : WsPhase
  isOpen : Bool
  deriving DecidableEq, Repr

/-- Where a `_schedule_offline` task stands. -/
inductive OfflinePhase
  /-- not started yet -/
  | created
  | sleeping
  /-- waiting for the UPDATE; `since` websockets had been accepted when it looked -/
  | updating (since : Nat)
  | committing
  /-- leaving its session; next is the `finally` -/
  | ending
  | done
  deriving DecidableEq, Repr

/-- A task that is to mark a device as offline. -/
structure OfflineTask where
  process : Nat
  device : Uuid
  phase : OfflinePhase
  cancelled : Bool
  deriving DecidableEq, Repr

/-- The key of the registries of a process. -/
abbrev Place := Nat × Uuid

/-- Where the manager of its process keeps it. -/
def Websocket.place (c : Websocket) : Place := (c.process, c.device)

/-- Where the process keeps it. -/
def OfflineTask.place (x : OfflineTask) : Place := (x.process, x.device)

/-- Not done, and nobody has cancelled it. -/
def OfflineTask.Pending (x : OfflineTask) : Prop := x.phase ≠ .done ∧ x.cancelled = false

/-- The processes; websockets and tasks are numbered in the order they come up. -/
structure Presence where
  /-- `manager._connections` of every process -/
  table : Place → Option Nat
  /-- `manager._lock`, when it is held across an `await` -/
  lock : Nat → Bool
  /-- `_pending_offline` of every process -/
  pending : Place → Option Nat
  sockets : List Websocket
  tasks : List OfflineTask
  /-- `_cancel_pending_offline` has returned, and the device has not been disconnected since -/
  quiet : Place → Bool

/-- The phases in which an exception ends the handler without its `finally`. -/
def WsPhase.unprotected : WsPhase → Bool
  | .accepted | .connected | .serving => true
  | _ => false

/-- In the middle of its transaction. -/
def OfflinePhase.working : OfflinePhase → Bool
  | .updating _ | .committing => true
  | _ => false

namespace Presence

/-- The steps of the handlers, of the tasks and of the processes. -/
inductive Label
  | accept (p : Nat) (d : Uuid)
  | connect (w : Nat) (c : Websocket)
  | register (w : Nat) (c : Websocket)
  | cancel (w : Nat) (c : Websocket)
  | leave (w : Nat) (c : Websocket)
  | disconnect (w : Nat) (c : Websocket)
  | schedule (w : Nat) (c : Websocket)
  | abort (w : Nat) (c : Websocket)
  | drop (w : Nat) (c : Websocket)
  /-- a disconnect that is not the handler's, as after a failed send -/
  | evict (k : Place)
  | start (t : Nat) (x : OfflineTask)
  | wake (t : Nat) (x : OfflineTask)
  | update (t : Nat) (x : OfflineTask) (since : Nat)
  | commit (t : Nat) (x : OfflineTask)
  /-- a cancelled task gives its COMMIT up, or the database fails -/
  | interrupt (t : Nat) (x : OfflineTask)
  | finish (t : Nat) (x : OfflineTask)
  deriving DecidableEq, Repr

/-- Nobody is connected. -/
def init : Presence where
  table := fun _ => none
  lock := fun _ => false
  pending := fun _ => none
  sockets := []
  tasks := []
  quiet := fun _ => false

/-- What the step finds the websocket or the task in. -/
def Enabled (s : Presence) : Label → Prop
  | .accept .. => True
  | .connect w c => s.sockets[w]? = some c ∧ c.phase = .accepted ∧ s.lock c.process = false
  | .register w c => s.sockets[w]? = some c ∧ c.phase = .registering
  | .cancel w c => s.sockets[w]? = some c ∧ c.phase = .connected
  | .leave w c => s.sockets[w]? = some c ∧ c.phase = .serving
  | .disconnect w c => s.sockets[w]? = some c ∧ c.phase = .leaving ∧ s.lock c.process = false
  | .schedule w c => s.sockets[w]? = some c ∧ c.phase = .disconnected
  | .abort w c => s.sockets[w]? = some c ∧ c.phase.unprotected = true
  | .drop w c => s.sockets[w]? = some c
  | .evict k => s.lock k.1 = false
  | .start t x => s.tasks[t]? = some x ∧ x.phase = .created
  | .wake t x => s.tasks[t]? = some x ∧ x.phase = .sleeping
  | .update t x since => s.tasks[t]? = some x ∧ x.phase = .updating since
  | .commit t x => s.tasks[t]? = some x ∧ x.phase = .committing
  | .interrupt t x => s.tasks[t]? = some x ∧ x.phase.working = true
  | .finish t x => s.tasks[t]? = some x ∧ x.phase = .ending

instance (s : Presence) : ∀ l, Decidable (Enabled s l)
  | .connect .. | .disconnect .. => inferInstanceAs (Decidable (_ ∧ _ ∧ _))
  | .register .. | .cancel .. | .leave .. | .schedule .. | .abort .. | .start .. | .wake ..
  | .update .. | .commit .. | .interrupt .. | .finish .. => inferInstanceAs (Decidable (_ ∧ _))
  | .drop .. | .evict _ => inferInstanceAs (Decidable (_ = _))
  | .accept .. => inferInstanceAs (Decidable True)

/-! ## What a step does -/

/-- Socket `w` goes on. -/
def setSocket (s : Presence) (w : Nat) (c : Websocket) : Presence :=
  { s with sockets := s.sockets.set w c }

/-- Task `t` goes on. -/
def setTask (s : Presence) (t : Nat) (x : OfflineTask) : Presence :=
  { s with tasks := s.tasks.set t x }

/-- `await websocket.close()`. -/
def closeSocket (s : Presence) (w : Option Nat) : Presence :=
  match w.bind fun w => (s.sockets[w]?).map fun c => (w, c) with
  | some (w, c) => s.setSocket w { c with isOpen := false }
  | none => s

/-- `task.cancel()`. -/
def cancelTask (s : Presence) (t : Option Nat) : Presence :=
  match t.bind fun t => (s.tasks[t]?).map fun x => (t, x) with
  | some (t, x) => s.setTask t { x with cancelled := true }
  | none => s

/-- `_pending_offline[device_id] = task`, or its `pop`. -/
def setPending (s : Presence) (k : Place) (t : Option Nat) : Presence :=
  { s with pending := Function.update s.pending k t }

/-- Whether the device has been reconnected, and not disconnected since. -/
def setQuiet (s : Presence) (k : Place) (b : Bool) : Presence :=
  { s with quiet := Function.update s.quiet k b }

/-- `manager._connections[device_id] = websocket`, or its `pop`. -/
def setTable (s : Presence) (k : Place) (w : Option Nat) : Presence :=
  { s with table := Function.update s.table k w }

/-- The lock of process `p`. -/
def setLock (s : Presence) (p : Nat) (b : Bool) : Presence :=
  { s with lock := Function.update s.lock p b }

/-- `manager.disconnect(device_id)`. -/
def disconnectDevice (s : Presence) (k : Place) : Presence :=
  ((s.setQuiet k false).setTable k none).closeSocket (s.table k)

/-- The `finally` of a task: it pops the entry of its DEVICE. -/
def endTask (s : Presence) (t : Nat) (x : OfflineTask) : Presence :=
  (s.setTask t { x with phase := .done }).setPending x.place none

/-- What a step does. -/
def effect (s : Presence) : Label → Presence
  | .accept p d => { s with sockets := s.sockets ++ [⟨p, d, .accepted, true⟩] }
  | .connect w c =>
    match s.table c.place with
    | none => (s.setSocket w { c with phase := .connected }).setTable c.place (some w)
    | some old =>
      ((s.setSocket w { c with phase := .registering }).closeSocket (some old)).setLock c.process true
  | .register w c =>
    ((s.setSocket w { c with phase := .connected }).setTable c.place (some w)).setLock c.process false
  | .cancel w c =>
    (((s.cancelTask (s.pending c.place)).setPending c.place none).setSocket w
      { c with phase := .serving }).setQuiet c.place true
  | .leave w c => s.setSocket w { c with phase := .leaving }
  | .disconnect w c => (s.setSocket w { c with phase := .disconnected }).disconnectDevice c.place
  | .schedule w c =>
    let s' := s.setSocket w { c with phase := .ended, isOpen := false }
    match s.pending c.place with
    | none =>
      { s'.setPending c.place (some s.tasks.length) with
        tasks := s.tasks ++ [⟨c.process, c.device, .created, false⟩] }
    | some _ => s'
  | .abort w c => s.setSocket w { c with phase := .ended, isOpen := false }
  | .drop w c => s.setSocket w { c with isOpen := false }
  | .evict k => s.disconnectDevice k
  -- a task that is cancelled before it has started runs nothing of its body
  | .start t x => s.setTask t { x with phase := if x.cancelled then .done else .sleeping }
  | .wake t x =>
    if x.cancelled ∨ (s.table x.place).isSome then s.endTask t x
    else s.setTask t { x with phase := .updating s.sockets.length }
  | .update t x _ => s.setTask t { x with phase := if x.cancelled then .ending else .committing }
  | .commit t x => s.setTask t { x with phase := .ending }
  | .interrupt t x => s.setTask t { x with phase := .ending }
  | .finish t x => s.endTask t x

/-- One step of one websocket or one task. -/
def step : Presence → Label → Option Presence := Run.guardedStep Enabled effect

/-! ## The law, and when it holds -/

/-- When a task commits, no websocket of its device is open, in any process. -/
def Respects (s : Presence) : Label → Prop
  | .commit t x => s.tasks[t]? = some x → x.phase = .committing →
    ∀ c ∈ s.sockets, c.isOpen = true → c.device ≠ x.device
  | _ => True

/-- After `_cancel_pending_offline` and until the next disconnect, no task that could still mark the
    device is alive in the process. -/
def Silenced (s : Presence) : Prop :=
  ∀ k, s.quiet k = true → ∀ x ∈ s.tasks, x.place = k → ¬ x.Pending

/-- The entry a task pops is its own. -/
def PopsOwn (s : Presence) (t : Nat) (x : OfflineTask) : Prop :=
  s.pending x.place = none ∨ s.pending x.place = some t

/-- The four conditions. -/
def Orderly (s : Presence) : Label → Prop
  -- no device connects while a task of it waits for its COMMIT
  | .accept _ d => ∀ x ∈ s.tasks, x.device = d → x.phase ≠ .committing
  -- nobody is between its `disconnect` and its `schedule`
  | .cancel _ c => ∀ c' ∈ s.sockets, c'.place = c.place → c'.phase ≠ .disconnected
  -- the process knows the open websockets of the device
  | .wake t x =>
    (x.cancelled = false → (∃ c ∈ s.sockets, c.isOpen = true ∧ c.device = x.device) →
        (s.table x.place).isSome = true) ∧
      (x.cancelled = true ∨ (s.table x.place).isSome = true → PopsOwn s t x)
  -- a device that has connected since has cancelled the task
  | .update _ x since =>
    (∃ c ∈ s.sockets.drop since, c.isOpen = true ∧ c.device = x.device) → x.cancelled = true
  | .finish t x => PopsOwn s t x
  | _ => True

instance (s : Presence) (t : Nat) (x : OfflineTask) : Decidable (PopsOwn s t x) :=
  inferInstanceAs (Decidable (_ ∨ _))

instance (s : Presence) : ∀ l, Decidable (Orderly s l)
  | .accept .. => inferInstanceAs (Decidable (∀ x ∈ s.tasks, _ → _))
  | .cancel .. => inferInstanceAs (Decidable (∀ c' ∈ s.sockets, _ → _))
  | .wake .. => inferInstanceAs (Decidable ((_ → (∃ c ∈ s.sockets, _) → _) ∧ (_ → _)))
  | .update _ _ since => inferInstanceAs (Decidable ((∃ c ∈ s.sockets.drop since, _) → _))
  | .finish t x => inferInstanceAs (Decidable (PopsOwn s t x))
  | .connect .. | .register .. | .leave .. | .disconnect .. | .schedule .. | .abort .. | .drop ..
  | .evict _ | .start .. | .commit .. | .interrupt .. => inferInstanceAs (Decidable True)

/-- No websocket of the device is open, of the first `n`. -/
def NoneOpen (s : Presence) (d : Uuid) (n : Nat) : Prop :=
  ∀ w c, w < n → s.sockets[w]? = some c → c.isOpen = true → c.device ≠ d

/-- What holds of the tasks and the sockets in every state of a run. -/
structure Inv (s : Presence) : Prop where
  updating : ∀ x ∈ s.tasks, ∀ n, x.phase = .updating n →
    n ≤ s.sockets.length ∧ s.NoneOpen x.device n
  committing : ∀ x ∈ s.tasks, x.phase = .committing → s.NoneOpen x.device s.sockets.length
  registered : ∀ t x, s.tasks[t]? = some x → x.Pending → s.pending x.place = some t
  unregistered : ∀ k, s.quiet k = true → s.pending k = none
  settled : ∀ k, s.quiet k = true → ∀ c ∈ s.sockets, c.place = k → c.phase ≠ .disconnected

theorem inv_init : Inv init :=
  ⟨fun _ h => (nomatch h), fun _ h => (nomatch h), fun _ _ h => (nomatch h), fun _ h => (nomatch h),
    fun _ h => (nomatch h)⟩

section

variable {s s' : Presence}

/-! ## Small changes -/

/-- A socket that does not open leaves none open. -/
theorem noneOpen_setSocket {w : Nat} {c c' : Websocket} {d : Uuid} {n : Nat}
    (hw : s.sockets[w]? = some c) (hdevice : c'.device = c.device)
    (hopen : c'.isOpen = true → c.isOpen = true) (h : s.NoneOpen d n) :
    (s.setSocket w c').NoneOpen d n := by
  intro v e hv he hopen'
  replace he : (s.sockets.set w c')[v]? = some e := he
  rw [List.getElem?_set] at he
  by_cases hwv : w = v
  · subst hwv
    rw [if_pos rfl] at he
    split at he
    · cases he
      rw [hdevice]
      exact h w c hv hw (hopen hopen')
    · cases he
  · rw [if_neg hwv] at he
    exact h v e hv he hopen'

/-- A websocket goes on, or is closed. -/
theorem Inv.setSocket (h : Inv s) {w : Nat} {c e : Websocket} (hw : s.sockets[w]? = some c)
    (hdevice : e.device = c.device) (hopen : e.isOpen = true → c.isOpen = true)
    (hphase : s.quiet e.place = true → e.phase ≠ .disconnected) : Inv (s.setSocket w e) := by
  have hlen : (s.setSocket w e).sockets.length = s.sockets.length := List.length_set
  refine ⟨?_, ?_, h.registered, h.unregistered, ?_⟩
  · intro x hx n hn
    obtain ⟨hle, hnone⟩ := h.updating x hx n hn
    exact ⟨hlen ▸ hle, noneOpen_setSocket hw hdevice hopen hnone⟩
  · intro x hx hn
    rw [hlen]
    exact noneOpen_setSocket hw hdevice hopen (h.committing x hx hn)
  · intro k hk x hx hplace
    rcases List.mem_or_eq_of_mem_set hx with hold | rfl
    · exact h.settled k hk x hold hplace
    · rw [← hplace] at hk
      exact hphase hk

theorem Inv.closeSocket (h : Inv s) (w : Option Nat) : Inv (s.closeSocket w) := by
  rw [Presence.closeSocket]
  split
  · rename_i v c hfound
    obtain ⟨u, -, hu⟩ := Option.bind_eq_some_iff.mp hfound
    obtain ⟨c', hc', heq⟩ := Option.map_eq_some_iff.mp hu
    cases heq
    have hmem : c ∈ s.sockets := List.mem_of_getElem? hc'
    exact h.setSocket hc' rfl (fun hno => nomatch hno) fun hq => h.settled _ hq c hmem rfl
  · exact h

/-- A write in the table of a process. -/
theorem Inv.setTable (h : Inv s) (k : Place) (w : Option Nat) : Inv (s.setTable k w) :=
  ⟨h.updating, h.committing, h.registered, h.unregistered, h.settled⟩

theorem Inv.setLock (h : Inv s) (p : Nat) (b : Bool) : Inv (s.setLock p b) :=
  ⟨h.updating, h.committing, h.registered, h.unregistered, h.settled⟩

theorem quiet_of_setQuiet_false {k k' : Place} (h : (s.setQuiet k false).quiet k' = true) :
    s.quiet k' = true := by
  replace h : Function.update s.quiet k false k' = true := h
  by_cases hk : k' = k
  · subst hk
    rw [Function.update_self] at h
    cases h
  · rwa [Function.update_of_ne hk] at h

/-- A device that is no longer quiet. -/
theorem Inv.unquiet (h : Inv s) (k : Place) : Inv (s.setQuiet k false) :=
  ⟨h.updating, h.committing, h.registered,
    fun k' hk => h.unregistered k' (quiet_of_setQuiet_false hk),
    fun k' hk => h.settled k' (quiet_of_setQuiet_false hk)⟩

/-- From now on the place is quiet. -/
theorem Inv.quieten (h : Inv s) {k : Place} (hpending : s.pending k = none)
    (hsettled : ∀ c ∈ s.sockets, c.place = k → c.phase ≠ .disconnected) :
    Inv (s.setQuiet k true) := by
  refine ⟨h.updating, h.committing, h.registered, ?_, ?_⟩
  · intro k' hk
    by_cases hkk : k' = k
    · rw [hkk]
      exact hpending
    · replace hk : Function.update s.quiet k true k' = true := hk
      rw [Function.update_of_ne hkk] at hk
      exact h.unregistered k' hk
  · intro k' hk c hc hplace
    by_cases hkk : k' = k
    · rw [hkk] at hplace
      exact hsettled c hc hplace
    · replace hk : Function.update s.quiet k true k' = true := hk
      rw [Function.update_of_ne hkk] at hk
      exact h.settled k' hk c hc hplace

/-- `disconnect_device`. -/
theorem Inv.disconnectDevice (h : Inv s) (k : Place) : Inv (s.disconnectDevice k) :=
  ((h.unquiet k).setTable k none).closeSocket _

/-- A task goes on, or is cancelled. -/
theorem Inv.setTask (h : Inv s) {t : Nat} {x x' : OfflineTask} (ht : s.tasks[t]? = some x)
    (hplace : x'.place = x.place) (hpending : x'.Pending → x.Pending)
    (hupdating : ∀ n, x'.phase = .updating n → n ≤ s.sockets.length ∧ s.NoneOpen x'.device n)
    (hcommitting : x'.phase = .committing → s.NoneOpen x'.device s.sockets.length) :
    Inv (s.setTask t x') := by
  refine ⟨?_, ?_, ?_, h.unregistered, h.settled⟩
  · intro y hy n hn
    rcases List.mem_or_eq_of_mem_set hy with hold | rfl
    · exact h.updating y hold n hn
    · exact hupdating n hn
  · intro y hy hn
    rcases List.mem_or_eq_of_mem_set hy with hold | rfl
    · exact h.committing y hold hn
    · exact hcommitting hn
  · intro u y hu hy
    replace hu : (s.tasks.set t x')[u]? = some y := hu
    rw [List.getElem?_set] at hu
    by_cases htu : t = u
    · subst htu
      rw [if_pos rfl] at hu
      split at hu
      · cases hu
        show s.pending x'.place = some t
        rw [hplace]
        exact h.registered t x ht (hpending hy)
      · cases hu
    · rw [if_neg htu] at hu
      exact h.registered u y hu hy

/-- An entry is popped that no pending task needs. -/
theorem Inv.pop (h : Inv s) {k : Place}
    (hfree : ∀ (t : Nat) (x : OfflineTask), s.tasks[t]? = some x → x.Pending → x.place ≠ k) :
    Inv (s.setPending k none) := by
  refine ⟨h.updating, h.committing, ?_, ?_, h.settled⟩
  · intro t x ht hx
    show Function.update s.pending k none x.place = some t
    rw [Function.update_of_ne (hfree t x ht hx)]
    exact h.registered t x ht hx
  · intro k' hk
    show Function.update s.pending k none k' = none
    by_cases hkk : k' = k
    · rw [hkk, Function.update_self]
    · rw [Function.update_of_ne hkk]
      exact h.unregistered k' hk

/-! ## The steps -/

/-- A new websocket, while no task of its device waits for its COMMIT. -/
theorem Inv.accept (h : Inv s) {p : Nat} {d : Uuid} (hl : Orderly s (.accept p d)) :
    Inv (effect s (.accept p d)) := by
  have hlen : (effect s (.accept p d)).sockets.length = s.sockets.length + 1 := List.length_append ..
  have hold : ∀ {w : Nat}, w < s.sockets.length →
      (effect s (.accept p d)).sockets[w]? = s.sockets[w]? := List.getElem?_append_left
  refine ⟨?_, ?_, h.registered, h.unregistered, ?_⟩
  · intro x hx n hn
    obtain ⟨hle, hnone⟩ := h.updating x hx n hn
    refine ⟨by omega, fun w c hw hc => ?_⟩
    rw [hold (by omega)] at hc
    exact hnone w c hw hc
  · intro x hx hn w c hw hc hopen
    have hnone := h.committing x hx hn
    by_cases hlast : w < s.sockets.length
    · rw [hold hlast] at hc
      exact hnone w c hlast hc hopen
    · have hw' : w = s.sockets.length := by omega
      have hlastc : (s.sockets ++ [⟨p, d, .accepted, true⟩])[s.sockets.length]? =
          some ⟨p, d, .accepted, true⟩ := List.getElem?_concat_length
      rw [hw'] at hc
      obtain rfl := Option.some.inj (hc.symm.trans hlastc)
      exact fun hd => hl x hx hd.symm hn
  · intro k hk c hc hplace
    rcases List.mem_append.mp hc with hold' | hnew
    · exact h.settled k hk c hold' hplace
    · rw [List.mem_singleton.mp hnew]
      simp

/-- `_cancel_pending_offline` marks the registered task, which is the only pending one. -/
theorem Inv.cancel (h : Inv s) {w : Nat} {c : Websocket} (hw : s.sockets[w]? = some c)
    (hl : Orderly s (.cancel w c)) : Inv (effect s (.cancel w c)) := by
  -- the registered task is marked
  have hmarked : Inv (s.cancelTask (s.pending c.place)) ∧
      ∀ (t : Nat) (x : OfflineTask), (s.cancelTask (s.pending c.place)).tasks[t]? = some x →
        x.Pending → x.place ≠ c.place := by
    rw [cancelTask]
    split
    · rename_i t x hfound
      obtain ⟨u, hu, hux⟩ := Option.bind_eq_some_iff.mp hfound
      obtain ⟨x', hx', heq⟩ := Option.map_eq_some_iff.mp hux
      cases heq
      have hmem : x ∈ s.tasks := List.mem_of_getElem? hx'
      refine ⟨h.setTask hx' rfl (fun hp => nomatch hp.2) (h.updating x hmem) (h.committing x hmem), ?_⟩
      intro v y hv hy hplace
      replace hv : (s.tasks.set t { x with cancelled := true })[v]? = some y := hv
      rw [List.getElem?_set] at hv
      by_cases htv : t = v
      · subst htv
        rw [if_pos rfl] at hv
        split at hv
        · cases hv
          cases hy.2
        · cases hv
      · rw [if_neg htv] at hv
        have hreg := h.registered v y hv hy
        rw [hplace, hu] at hreg
        exact htv (Option.some.inj hreg)
    · rename_i hnone
      refine ⟨h, fun t x ht hx hplace => ?_⟩
      have hreg := h.registered t x ht hx
      rw [hplace] at hreg
      rw [hreg] at hnone
      simp [ht] at hnone
  obtain ⟨hinv, hfree⟩ := hmarked
  have hsockets : (s.cancelTask (s.pending c.place)).sockets = s.sockets := by
    rw [cancelTask]
    split
    · rfl
    · rfl
  have hpop := hinv.pop hfree
  have hserve := hpop.setSocket (w := w) (c := c) (e := { c with phase := .serving })
    (by rw [← hsockets] at hw; exact hw) rfl id (fun _ => by simp)
  refine hserve.quieten (Function.update_self ..) ?_
  intro c' hc' hplace
  rcases List.mem_or_eq_of_mem_set hc' with hold | rfl
  · replace hold : c' ∈ (s.cancelTask (s.pending c.place)).sockets := hold
    rw [hsockets] at hold
    exact hl c' hold hplace
  · simp

/-- A handler that is through with its `disconnect` starts a task, if none is registered. -/
theorem Inv.schedule (h : Inv s) {w : Nat} {c : Websocket} (hw : s.sockets[w]? = some c)
    (hphase : c.phase = .disconnected) : Inv (effect s (.schedule w c)) := by
  have hover : Inv (s.setSocket w { c with phase := .ended, isOpen := false }) :=
    h.setSocket hw rfl (fun hno => nomatch hno) fun _ => by simp
  rw [effect]
  dsimp only
  split
  · rename_i hnone
    -- A device that is quiet has no handler left that could come here.
    have hnoisy : s.quiet c.place ≠ true := fun hq =>
      h.settled c.place hq c (List.mem_of_getElem? hw) rfl hphase
    refine ⟨?_, ?_, ?_, ?_, hover.settled⟩
    · intro x hx n hn
      rcases List.mem_append.mp hx with hold | hnew
      · exact hover.updating x hold n hn
      · rw [List.mem_singleton.mp hnew] at hn
        cases hn
    · intro x hx hn
      rcases List.mem_append.mp hx with hold | hnew
      · exact hover.committing x hold hn
      · rw [List.mem_singleton.mp hnew] at hn
        cases hn
    -- The new task is the last of the list, and it is the one that is registered.
    · intro t x ht hx
      show Function.update s.pending c.place (some s.tasks.length) x.place = some t
      replace ht : (s.tasks ++ [⟨c.process, c.device, .created, false⟩])[t]? = some x := ht
      by_cases hlt : t < s.tasks.length
      · rw [List.getElem?_append_left hlt] at ht
        have hreg := h.registered t x ht hx
        have hne : x.place ≠ c.place := by
          intro heq
          rw [heq, hnone] at hreg
          cases hreg
        rw [Function.update_of_ne hne]
        exact hreg
      · have hle : s.tasks.length ≤ t := by omega
        rw [List.getElem?_append_right hle] at ht
        have hzero : t - s.tasks.length = 0 := by
          by_contra hpos
          rw [List.getElem?_eq_none (by show 1 ≤ t - s.tasks.length; omega)] at ht
          cases ht
        have ht' : t = s.tasks.length := by omega
        rw [hzero] at ht
        cases ht
        rw [show (OfflineTask.mk c.process c.device .created false).place = c.place from rfl,
          Function.update_self, ht']
    · intro k hk
      show Function.update s.pending c.place (some s.tasks.length) k = none
      have hne : k ≠ c.place := by
        rintro rfl
        exact hnoisy hk
      rw [Function.update_of_ne hne]
      exact h.unregistered k hk
  · exact hover

/-- The `finally` of a task pops its own entry. -/
theorem Inv.endTask (h : Inv s) {t : Nat} {x : OfflineTask} (ht : s.tasks[t]? = some x)
    (hown : PopsOwn s t x) : Inv (s.endTask t x) := by
  have hdone : Inv (s.setTask t { x with phase := .done }) :=
    h.setTask ht rfl (fun hp => absurd rfl hp.1) (fun _ hn => nomatch hn) fun hn => nomatch hn
  refine hdone.pop fun u y hu hy hplace => ?_
  replace hu : (s.tasks.set t { x with phase := .done })[u]? = some y := hu
  rw [List.getElem?_set] at hu
  by_cases htu : t = u
  · subst htu
    rw [if_pos rfl] at hu
    split at hu
    · cases hu
      exact hy.1 rfl
    · cases hu
  · rw [if_neg htu] at hu
    have hreg := h.registered u y hu hy
    rw [hplace] at hreg
    rcases hown with hnone | hsome
    · rw [hnone] at hreg
      cases hreg
    · rw [hsome] at hreg
      exact htu (Option.some.inj hreg)

/-- A task looks at the table and goes on, or not. -/
theorem Inv.wake (h : Inv s) {t : Nat} {x : OfflineTask} (ht : s.tasks[t]? = some x)
    (hphase : x.phase = .sleeping) (hl : Orderly s (.wake t x)) : Inv (effect s (.wake t x)) := by
  obtain ⟨hknown, hown⟩ := hl
  unfold effect
  dsimp only
  split
  · rename_i hstop
    exact h.endTask ht (hown hstop)
  · rename_i hgo
    rw [not_or] at hgo
    have hlive : x.cancelled = false := by simpa using hgo.1
    refine h.setTask ht rfl (fun hp => ⟨by rw [hphase]; simp, hp.2⟩) ?_ fun hn => nomatch hn
    intro n hn
    cases hn
    refine ⟨Nat.le_refl _, fun w c _ hc hopen hd => ?_⟩
    exact hgo.2 (hknown hlive ⟨c, List.mem_of_getElem? hc, hopen, hd⟩)

/-- The UPDATE has returned: without a mark, the device has not come back. -/
theorem Inv.update (h : Inv s) {t : Nat} {x : OfflineTask} {since : Nat} (ht : s.tasks[t]? = some x)
    (hphase : x.phase = .updating since) (hl : Orderly s (.update t x since)) :
    Inv (effect s (.update t x since)) := by
  obtain ⟨-, hnone⟩ := h.updating x (List.mem_of_getElem? ht) since hphase
  refine h.setTask ht rfl (fun hp => ⟨by rw [hphase]; simp, hp.2⟩) ?_ ?_
  · intro n hn
    dsimp only at hn
    split at hn
    · cases hn
    · cases hn
  · intro hn w c hw hc hopen hd
    dsimp only at hn hd
    cases hmark : x.cancelled with
    | true =>
      rw [hmark, if_pos rfl] at hn
      cases hn
    | false =>
      by_cases hold : w < since
      · exact hnone w c hold hc hopen hd
      · have hmem : c ∈ s.sockets.drop since := by
          refine List.mem_of_getElem? (i := w - since) ?_
          rw [List.getElem?_drop, show since + (w - since) = w by omega]
          exact hc
        rw [hl ⟨c, hmem, hopen, hd⟩] at hmark
        cases hmark

/-- **One step.** -/
theorem inv_step (s : Presence) (l : Label) (s' : Presence) (hl : Orderly s l)
    (hs : step s l = some s') (h : Inv s) : Inv s' := by
  obtain ⟨hen, rfl⟩ := Run.guardedStep_eq_some.mp hs
  -- a handler that goes on to another phase
  have hmove : ∀ {w : Nat} {c : Websocket} {p : WsPhase}, s.sockets[w]? = some c →
      p ≠ .disconnected → Inv (s.setSocket w { c with phase := p }) :=
    fun hw hp => h.setSocket hw rfl id fun _ => hp
  -- a task that does not go on to its transaction
  have htask : ∀ {t : Nat} {x : OfflineTask} {p : OfflinePhase}, s.tasks[t]? = some x →
      x.phase ≠ .done → p.working = false → Inv (s.setTask t { x with phase := p }) := by
    intro t x p ht hx hp
    refine h.setTask ht rfl (fun hpend => ⟨hx, hpend.2⟩) ?_ ?_
    · rintro n rfl
      cases hp
    · rintro rfl
      cases hp
  cases l with
  | accept p d => exact h.accept hl
  | connect w c =>
    unfold effect
    dsimp only
    split
    · exact (hmove hen.1 (by simp)).setTable c.place (some w)
    · exact ((hmove hen.1 (by simp)).closeSocket _).setLock c.process true
  | register w c =>
    exact ((hmove hen.1 (by simp)).setTable c.place (some w)).setLock c.process false
  | cancel w c => exact h.cancel hen.1 hl
  | leave w c => exact hmove hen.1 (by simp)
  | disconnect w c =>
    -- the place is not quiet from here on, so the phase does no harm
    have hnoisy := (h.unquiet c.place).setSocket (w := w) (c := c)
      (e := { c with phase := .disconnected }) hen.1 rfl id fun hq => by
        replace hq : Function.update s.quiet c.place false c.place = true := hq
        rw [Function.update_self] at hq
        cases hq
    exact (hnoisy.setTable c.place none).closeSocket (s.table c.place)
  | schedule w c => exact h.schedule hen.1 hen.2
  | abort w c => exact h.setSocket hen.1 rfl (fun hno => nomatch hno) fun _ => by simp
  | drop w c =>
    have hmem : c ∈ s.sockets := List.mem_of_getElem? hen
    exact h.setSocket hen rfl (fun hno => nomatch hno) fun hq => h.settled _ hq c hmem rfl
  | evict k => exact h.disconnectDevice k
  | start t x =>
    refine htask hen.1 (by rw [hen.2]; simp) ?_
    split
    · rfl
    · rfl
  | wake t x => exact h.wake hen.1 hen.2 hl
  | update t x since => exact h.update hen.1 hen.2 hl
  | commit t x => exact htask hen.1 (by rw [hen.2]; simp) rfl
  | interrupt t x =>
    refine htask hen.1 ?_ rfl
    intro hdone
    have hwork := hen.2
    rw [hdone] at hwork
    cases hwork
  | finish t x => exact h.endTask hen.1 hl

/-- What the invariant is for. -/
theorem Inv.silenced (h : Inv s) : Silenced s := by
  intro k hk x hx hplace hpend
  obtain ⟨t, ht⟩ := List.mem_iff_getElem?.mp hx
  have hreg := h.registered t x ht hpend
  rw [hplace, h.unregistered k hk] at hreg
  cases hreg

end

/-- **A live connection is not overridden** in an orderly run: no task commits while a websocket of its
    device is open, in any process; and after `_cancel_pending_offline` no task is left that could.

    Cancelling sets a mark that the task notices at its next await, and a commit that is under way is not undone.
    The invariant follows each task from its sleep to its commit, with the sockets that were opened meanwhile. -/
theorem offline_respects {ls : List Label} {s : Presence} (horder : Run.Guarded step Orderly init ls)
    (hrun : Run.exec step init ls = some s) : Run.Guarded step Respects init ls ∧ Silenced s := by
  have hinv : Inv s := Run.exec_inv inv_step horder hrun inv_init
  refine ⟨horder.strengthen inv_step ?_ inv_init, hinv.silenced⟩
  intro s l _ h
  cases l with
  | commit t x =>
    intro ht hphase c hc hopen
    obtain ⟨w, hw⟩ := List.mem_iff_getElem?.mp hc
    have hlt : w < s.sockets.length := (List.getElem?_eq_some_iff.mp hw).1
    exact h.committing x (List.mem_of_getElem? ht) hphase w c hlt hw hopen
  | _ => trivial

/-! ## Runs -/

/-- Websocket and task of device 1 in process `p`, in the given phase. -/
def ws (p : Nat) (phase : WsPhase) : Websocket := ⟨p, 1, phase, true⟩

/-- A task for device 1. -/
def task (p : Nat) (phase : OfflinePhase) (cancelled : Bool) : OfflineTask := ⟨p, 1, phase, cancelled⟩

/-- Websocket number `w` comes up in process `p`. -/
def comesUp (p w : Nat) : List Label :=
  [.accept p 1, .connect w (ws p .accepted), .cancel w (ws p .connected)]

/-- It goes, and leaves a task behind. -/
def goes (p w : Nat) : List Label :=
  [.leave w (ws p .serving), .disconnect w (ws p .leaving),
    .schedule w { ws p .disconnected with isOpen := false }]

/-- The device reconnects within the 15 seconds. -/
def reconnects : List Label :=
  comesUp 0 0 ++ goes 0 0 ++ [.start 0 (task 0 .created false)] ++ comesUp 0 1 ++
    [.wake 0 (task 0 .sleeping true)]

theorem offline_respects_reconnects :
    ∃ s, Run.exec step init reconnects = some s ∧ s.quiet (0, 1) = true ∧ Silenced s := by
  have horder : Run.Guarded step Orderly init reconnects := by decide
  exact ⟨_, rfl, rfl, (offline_respects horder rfl).2⟩

/-- The device goes in process 0 and comes up in process 1. -/
def otherWorker : List Label :=
  comesUp 0 0 ++ goes 0 0 ++ [.start 0 (task 0 .created false)] ++ comesUp 1 1 ++
    [.wake 0 (task 0 .sleeping false), .update 0 (task 0 (.updating 2) false) 2,
      .commit 0 (task 0 .committing false)]

/-- A task that is cancelled during its UPDATE pops the entry of the next task. -/
def popsNewer : List Label :=
  comesUp 0 0 ++ goes 0 0 ++
    [.start 0 (task 0 .created false), .wake 0 (task 0 .sleeping false)] ++ comesUp 0 1 ++
    [.update 0 (task 0 (.updating 1) true) 1] ++ goes 0 1 ++ [.finish 0 (task 0 .ending true)] ++
    comesUp 0 2

/-- The mark overrides the connection of process 1; and a task escapes its cancellation. -/
theorem offline_overrides :
    (∃ s, Run.exec step init otherWorker = some s ∧ ¬ Run.Guarded step Respects init otherWorker) ∧
      ∃ s, Run.exec step init popsNewer = some s ∧ ¬ Silenced s := by
  refine ⟨⟨_, rfl, ?_⟩, ⟨_, rfl, ?_⟩⟩
  · intro hguard
    have hlast : Run.Guarded step Respects _ [.commit 0 (task 0 .committing false)] :=
      Run.Guarded.of_append (show Run.Guarded step Respects init (otherWorker.dropLast ++ _) from
        hguard) rfl
    exact hlast.1 rfl rfl (ws 1 .serving) (by decide) rfl rfl
  · intro hsilent
    exact hsilent (0, 1) rfl (task 0 .created false) (by decide) rfl ⟨by decide, rfl⟩

end Presence

end Dtsys
