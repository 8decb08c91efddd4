/-
  The calls of ONE `ConnectionManager`, INTERLEAVED: `connect`, `disconnect` and `send_to_device`, by any
  tasks, for any devices and sockets.

  `System/Handlers.lean` follows one task for each socket through its whole life.  Here nothing is known
  of the callers: a call is a number, it starts whenever it likes, and the same socket may be passed to
  `connect` twice.  What is at stake is only that no socket DISAPPEARS: a socket that leaves the table has
  been closed, or somebody holds it and is about to close it.

  1. **The calls** — a label is one stretch of a call between two `await`s.  `connect` is `enter` (the
     device has no entry) or `replace` (close the old socket, with `_lock` held) and `register`;
     `disconnect` is `pop` (under the lock) and `close` (outside it); `send_to_device` is `send` (no lock)
     and then `sent`, or `sendFails`, which goes on as a `disconnect`.  A suspended call can be cancelled.
     `close` raising is no case of its own: `except Exception: pass`.

  2. **Specification** — `Consistent`: the two dicts have the same keys, a device has one socket, and
     every socket that was ever registered for a device is `Accounted` for.

  3. **The crux** — `register` overwrites an entry that it read before it was suspended.  The invariant
     is that the entry is still there and still closed (`Inv.replacing`), since nobody else changes the table
     while `_lock` is held.
-/
import Dtsys.Lib.Run
import Dtsys.Server.Manager

namespace Dtsys

namespace Manager

/-- The critical section of `disconnect`: `pop` from the two dicts. -/
def take (m : Manager) (d : Uuid) : Manager :=
  { m with
    connections := Function.update m.connections d none
    metadata := Function.update m.metadata d none }

/-- With nothing in between, the two halves of `disconnect` are `pop`. -/
theorem close_take (m : Manager) (d : Uuid) : (m.take d).close (m.connections d) = m.pop d := by
  rw [Manager.pop]
  cases m.connections d with
  | none => rfl
  | some ws => rfl

/-- `_connections` and `_metadata` have the same keys. -/
def SameKeys (m : Manager) : Prop := ∀ d, (m.connections d).isSome = (m.metadata d).isSome

/-- A socket that is closed stays in the table. -/
theorem SameKeys.close {m : Manager} (h : m.SameKeys) (o : Option Socket) : (m.close o).SameKeys := by
  cases o with
  | none => exact h
  | some ws => exact h

/-- Both dicts are updated at the same key, to values that are both there or both not. -/
theorem SameKeys.update {m : Manager} (h : m.SameKeys) (d : Uuid) {o : Option Socket} {i : Option ConnMeta}
    (ho : o.isSome = i.isSome) (e : Uuid) :
    (Function.update m.connections d o e).isSome = (Function.update m.metadata d i e).isSome := by
  by_cases hed : e = d
  · subst hed
    rw [Function.update_self, Function.update_self]
    exact ho
  · rw [Function.update_of_ne hed, Function.update_of_ne hed]
    exact h e

theorem SameKeys.register {m : Manager} (h : m.SameKeys) (d : Uuid) (ws : Socket) (info : ConnMeta) :
    (m.register d ws info).SameKeys := h.update d rfl

theorem SameKeys.take {m : Manager} (h : m.SameKeys) (d : Uuid) : (m.take d).SameKeys := h.update d rfl

end Manager

namespace Calls

/-- Where a call stands. -/
inductive Call
  | idle
  /-- in `connect`, at `async with self._lock` -/
  | connecting (d : Uuid) (ws : Socket) (ip : String)
  /-- in `connect`, suspended in `old_ws.close`, `_lock` held -/
  | replacing (d : Uuid) (ws : Socket) (ip : String)
  /-- in `disconnect`, at `async with self._lock` -/
  | disconnecting (d : Uuid)
  /-- in `disconnect`, out of the lock, on its way to `websocket.close` -/
  | popped (d : Uuid) (ws : Socket)
  /-- in `disconnect`, suspended in `websocket.close` -/
  | closing
  /-- in `send_to_device`, suspended in `ws.send_json` -/
  | sending (d : Uuid) (ws : Socket)
  deriving DecidableEq, Repr

/-- Suspended, so that it can be cancelled: between the lock of `disconnect` and its `close` nothing
    suspends. -/
def Call.suspended : Call → Bool
  | .idle | .popped .. => false
  | _ => true

/-- One stretch of call `n`. -/
inductive Label
  | connect (n : Nat) (d : Uuid) (ws : Socket) (ip : String)
  | enter (n : Nat) (d : Uuid) (ws : Socket) (info : ConnMeta)
  | replace (n : Nat) (d : Uuid) (ws : Socket) (ip : String)
  | register (n : Nat) (d : Uuid) (ws : Socket) (info : ConnMeta)
  | disconnect (n : Nat) (d : Uuid)
  | pop (n : Nat) (d : Uuid)
  | close (n : Nat) (d : Uuid) (ws : Socket)
  | closed (n : Nat)
  | send (n : Nat) (d : Uuid)
  | sent (n : Nat) (d : Uuid) (ws : Socket)
  | sendFails (n : Nat) (d : Uuid) (ws : Socket)
  | cancel (n : Nat)
  deriving DecidableEq, Repr

/-- The entry that a stretch makes in the table. -/
def Label.registers : Label → Option (Uuid × Socket)
  | .enter _ d ws _ | .register _ d ws _ => some (d, ws)
  | _ => none

/-- The manager, and where its calls stand. -/
structure State where
  manager : Manager
  /-- the call that holds `_lock` across a suspension -/
  lock : Option Nat
  call : Nat → Call

/-- No connection, and no call. -/
def init : State := ⟨.empty, none, fun _ => .idle⟩

/-- When a stretch can run. -/
def Enabled (s : State) : Label → Prop
  | .connect n _ _ _ => s.call n = .idle
  | .enter n d ws info =>
    s.call n = .connecting d ws info.ip ∧ s.lock = none ∧ s.manager.connections d = none
  | .replace n d ws ip =>
    s.call n = .connecting d ws ip ∧ s.lock = none ∧ s.manager.connections d ≠ none
  | .register n d ws info => s.call n = .replacing d ws info.ip
  | .disconnect n _ => s.call n = .idle
  | .pop n d => s.call n = .disconnecting d ∧ s.lock = none
  | .close n d ws => s.call n = .popped d ws
  | .closed n => s.call n = .closing
  | .send n _ => s.call n = .idle
  | .sent n d ws => s.call n = .sending d ws
  | .sendFails n d ws => s.call n = .sending d ws
  | .cancel n => (s.call n).suspended = true

instance (s : State) : ∀ l, Decidable (Enabled s l)
  | .enter .. | .replace .. => inferInstanceAs (Decidable (_ ∧ _ ∧ _))
  | .pop .. => inferInstanceAs (Decidable (_ ∧ _))
  | .connect .. | .register .. | .disconnect .. | .close .. | .closed .. | .send .. | .sent ..
  | .sendFails .. | .cancel .. => inferInstanceAs (Decidable (_ = _))

/-- Call `n` goes on. -/
def goto (s : State) (n : Nat) (c : Call) : State := { s with call := Function.update s.call n c }

/-- What a stretch does. -/
def effect (s : State) : Label → State
  | .connect n d ws ip => goto s n (.connecting d ws ip)
  | .enter n d ws info => goto { s with manager := s.manager.register d ws info } n .idle
  | .replace n d ws ip =>
    goto { s with manager := s.manager.closeOld d, lock := some n } n (.replacing d ws ip)
  | .register n d ws info =>
    goto { s with manager := s.manager.register d ws info, lock := none } n .idle
  | .disconnect n d => goto s n (.disconnecting d)
  | .pop n d =>
    goto { s with manager := s.manager.take d } n
      (match s.manager.connections d with
      | some ws => .popped d ws
      | none => .idle)
  | .close n _ ws => goto { s with manager := s.manager.close (some ws) } n .closing
  | .closed n => goto s n .idle
  | .send n d =>
    goto s n
      (match s.manager.connections d with
      | some ws => .sending d ws
      | none => .idle)
  | .sent n _ _ => goto s n .idle
  | .sendFails n d _ => goto s n (.disconnecting d)
  | .cancel n => goto { s with lock := if s.lock = some n then none else s.lock } n .idle

/-- One step, where it can be done. -/
def step : State → Label → Option State := Run.guardedStep Enabled effect

/-! ## What the table is for -/

/-- Socket `ws` of device `d` is registered, or `close` was called on it, or a `disconnect` holds it and is
    about to close it. -/
def Accounted (s : State) (d : Uuid) (ws : Socket) : Prop :=
  s.manager.connections d = some ws ∨ s.manager.closed ws = true ∨ ∃ n, s.call n = .popped d ws

/-- `ever` are the entries that have been made so far. -/
structure Consistent (s : State) (ever : List (Uuid × Socket)) : Prop where
  same_keys : s.manager.SameKeys
  one_socket : ∀ d ws v, s.manager.connections d = some ws → s.manager.connections d = some v → ws = v
  no_leak : ∀ e ∈ ever, Accounted s e.1 e.2

/-! ## The invariant -/

/-- A `connect` that is suspended holds the lock, and the socket it is going to overwrite is closed. -/
structure Inv (s : State) : Prop where
  same_keys : s.manager.SameKeys
  replacing : ∀ n d ws ip, s.call n = .replacing d ws ip →
    s.lock = some n ∧ ∃ old, s.manager.connections d = some old ∧ s.manager.closed old = true

theorem inv_init : Inv init := ⟨fun _ => rfl, fun _ _ _ _ h => nomatch h⟩

theorem call_goto (s : State) (n m : Nat) (c : Call) :
    (goto s n c).call m = if m = n then c else s.call m := Function.update_apply ..

section

variable {s : State}

/-- With the lock free nobody is replacing. -/
theorem Inv.not_replacing (h : Inv s) (hlock : s.lock = none) (n : Nat) (d : Uuid) (ws : Socket)
    (ip : String) : s.call n ≠ .replacing d ws ip := by
  intro hc
  have hn := (h.replacing n d ws ip hc).1
  rw [hlock] at hn
  cases hn

/-- A call goes on without starting to replace, and neither the table nor the lock changes. -/
theorem Inv.goto (h : Inv s) (n : Nat) {c : Call} (hc : ∀ d ws ip, c ≠ .replacing d ws ip) :
    Inv (goto s n c) := by
  refine ⟨h.same_keys, fun m d ws ip hm => ?_⟩
  rw [call_goto] at hm
  split at hm
  · exact (hc d ws ip hm).elim
  · exact h.replacing m d ws ip hm

/-- A call that leaves the lock free, with nobody else replacing: the table may change. -/
theorem Inv.unlocked {m : Manager} (hkeys : m.SameKeys) (n : Nat) {c : Call}
    (hother : ∀ k d ws ip, k ≠ n → s.call k ≠ .replacing d ws ip)
    (hc : ∀ d ws ip, c ≠ .replacing d ws ip) (o : Option Nat) :
    Inv (Calls.goto { s with manager := m, lock := o } n c) := by
  refine ⟨hkeys, fun k d ws ip hk => ?_⟩
  rw [call_goto] at hk
  split at hk
  · exact (hc d ws ip hk).elim
  · exact (hother k d ws ip ‹_› hk).elim

/-- The replacing call is the only one. -/
theorem Inv.only_replacing (h : Inv s) {n : Nat} (hlock : s.lock = some n) (k : Nat) (d : Uuid)
    (ws : Socket) (ip : String) (hk : k ≠ n) : s.call k ≠ .replacing d ws ip := by
  intro hc
  have hlock' := (h.replacing k d ws ip hc).1
  rw [hlock] at hlock'
  exact hk (Option.some.inj hlock').symm

/-- **One stretch** keeps the invariant. -/
theorem step_inv (s : State) (l : Label) (s' : State) (hs : step s l = some s') (h : Inv s) :
    Inv s' := by
  obtain ⟨hen, rfl⟩ := Run.guardedStep_eq_some.mp hs
  cases l with
  | connect n d ws ip => exact h.goto n fun _ _ _ hc => nomatch hc
  | enter n d ws info =>
    exact .unlocked (c := .idle) (h.same_keys.register d ws info) n
      (fun k e v ip _ => h.not_replacing hen.2.1 k e v ip) (fun _ _ _ hc => nomatch hc) _
  -- The call that replaces a socket holds the lock over its await, so it is the only one of its kind.
  | replace n d ws ip =>
    obtain ⟨-, hlock, hentry⟩ := hen
    refine ⟨h.same_keys.close _, fun k e v ip' hk => ?_⟩
    replace hk := (call_goto _ n k _).symm.trans hk
    split at hk
    · subst_vars
      cases hk
      obtain ⟨old, hold⟩ := Option.ne_none_iff_exists'.mp hentry
      refine ⟨rfl, old, ?_, ?_⟩
      · show (s.manager.closeOld d).connections d = some old
        rw [Manager.closeOld_connections, hold]
      · show (s.manager.closeOld d).closed old = true
        rw [Manager.closeOld_closed, hold, decide_eq_true rfl, Bool.or_true]
    · exact (h.not_replacing hlock k e v ip' hk).elim
  | register n d ws info =>
    exact .unlocked (c := .idle) (h.same_keys.register d ws info) n
      (h.only_replacing (h.replacing n d ws info.ip hen).1) (fun _ _ _ hc => nomatch hc) _
  | disconnect n d => exact h.goto n fun _ _ _ hc => nomatch hc
  | pop n d =>
    refine .unlocked (h.same_keys.take d) n (fun k e v ip _ => h.not_replacing hen.2 k e v ip) ?_ _
    intro e v ip
    cases s.manager.connections d with
    | none => exact nofun
    | some ws => exact nofun
  | close n d ws =>
    refine ⟨h.same_keys.close (some ws), fun k e v ip hk => ?_⟩
    replace hk := (call_goto _ n k _).symm.trans hk
    split at hk
    · cases hk
    · obtain ⟨hlock, old, hold, hclosed⟩ := h.replacing k e v ip hk
      refine ⟨hlock, old, hold, ?_⟩
      show (s.manager.close (some ws)).closed old = true
      rw [Manager.close_closed, hclosed, Bool.true_or]
  | closed n => exact h.goto n fun _ _ _ hc => nomatch hc
  | send n d =>
    refine h.goto n fun e v ip => ?_
    cases s.manager.connections d with
    | none => exact nofun
    | some ws => exact nofun
  | sent n d ws => exact h.goto n fun _ _ _ hc => nomatch hc
  | sendFails n d ws => exact h.goto n fun _ _ _ hc => nomatch hc
  -- A cancelled call gives the lock back if it was its own.
  | cancel n =>
    by_cases hlock : s.lock = some n
    · exact .unlocked (c := .idle) h.same_keys n (h.only_replacing hlock) (fun _ _ _ hc => nomatch hc) _
    · show Inv (Calls.goto { s with lock := if s.lock = some n then none else s.lock } n .idle)
      rw [if_neg hlock]
      exact h.goto n fun _ _ _ hc => nomatch hc

/-! ## No socket is dropped -/

variable {d : Uuid} {ws : Socket}

/-- A call that holds no socket goes on. -/
theorem Accounted.goto (h : Accounted s d ws) {n : Nat} (hn : ∀ e v, s.call n ≠ .popped e v) (c : Call) :
    Accounted (goto s n c) d ws := by
  refine h.imp id (Or.imp id fun ⟨k, hk⟩ => ⟨k, ?_⟩)
  have hkn : k ≠ n := fun hkn => hn d ws (hkn ▸ hk)
  rw [call_goto, if_neg hkn]
  exact hk

/-- What is still in the table, or closed, stays accounted for when the manager changes. -/
theorem Accounted.manager (h : Accounted s d ws) {m : Manager} (o : Option Nat)
    (hclosed : s.manager.closed ws = true → m.closed ws = true)
    (hentry : s.manager.connections d = some ws → m.connections d = some ws ∨ m.closed ws = true) :
    Accounted { s with manager := m, lock := o } d ws := by
  rcases h with hc | hc | hc
  · exact (hentry hc).imp id .inl
  · exact .inr (.inl (hclosed hc))
  · exact .inr (.inr hc)

/-- A new entry overwrites nothing, or a socket that is closed. -/
theorem Accounted.register (h : Accounted s d ws) {e : Uuid} (v : Socket) (info : ConnMeta) (o : Option Nat)
    (hover : ∀ old, s.manager.connections e = some old → s.manager.closed old = true) :
    Accounted { s with manager := s.manager.register e v info, lock := o } d ws := by
  refine h.manager o id fun hws => ?_
  by_cases hde : d = e
  · subst hde
    exact .inr (hover ws hws)
  · left
    rw [Manager.register_connections, Function.update_of_ne hde]
    exact hws

/-- What is called with a phase that holds nothing. -/
theorem not_popped {n : Nat} {c : Call} (hn : s.call n = c) (hc : ∀ e v, c ≠ .popped e v) (e : Uuid)
    (v : Socket) : s.call n ≠ .popped e v := hn ▸ hc e v

/-- **One stretch** drops no socket. -/
theorem step_accounted (s : State) (l : Label) (s' : State) (e : Uuid × Socket)
    (hs : step s l = some s') (hI : Inv s) (h : Accounted s e.1 e.2) : Accounted s' e.1 e.2 := by
  obtain ⟨hen, rfl⟩ := Run.guardedStep_eq_some.mp hs
  obtain ⟨d, ws⟩ := e
  cases l with
  | connect n f v ip => exact h.goto (not_popped hen nofun) _
  | enter n f v info =>
    refine (h.register v info s.lock fun old hold => ?_).goto (not_popped hen.1 nofun) _
    rw [hen.2.2] at hold
    cases hold
  | replace n f v ip =>
    refine Accounted.goto (h.manager (some n) (fun hc => ?_) fun hc => .inl ?_) (not_popped hen.1 nofun) _
    · rw [Manager.closeOld_closed, hc, Bool.true_or]
    · rw [Manager.closeOld_connections]
      exact hc
  | register n f v info =>
    refine (h.register v info none fun old hold => ?_).goto (not_popped hen nofun) _
    -- the entry is the one that was closed before the suspension
    obtain ⟨-, old', hold', hclosed⟩ := hI.replacing n f v info.ip hen
    rw [hold] at hold'
    cases hold'
    exact hclosed
  | disconnect n f => exact h.goto (not_popped hen nofun) _
  | pop n f =>
    rcases h with hc | hc | ⟨k, hk⟩
    · by_cases hdf : d = f
      -- the socket is now in the hands of call `n`
      · subst hdf
        refine .inr (.inr ⟨n, ?_⟩)
        show (goto _ n (match s.manager.connections d with | some ws => _ | none => _)).call n = _
        rw [call_goto, if_pos rfl, hc]
      · refine .inl ?_
        show Function.update s.manager.connections f none d = some ws
        rw [Function.update_of_ne hdf]
        exact hc
    · exact .inr (.inl hc)
    · exact Accounted.goto (s := { s with manager := s.manager.take f }) (.inr (.inr ⟨k, hk⟩))
        (not_popped hen.1 nofun) _
  | close n f v =>
    rcases h with hc | hc | ⟨k, hk⟩
    · exact .inl hc
    · refine .inr (.inl ?_)
      show (s.manager.close (some v)).closed ws = true
      rw [Manager.close_closed, hc, Bool.true_or]
    · by_cases hkn : k = n
      · subst hkn
        obtain ⟨rfl, rfl⟩ := Call.popped.inj (hk.symm.trans hen)
        refine .inr (.inl ?_)
        show (s.manager.close (some ws)).closed ws = true
        rw [Manager.close_closed, decide_eq_true rfl, Bool.or_true]
      · refine .inr (.inr ⟨k, ?_⟩)
        show (goto _ n .closing).call k = _
        rw [call_goto, if_neg hkn]
        exact hk
  | closed n => exact h.goto (not_popped hen nofun) _
  | send n f => exact h.goto (not_popped hen nofun) _
  | sent n f v => exact h.goto (not_popped hen nofun) _
  | sendFails n f v => exact h.goto (not_popped hen nofun) _
  | cancel n =>
    refine Accounted.goto (h.manager _ id .inl) (fun f v hc => ?_) _
    have hsus : (s.call n).suspended = true := hen
    rw [hc] at hsus
    cases hsus

/-- A stretch that makes an entry leaves it in the table. -/
theorem step_registers (s : State) (l : Label) (s' : State) (e : Uuid × Socket)
    (hs : step s l = some s') (he : l.registers = some e) : Accounted s' e.1 e.2 := by
  obtain ⟨-, rfl⟩ := Run.guardedStep_eq_some.mp hs
  cases l with
  | enter n d ws info =>
    obtain rfl := Option.some.inj he
    exact .inl (Function.update_self ..)
  | register n d ws info =>
    obtain rfl := Option.some.inj he
    exact .inl (Function.update_self ..)
  | _ => cases he

end

/-- **The table is consistent** in every state that any interleaving of calls reaches: the same keys in
    both dicts, one socket for a device, and no socket dropped unclosed.

    Each await of `connect` and `disconnect` is a step of its own.  The invariant is `Consistent`, and the sockets
    that a call has taken out of the table are in its hands until they are closed. -/
theorem table_consistent {ls : List Label} {s : State} (hrun : Run.exec step init ls = some s) :
    Consistent s (ls.filterMap Label.registers) where
  same_keys := (Run.exec_inv (fun s l s' _ => step_inv s l s') (Run.guarded_true ls init) hrun
    inv_init).same_keys
  one_socket _ _ _ hws hv := Option.some.inj (hws.symm.trans hv)
  no_leak := Run.exec_recorded (Q := fun s e => Accounted s e.1 e.2) step_inv
    (fun s l s' e hs _ => step_registers s l s' e hs) step_accounted hrun inv_init

/-- Call 2 replaces the socket of call 1 while call 3 sends on it and fails; the `disconnect` of call 3
    then holds socket 8. -/
def crossing : List Label :=
  [.connect 1 5 7 "10.0.0.5", .enter 1 5 7 ⟨0, "10.0.0.5"⟩, .send 3 5, .connect 2 5 8 "10.0.0.6",
    .replace 2 5 8 "10.0.0.6", .sendFails 3 5 7, .register 2 5 8 ⟨1, "10.0.0.6"⟩, .pop 3 5]

theorem table_consistent_crossing : ∃ s, Run.exec step init crossing = some s ∧
    s.manager.connections 5 = none ∧ s.manager.closed 8 = false ∧ s.call 3 = .popped 5 8 ∧
    Consistent s [(5, 7), (5, 8)] :=
  ⟨_, rfl, rfl, rfl, rfl, @table_consistent crossing _ rfl⟩

end Calls

end Dtsys
