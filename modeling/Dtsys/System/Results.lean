/-
  DISPATCH AND RESULT, interleaved.

  A request that dispatches (the single one, the bulk one, the update dispatch, a tick of the
  scheduler) and the websocket loop of the device are two SESSIONS on one database:

  * a request `r`, for each of its commands: `flush` (the INSERT), `send`, `settle` (the status by
    what the send returned) or `undo` (the savepoint of a bulk element is rolled back); at the end
    `commit` or `rollback`;
  * the agent: `execute` a command that is on the wire, once, and queue its result;
  * the loop of device `d`, for each result: `get` (`db.get`, which finds the row or does not),
    `update`, `finish` (the commit) or `fail` (the database refuses the UPDATE or the commit).

  The command is on the wire from `send` on, its row is visible to the loop only from `commit` on.
  A result that is looked up in between finds NO row and is dropped without a word
  (`result_lost`); looked up later it is never lost (`result_not_lost`).
-/
import Dtsys.Lib.Run
import Dtsys.Lib.Store
import Dtsys.Server.Commands
import Dtsys.Server.Handler

namespace Dtsys

/-- The sessions. -/
inductive Tx
  | request (r : Nat)
  | loop (d : Uuid)
  deriving DecidableEq, Repr

/-- `CommandResultData`, with the id parsed. -/
structure CommandResult where
  commandId : Uuid
  exitCode : Int
  output : String
  deriving DecidableEq, Repr

/-- Where a request stands. -/
inductive Dispatching
  /-- between two commands -/
  | ready
  /-- the row of a command is flushed, next is the send to its device -/
  | flushed (id d : Uuid)
  /-- `send_to_device` has returned -/
  | answered (id : Uuid) (sent : Bool)
  | ended
  deriving DecidableEq, Repr

/-- The command a request is dispatching. -/
def Dispatching.current : Dispatching → Option Uuid
  | flushed id _ => some id
  | answered id _ => some id
  | _ => none

/-- Where the loop of a device stands. -/
inductive Looping
  | idle
  /-- `db.get` returned the row -/
  | found (res : CommandResult)
  /-- `db.get` returned `None` -/
  | missed (res : CommandResult)
  | updated (res : CommandResult)
  deriving DecidableEq, Repr

/-- What a loop that has found its row is working on. -/
def Looping.result : Looping → Option CommandResult
  | found res => some res
  | updated res => some res
  | _ => none

/-- The sessions, the database they share, and the messages in flight. -/
structure Exchange where
  store : Store Tx Uuid Command
  request : Nat → Dispatching
  /-- the request that flushed the row of a command -/
  dispatcher : Uuid → Option Nat
  /-- devices and the commands transmitted to them -/
  wire : List (Uuid × Uuid)
  /-- what the agent has executed -/
  executed : Uuid → Option CommandResult
  /-- results on their way to the loop of a device -/
  inbox : Uuid → List CommandResult
  loop : Uuid → Looping
  /-- the result the server has handled for a command -/
  handled : Uuid → Option CommandResult

namespace Exchange

/-- The steps of the requests, of the agent and of the connection loops. -/
inductive Label
  | flush (r : Nat) (c : Command)
  | send (r : Nat) (id d : Uuid) (sent : Bool)
  | settle (r : Nat) (id : Uuid) (sent failIfOffline : Bool) (t : Nat)
  | undo (r : Nat) (id : Uuid)
  | commit (r : Nat)
  | rollback (r : Nat)
  | execute (d : Uuid) (res : CommandResult)
  | get (d : Uuid) (res : CommandResult)
  | update (d : Uuid) (res : CommandResult) (t : Nat)
  | finish (d : Uuid) (res : CommandResult)
  | fail (d : Uuid)

/-- Nothing has been dispatched. -/
def init : Exchange where
  store := .empty
  request := fun _ => .ready
  dispatcher := fun _ => none
  wire := []
  executed := fun _ => none
  inbox := fun _ => []
  loop := fun _ => .idle
  handled := fun _ => none

/-- When a step can be taken. -/
def Enabled (s : Exchange) : Label → Prop
  | .flush r c => s.request r = .ready ∧ c.status = .pending ∧ s.dispatcher c.id = none
  | .send r id d _ => s.request r = .flushed id d
  | .settle r id sent _ _ => s.request r = .answered id sent
  | .undo r id => (s.request r).current = some id
  | .commit r => s.request r = .ready
  | .rollback r => s.request r ≠ .ended
  | .execute d res =>
    s.wire.contains (d, res.commandId) = true ∧ s.executed res.commandId = none
  | .get d res => s.loop d = .idle ∧ (s.inbox d).head? = some res
  | .update d res _ => s.loop d = .found res
  | .finish d res => s.loop d = .missed res ∨ s.loop d = .updated res
  | .fail d => s.loop d ≠ .idle

instance (s : Exchange) : ∀ l, Decidable (Enabled s l)
  | .flush .. => inferInstanceAs (Decidable (_ ∧ _ ∧ _))
  | .execute .. | .get .. => inferInstanceAs (Decidable (_ ∧ _))
  | .finish .. => inferInstanceAs (Decidable (_ ∨ _))
  | .rollback .. | .fail .. => inferInstanceAs (Decidable (_ ≠ _))
  | .send .. | .settle .. | .undo .. | .commit .. | .update .. =>
    inferInstanceAs (Decidable (_ = _))

/-- The request goes on. -/
def requestGoto (s : Exchange) (r : Nat) (p : Dispatching) : Exchange :=
  { s with request := Function.update s.request r p }

/-- The loop goes on. -/
def loopGoto (s : Exchange) (d : Uuid) (p : Looping) : Exchange :=
  { s with loop := Function.update s.loop d p }

/-- The values the UPDATE of a result writes. -/
def resultRow (res : CommandResult) (t : Nat) (row : Command) : Command :=
  Server.resultValues (.int res.exitCode) (.str res.output) t row

/-- What a step does. -/
def effect (s : Exchange) : Label → Exchange
  | .flush r c =>
    requestGoto
      { s with
        store := s.store.write (.request r) c.id c
        dispatcher := Function.update s.dispatcher c.id (some r) } r (.flushed c.id c.deviceId)
  | .send r id d sent =>
    requestGoto { s with wire := if sent then s.wire ++ [(d, id)] else s.wire } r
      (.answered id sent)
  | .settle r id sent failIfOffline t =>
    requestGoto
      { s with
        store := s.store.modify (.request r) id (Server.settleDispatch sent failIfOffline t) }
      r .ready
  | .undo r id => requestGoto { s with store := s.store.undo (.request r) id } r .ready
  | .commit r => requestGoto { s with store := s.store.commit (.request r) } r .ended
  | .rollback r => requestGoto { s with store := s.store.rollback (.request r) } r .ended
  | .execute d res =>
    { s with
      executed := Function.update s.executed res.commandId (some res)
      inbox := Function.update s.inbox d (s.inbox d ++ [res]) }
  | .get d res =>
    loopGoto { s with inbox := Function.update s.inbox d (s.inbox d).tail } d
      (if (s.store.read (.loop d) res.commandId).isSome then .found res else .missed res)
  | .update d res t =>
    loopGoto
      { s with store := s.store.modify (.loop d) res.commandId (resultRow res t) } d (.updated res)
  | .finish d res =>
    loopGoto
      { s with
        store := s.store.commit (.loop d)
        handled := Function.update s.handled res.commandId (some res) } d .idle
  | .fail d => loopGoto { s with store := s.store.rollback (.loop d) } d .idle

/-- One step of one party. -/
def step : Exchange → Label → Option Exchange := Run.guardedStep Enabled effect

/-! ## What should not happen -/

/-- The row carries the result. -/
structure Carries (row : Command) (res : CommandResult) : Prop where
  status : row.status = if res.exitCode = 0 then .completed else .failed
  exitCode : row.exitCode = .int res.exitCode
  output : row.output = .str res.output

/-- A result the server has handled is in the committed row, once the dispatching transaction has
    ended. -/
def NoLostResult (s : Exchange) : Prop :=
  ∀ id res r, s.handled id = some res → s.dispatcher id = some r → s.request r = .ended →
    ∃ row, s.store.committed id = some row ∧ Carries row res

/-- A result is looked up after the commit of the transaction that dispatched its command. -/
def AfterCommit (s : Exchange) : Label → Prop
  | .get _ res => (s.store.committed res.commandId).isSome = true
  | _ => True

/-! ## The invariant -/

/-- The rows a request has written, and the one it is dispatching, are its own and not committed. -/
structure RequestInv (s : Exchange) : Prop where
  write : ∀ r id row, s.store.writes (.request r) id = some row →
    s.dispatcher id = some r ∧ s.store.committed id = none
  current : ∀ r id, (s.request r).current = some id →
    s.dispatcher id = some r ∧ s.store.committed id = none
  fresh : ∀ id, s.dispatcher id = none → s.store.committed id = none

/-- A loop works on results of the agent, whose rows are committed; what it has written carries the
    result. -/
structure LoopInv (s : Exchange) : Prop where
  inbox : ∀ d, ∀ res ∈ s.inbox d, s.executed res.commandId = some res
  result : ∀ d res, (s.loop d).result = some res →
    s.executed res.commandId = some res ∧ (s.store.committed res.commandId).isSome = true
  not_missed : ∀ d res, s.loop d ≠ .missed res
  updated : ∀ d res, s.loop d = .updated res →
    (s.store.writes (.loop d) res.commandId).isSome = true
  write : ∀ d id row, s.store.writes (.loop d) id = some row →
    ∃ res, s.loop d = .updated res ∧ res.commandId = id ∧ Carries row res

/-- The results that were handled are in the committed rows. -/
def HandledInv (s : Exchange) : Prop :=
  ∀ id res, s.handled id = some res → s.executed id = some res ∧
    ∃ row, s.store.committed id = some row ∧ Carries row res

/-- What holds of the requests, of the loops and of what they have handled. -/
structure Inv (s : Exchange) : Prop where
  requests : RequestInv s
  loops : LoopInv s
  handled : HandledInv s

theorem inv_init : Inv init := by
  refine ⟨⟨?_, ?_, ?_⟩, ⟨?_, ?_, ?_, ?_, ?_⟩, ?_⟩
  · exact fun _ _ _ h => nomatch h
  · exact fun _ _ h => nomatch h
  · exact fun _ _ => rfl
  · exact fun _ _ h => nomatch h
  · exact fun _ _ h => nomatch h
  · exact fun _ _ h => nomatch h
  · exact fun _ _ h => nomatch h
  · exact fun _ _ _ h => nomatch h
  · exact fun _ _ h => nomatch h

/-! ## Frames: what a party leaves alone -/

section Frames

variable {s s' : Exchange}

/-- A step of a loop, or of the agent, as the requests see it. -/
theorem RequestInv.frame (h : RequestInv s)
    (hwrites : ∀ r id, s'.store.writes (.request r) id = s.store.writes (.request r) id)
    (hrequest : s'.request = s.request) (hdispatcher : s'.dispatcher = s.dispatcher)
    (hnone : ∀ id, s.store.committed id = none → s'.store.committed id = none) :
    RequestInv s' := by
  refine ⟨?_, ?_, ?_⟩
  · intro r id row hw
    rw [hwrites] at hw
    obtain ⟨hd, hc⟩ := h.write r id row hw
    exact ⟨by rw [hdispatcher]; exact hd, hnone id hc⟩
  · intro r id hcur
    rw [hrequest] at hcur
    obtain ⟨hd, hc⟩ := h.current r id hcur
    exact ⟨by rw [hdispatcher]; exact hd, hnone id hc⟩
  · intro id hd
    rw [hdispatcher] at hd
    exact hnone id (h.fresh id hd)

/-- A step of a request, as the loops see it. -/
theorem LoopInv.frame (h : LoopInv s)
    (hwrites : ∀ d id, s'.store.writes (.loop d) id = s.store.writes (.loop d) id)
    (hloop : s'.loop = s.loop) (hinbox : s'.inbox = s.inbox) (hexec : s'.executed = s.executed)
    (hsome : ∀ id, (s.store.committed id).isSome = true → (s'.store.committed id).isSome = true) :
    LoopInv s' := by
  refine ⟨?_, ?_, ?_, ?_, ?_⟩
  · rw [hinbox, hexec]
    exact h.inbox
  · intro d res hres
    rw [hloop] at hres
    obtain ⟨he, hc⟩ := h.result d res hres
    exact ⟨by rw [hexec]; exact he, hsome _ hc⟩
  · rw [hloop]
    exact h.not_missed
  · intro d res hup
    rw [hloop] at hup
    rw [hwrites]
    exact h.updated d res hup
  · intro d id row hw
    rw [hwrites] at hw
    rw [hloop]
    exact h.write d id row hw

/-- What was handled stays handled. -/
theorem HandledInv.frame (h : HandledInv s) (hhandled : s'.handled = s.handled)
    (hexec : ∀ id res, s.executed id = some res → s'.executed id = some res)
    (hsome : ∀ id row, s.store.committed id = some row → s'.store.committed id = some row) :
    HandledInv s' := by
  intro id res hh
  rw [hhandled] at hh
  obtain ⟨he, row, hrow, hcarries⟩ := h id res hh
  exact ⟨hexec id res he, row, hsome id row hrow, hcarries⟩

/-- A step of a request that commits nothing. -/
theorem Inv.of_request (h : Inv s) (hreq : RequestInv s')
    (hwrites : ∀ d id, s'.store.writes (.loop d) id = s.store.writes (.loop d) id)
    (hcommitted : s'.store.committed = s.store.committed) (hloop : s'.loop = s.loop)
    (hinbox : s'.inbox = s.inbox) (hexec : s'.executed = s.executed)
    (hhandled : s'.handled = s.handled) : Inv s' := by
  refine ⟨hreq, h.loops.frame hwrites hloop hinbox hexec ?_, h.handled.frame hhandled ?_ ?_⟩
  · rw [hcommitted]; exact fun _ h => h
  · rw [hexec]; exact fun _ _ h => h
  · rw [hcommitted]; exact fun _ _ h => h

/-- A step of a loop, or of the agent, that commits nothing. -/
theorem Inv.of_loop (h : Inv s) (hloops : LoopInv s')
    (hwrites : ∀ r id, s'.store.writes (.request r) id = s.store.writes (.request r) id)
    (hcommitted : s'.store.committed = s.store.committed) (hrequest : s'.request = s.request)
    (hdispatcher : s'.dispatcher = s.dispatcher) (hhandled : s'.handled = s.handled)
    (hexec : ∀ id res, s.executed id = some res → s'.executed id = some res) : Inv s' := by
  refine ⟨h.requests.frame hwrites hrequest hdispatcher ?_, hloops,
    h.handled.frame hhandled hexec ?_⟩
  · rw [hcommitted]; exact fun _ h => h
  · rw [hcommitted]; exact fun _ _ h => h

end Frames

/-! ## Steps of a request -/

section Requests

variable {s : Exchange}

theorem current_update {r r' : Nat} {p : Dispatching} {id : Uuid}
    (h : (Function.update s.request r p r').current = some id) :
    (r' = r ∧ p.current = some id) ∨ (r' ≠ r ∧ (s.request r').current = some id) := by
  by_cases hr : r' = r
  · subst hr
    rw [Function.update_self] at h
    exact Or.inl ⟨rfl, h⟩
  · rw [Function.update_of_ne hr] at h
    exact Or.inr ⟨hr, h⟩

theorem flush_inv (h : RequestInv s) {r : Nat} {c : Command} (hfresh : s.dispatcher c.id = none) :
    RequestInv (effect s (.flush r c)) := by
  have hother : ∀ id r', s.dispatcher id = some r' →
      Function.update s.dispatcher c.id (some r) id = some r' := by
    intro id r' hd
    have hne : id ≠ c.id := by
      rintro rfl
      rw [hfresh] at hd
      cases hd
    rw [Function.update_of_ne hne]
    exact hd
  have hown : Function.update s.dispatcher c.id (some r) c.id = some r ∧
      s.store.committed c.id = none := ⟨Function.update_self .., h.fresh c.id hfresh⟩
  refine ⟨?_, ?_, ?_⟩
  · intro r' id row hw
    replace hw : (s.store.write (.request r) c.id c).writes (.request r') id = some row := hw
    rw [Store.write_writes] at hw
    split at hw
    · rename_i heq
      obtain ⟨hr, rfl⟩ := heq
      cases hr
      exact hown
    · obtain ⟨hd, hc⟩ := h.write r' id row hw
      exact ⟨hother id r' hd, hc⟩
  · intro r' id hcur
    rcases current_update hcur with ⟨rfl, hid⟩ | ⟨-, hold⟩
    · cases hid
      exact hown
    · obtain ⟨hd, hc⟩ := h.current r' id hold
      exact ⟨hother id r' hd, hc⟩
  · intro id hd
    -- an id that nobody has dispatched now was dispatched by nobody before
    refine h.fresh id ?_
    by_contra hne
    obtain ⟨r', hr'⟩ := Option.ne_none_iff_exists'.mp hne
    rw [show (effect s (.flush r c)).dispatcher id = some r' from hother id r' hr'] at hd
    cases hd

/-- A step of request `r` that neither starts a dispatch nor commits. -/
theorem RequestInv.inner {s' : Exchange} (h : RequestInv s)
    (hwrites : ∀ r' id row, s'.store.writes (.request r') id = some row →
      (∃ old, s.store.writes (.request r') id = some old) ∨ (s.request r').current = some id)
    (hcurrent : ∀ r' id, (s'.request r').current = some id → (s.request r').current = some id)
    (hdispatcher : s'.dispatcher = s.dispatcher)
    (hcommitted : s'.store.committed = s.store.committed) : RequestInv s' := by
  refine ⟨?_, ?_, ?_⟩
  · intro r' id row hw
    rw [hdispatcher, hcommitted]
    rcases hwrites r' id row hw with ⟨old, hold⟩ | hcur
    · exact h.write r' id old hold
    · exact h.current r' id hcur
  · intro r' id hcur
    rw [hdispatcher, hcommitted]
    exact h.current r' id (hcurrent r' id hcur)
  · rw [hdispatcher, hcommitted]
    exact h.fresh

/-- A request that is done with a command is dispatching none. -/
theorem current_done {r r' : Nat} {p : Dispatching} (hp : p.current = none) {id : Uuid}
    (h : (Function.update s.request r p r').current = some id) :
    (s.request r').current = some id := by
  rcases current_update h with ⟨-, hid⟩ | ⟨-, hold⟩
  · rw [hp] at hid
    cases hid
  · exact hold

theorem settle_inv (h : RequestInv s) {r : Nat} {id : Uuid} {sent : Bool}
    (hr : s.request r = .answered id sent) (failIfOffline : Bool) (t : Nat) :
    RequestInv (effect s (.settle r id sent failIfOffline t)) := by
  refine h.inner ?_ (fun _ _ => current_done rfl) rfl (Store.modify_committed ..)
  intro r' id' row hw
  replace hw : (s.store.modify (.request r) id
    (Server.settleDispatch sent failIfOffline t)).writes (.request r') id' = some row := hw
  rw [Store.modify_writes] at hw
  split at hw
  · rename_i heq
    obtain ⟨hreq, rfl⟩ := heq
    cases hreq
    exact Or.inr (by rw [hr]; rfl)
  · exact Or.inl ⟨row, hw⟩

theorem undo_inv (h : RequestInv s) (r : Nat) (id : Uuid) :
    RequestInv (effect s (.undo r id)) := by
  refine h.inner ?_ (fun _ _ => current_done rfl) rfl rfl
  intro r' id' row hw
  replace hw : (s.store.undo (.request r) id).writes (.request r') id' = some row := hw
  rw [Store.undo_writes] at hw
  split at hw
  · cases hw
  · exact Or.inl ⟨row, hw⟩

/-- A rollback, which undoes the dispatch. -/
theorem rollback_inv (h : RequestInv s) (r : Nat) : RequestInv (effect s (.rollback r)) := by
  refine h.inner ?_ (fun _ _ => current_done rfl) rfl rfl
  intro r' id' row hw
  replace hw : (s.store.rollback (.request r)).writes (.request r') id' = some row := hw
  rw [Store.rollback_writes] at hw
  split at hw
  · cases hw
  · exact Or.inl ⟨row, hw⟩

/-- The commit of a request touches no committed row. -/
theorem RequestInv.commit_some (h : RequestInv s) (r : Nat) {id : Uuid} {row : Command}
    (hrow : s.store.committed id = some row) :
    (s.store.commit (.request r)).committed id = some row := by
  rw [Store.commit_committed]
  cases hw : s.store.writes (.request r) id with
  | none => exact hrow
  | some new =>
    rw [(h.write r id new hw).2] at hrow
    cases hrow

theorem commit_inv (h : RequestInv s) (r : Nat) : RequestInv (effect s (.commit r)) := by
  -- what belongs to another request, or to none, is not among the rows `r` commits
  have hnone : ∀ id, s.dispatcher id ≠ some r → s.store.committed id = none →
      (s.store.commit (.request r)).committed id = none := by
    intro id hd hc
    rw [Store.commit_committed]
    cases hw : s.store.writes (.request r) id with
    | none => exact hc
    | some new => exact absurd (h.write r id new hw).1 hd
  refine ⟨?_, ?_, ?_⟩
  · intro r' id row hw
    replace hw : (s.store.commit (.request r)).writes (.request r') id = some row := hw
    rw [Store.commit_writes] at hw
    split at hw
    · cases hw
    · rename_i hne
      obtain ⟨hd, hc⟩ := h.write r' id row hw
      refine ⟨hd, hnone id ?_ hc⟩
      rw [hd]
      exact fun heq => hne (by rw [Option.some.inj heq])
  · intro r' id hcur
    rcases current_update hcur with ⟨-, hid⟩ | ⟨hne, hold⟩
    · cases hid
    · obtain ⟨hd, hc⟩ := h.current r' id hold
      refine ⟨hd, hnone id ?_ hc⟩
      rw [hd]
      exact fun heq => hne (Option.some.inj heq)
  · intro id hd
    replace hd : s.dispatcher id = none := hd
    refine hnone id ?_ (h.fresh id hd)
    rw [hd]
    exact fun heq => nomatch heq

end Requests

/-! ## Steps of the agent and of a loop -/

section Loops

variable {s : Exchange}

/-- The agent executes a command once: what it has executed stays. -/
theorem executed_mono {res : CommandResult} (hnew : s.executed res.commandId = none) {id : Uuid}
    {old : CommandResult} (hold : s.executed id = some old) :
    Function.update s.executed res.commandId (some res) id = some old := by
  have hne : id ≠ res.commandId := by
    rintro rfl
    rw [hnew] at hold
    cases hold
  rw [Function.update_of_ne hne]
  exact hold

theorem execute_inv (h : LoopInv s) {d : Uuid} {res : CommandResult}
    (hnew : s.executed res.commandId = none) : LoopInv (effect s (.execute d res)) := by
  refine ⟨?_, ?_, h.not_missed, h.updated, h.write⟩
  · intro d' old hold
    replace hold : old ∈ Function.update s.inbox d (s.inbox d ++ [res]) d' := hold
    have hcase : old ∈ s.inbox d' ∨ old = res := by
      by_cases hd : d' = d
      · subst hd
        rw [Function.update_self, List.mem_append, List.mem_singleton] at hold
        exact hold
      · rw [Function.update_of_ne hd] at hold
        exact Or.inl hold
    rcases hcase with hin | rfl
    · exact executed_mono hnew (h.inbox d' old hin)
    · exact Function.update_self ..
  · intro d' old hold
    obtain ⟨he, hc⟩ := h.result d' old hold
    exact ⟨executed_mono hnew he, hc⟩

/-- A step of the loop of `d` to the phase `p`. -/
theorem LoopInv.moved {s' : Exchange} (h : LoopInv s) {d : Uuid} {p : Looping}
    (hloop : s'.loop = Function.update s.loop d p)
    (hinbox : ∀ d', ∀ res ∈ s'.inbox d', res ∈ s.inbox d') (hexec : s'.executed = s.executed)
    (hsome : ∀ id, (s.store.committed id).isSome = true → (s'.store.committed id).isSome = true)
    (hother : ∀ d' id, d' ≠ d → s'.store.writes (.loop d') id = s.store.writes (.loop d') id)
    (hresult : ∀ res, p.result = some res → s.executed res.commandId = some res ∧
      (s.store.committed res.commandId).isSome = true)
    (hmissed : ∀ res, p ≠ .missed res)
    (hupdated : ∀ res, p = .updated res →
      (s'.store.writes (.loop d) res.commandId).isSome = true)
    (hwrite : ∀ id row, s'.store.writes (.loop d) id = some row →
      ∃ res, p = .updated res ∧ res.commandId = id ∧ Carries row res) : LoopInv s' := by
  have hself : s'.loop d = p := by rw [hloop, Function.update_self]
  have hrest : ∀ d', d' ≠ d → s'.loop d' = s.loop d' := fun d' hd => by
    rw [hloop, Function.update_of_ne hd]
  -- What the step says of the loop of d, and for the other loops what held before it.
  refine ⟨?_, ?_, ?_, ?_, ?_⟩
  · intro d' res hres
    rw [hexec]
    exact h.inbox d' res (hinbox d' res hres)
  · intro d' res hres
    rw [hexec]
    by_cases hd : d' = d
    · subst hd
      rw [hself] at hres
      exact ⟨(hresult res hres).1, hsome _ (hresult res hres).2⟩
    · rw [hrest d' hd] at hres
      exact ⟨(h.result d' res hres).1, hsome _ (h.result d' res hres).2⟩
  · intro d' res
    by_cases hd : d' = d
    · subst hd
      rw [hself]
      exact hmissed res
    · rw [hrest d' hd]
      exact h.not_missed d' res
  · intro d' res hup
    by_cases hd : d' = d
    · subst hd
      rw [hself] at hup
      exact hupdated res hup
    · rw [hrest d' hd] at hup
      rw [hother d' _ hd]
      exact h.updated d' res hup
  · intro d' id row hw
    by_cases hd : d' = d
    · subst hd
      rw [hself]
      exact hwrite id row hw
    · rw [hother d' id hd] at hw
      rw [hrest d' hd]
      exact h.write d' id row hw

/-- A loop that is not `updated` has written nothing. -/
theorem LoopInv.no_write (h : LoopInv s) {d : Uuid} (hd : ∀ res, s.loop d ≠ .updated res)
    (id : Uuid) : s.store.writes (.loop d) id = none := by
  cases hw : s.store.writes (.loop d) id with
  | none => rfl
  | some row =>
    obtain ⟨res, hup, -⟩ := h.write d id row hw
    exact absurd hup (hd res)

/-- What a loop has written is a row that is committed. -/
theorem LoopInv.write_committed (h : LoopInv s) {d id : Uuid} {row : Command}
    (hw : s.store.writes (.loop d) id = some row) : (s.store.committed id).isSome = true := by
  obtain ⟨res, hup, rfl, -⟩ := h.write d id row hw
  exact (h.result d res (by rw [hup]; rfl)).2

/-- The loop of a device takes a result. -/
theorem get_inv (h : LoopInv s) {d : Uuid} {res : CommandResult} (hidle : s.loop d = .idle)
    (hhead : (s.inbox d).head? = some res)
    (hseen : (s.store.committed res.commandId).isSome = true) :
    LoopInv (effect s (.get d res)) := by
  have hnot : ∀ res, s.loop d ≠ .updated res := fun res hup => by
    rw [hidle] at hup
    cases hup
  -- READ COMMITTED: an idle loop has no writes of its own, so it sees what is committed
  have hread : s.store.read (.loop d) res.commandId = s.store.committed res.commandId :=
    Store.read_of_no_write (h.no_write hnot _)
  have hphase : (if (s.store.read (.loop d) res.commandId).isSome then Looping.found res
      else .missed res) = .found res := if_pos (by rw [hread]; exact hseen)
  have hexec := h.inbox d res (List.mem_of_mem_head? hhead)
  refine h.moved (congrArg (Function.update s.loop d) hphase) ?_ rfl (fun _ h => h)
    (fun _ _ _ => rfl) ?_ (fun _ h => nomatch h) (fun _ h => nomatch h) ?_
  · intro d' old hold
    replace hold : old ∈ Function.update s.inbox d (s.inbox d).tail d' := hold
    by_cases hd : d' = d
    · subst hd
      rw [Function.update_self] at hold
      exact List.mem_of_mem_tail hold
    · rwa [Function.update_of_ne hd] at hold
  · intro res' hres'
    cases hres'
    exact ⟨hexec, hseen⟩
  · intro id row hw
    replace hw : s.store.writes (.loop d) id = some row := hw
    rw [h.no_write hnot id] at hw
    cases hw

theorem resultRow_carries (res : CommandResult) (t : Nat) (row : Command) :
    Carries (resultRow res t row) res := by
  refine ⟨?_, rfl, rfl⟩
  show (if (Json.int res.exitCode).isZero then CommandStatus.completed else .failed) = _
  have hzero : (Json.int res.exitCode).isZero = decide (res.exitCode = 0) := by
    rw [Json.isZero, Json.number, Bool.eq_iff_iff]
    simp
  rw [hzero]
  simp

theorem update_inv (h : LoopInv s) {d : Uuid} {res : CommandResult} (hfound : s.loop d = .found res)
    (t : Nat) : LoopInv (effect s (.update d res t)) := by
  have hnot : ∀ res, s.loop d ≠ .updated res := fun res hup => by
    rw [hfound] at hup
    cases hup
  obtain ⟨hexec, hseen⟩ := h.result d res (by rw [hfound]; rfl)
  obtain ⟨old, hold⟩ := Option.isSome_iff_exists.mp hseen
  -- The loop reads the committed row: it has written nothing so far.
  have hread : s.store.read (.loop d) res.commandId = some old :=
    (Store.read_of_no_write (h.no_write hnot _)).trans hold
  have hwrites : ∀ d' id, (effect s (.update d res t)).store.writes (.loop d') id =
      if Tx.loop d' = .loop d ∧ id = res.commandId then some (resultRow res t old)
      else s.store.writes (.loop d') id := by
    intro d' id
    show (s.store.modify (.loop d) res.commandId (resultRow res t)).writes (.loop d') id = _
    rw [Store.modify_writes, hread]
    rfl
  refine h.moved rfl (fun _ _ h => h) rfl ?_ ?_ ?_ (fun _ h => nomatch h) ?_ ?_
  · show ∀ id, _ → ((s.store.modify (.loop d) res.commandId (resultRow res t)).committed id).isSome =
      true
    rw [Store.modify_committed]
    exact fun _ h => h
  · intro d' id hd
    rw [hwrites, if_neg fun hall => hd (Tx.loop.inj hall.1)]
  · intro res' hres'
    cases hres'
    exact ⟨hexec, hseen⟩
  · intro res' hres'
    cases hres'
    rw [hwrites, if_pos ⟨rfl, rfl⟩]
    rfl
  · intro id row hw
    rw [hwrites] at hw
    split at hw
    · rename_i heq
      cases hw
      exact ⟨res, rfl, heq.2.symm, resultRow_carries res t old⟩
    · rw [h.no_write hnot id] at hw
      cases hw

/-- The loop of `d` gives up or has committed: it holds no writes. -/
theorem idle_inv {s' : Exchange} (h : LoopInv s) {d : Uuid}
    (hloop : s'.loop = Function.update s.loop d .idle) (hinbox : s'.inbox = s.inbox)
    (hexec : s'.executed = s.executed)
    (hsome : ∀ id, (s.store.committed id).isSome = true → (s'.store.committed id).isSome = true)
    (hwrites : ∀ d' id, s'.store.writes (.loop d') id =
      if Tx.loop d' = .loop d then none else s.store.writes (.loop d') id) : LoopInv s' := by
  refine h.moved hloop (by rw [hinbox]; exact fun _ _ h => h) hexec hsome ?_ (fun _ h => nomatch h)
    (fun _ h => nomatch h) (fun _ h => nomatch h) ?_
  · intro d' id hd
    rw [hwrites, if_neg fun heq => hd (Tx.loop.inj heq)]
  · intro id row hw
    rw [hwrites, if_pos rfl] at hw
    cases hw

/-- The commit of the loop of `d` changes the row of its result, and no other. -/
theorem LoopInv.commit_other (h : LoopInv s) {d id : Uuid} {res : CommandResult}
    (hup : s.loop d = .updated res) (hne : id ≠ res.commandId) :
    (s.store.commit (.loop d)).committed id = s.store.committed id := by
  rw [Store.commit_committed]
  cases hw : s.store.writes (.loop d) id with
  | none => rfl
  | some row =>
    obtain ⟨res', hup', hid, -⟩ := h.write d id row hw
    rw [hup] at hup'
    cases hup'
    exact absurd hid.symm hne

theorem LoopInv.commit_own (h : LoopInv s) {d : Uuid} {res : CommandResult}
    (hup : s.loop d = .updated res) :
    ∃ row, (s.store.commit (.loop d)).committed res.commandId = some row ∧ Carries row res := by
  obtain ⟨row, hw⟩ := Option.isSome_iff_exists.mp (h.updated d res hup)
  obtain ⟨res', hup', -, hcarries⟩ := h.write d _ row hw
  rw [hup] at hup'
  cases hup'
  refine ⟨row, ?_, hcarries⟩
  rw [Store.commit_committed, hw]
  rfl

theorem finish_inv (h : Inv s) {d : Uuid} {res : CommandResult} (hup : s.loop d = .updated res) :
    Inv (effect s (.finish d res)) := by
  obtain ⟨hexec, hseen⟩ := h.loops.result d res (by rw [hup]; rfl)
  obtain ⟨row, hrow, hcarries⟩ := h.loops.commit_own hup
  refine ⟨?_, ?_, ?_⟩
  · refine h.requests.frame (fun r id => ?_) rfl rfl ?_
    · show (s.store.commit (.loop d)).writes (.request r) id = _
      rw [Store.commit_writes, if_neg (fun heq => nomatch heq)]
    · intro id hnone
      have hne : id ≠ res.commandId := by
        rintro rfl
        rw [hnone] at hseen
        cases hseen
      exact (h.loops.commit_other hup hne).trans hnone
  · refine idle_inv h.loops rfl rfl rfl ?_ (fun d' id => Store.commit_writes s.store _ _ id)
    intro id hsome
    show ((s.store.commit (.loop d)).committed id).isSome = true
    rw [Store.commit_committed, Option.isSome_or, hsome, Bool.or_true]
  · intro id old hold
    replace hold : Function.update s.handled res.commandId (some res) id = some old := hold
    by_cases hid : id = res.commandId
    · subst hid
      rw [Function.update_self] at hold
      cases hold
      exact ⟨hexec, row, hrow, hcarries⟩
    · rw [Function.update_of_ne hid] at hold
      obtain ⟨he, row', hrow', hcarries'⟩ := h.handled id old hold
      exact ⟨he, row', (h.loops.commit_other hup hid).trans hrow', hcarries'⟩

end Loops

/-! ## Runs -/

/-- **One step** keeps the invariant, if a result is looked up after the commit. -/
theorem step_inv (s : Exchange) (l : Label) (s' : Exchange) (hafter : AfterCommit s l)
    (hs : step s l = some s') (h : Inv s) : Inv s' := by
  obtain ⟨hen, rfl⟩ := Run.guardedStep_eq_some.mp hs
  cases l with
  | flush r c =>
    refine h.of_request (flush_inv h.requests hen.2.2) (fun d id => ?_) rfl rfl rfl rfl rfl
    show (s.store.write (.request r) c.id c).writes (.loop d) id = _
    rw [Store.write_writes, if_neg fun heq => nomatch heq.1]
  | send r id d sent =>
    refine h.of_request (h.requests.inner (fun _ _ row hw => Or.inl ⟨row, hw⟩) ?_ rfl rfl)
      (fun _ _ => rfl) rfl rfl rfl rfl rfl
    intro r' id' hcur
    rcases current_update hcur with ⟨rfl, hid⟩ | ⟨-, hold⟩
    · rw [hen]
      exact hid
    · exact hold
  | settle r id sent failIfOffline t =>
    refine h.of_request (settle_inv h.requests hen failIfOffline t) (fun d id' => ?_)
      (Store.modify_committed ..) rfl rfl rfl rfl
    show (s.store.modify (.request r) id _).writes (.loop d) id' = _
    rw [Store.modify_writes, if_neg fun heq => nomatch heq.1]
  | undo r id =>
    refine h.of_request (undo_inv h.requests r id) (fun d id' => ?_) rfl rfl rfl rfl rfl
    show (s.store.undo (.request r) id).writes (.loop d) id' = _
    rw [Store.undo_writes, if_neg fun heq => nomatch heq.1]
  | commit r =>
    refine ⟨commit_inv h.requests r, h.loops.frame (fun d id => ?_) rfl rfl rfl ?_,
      h.handled.frame rfl (fun _ _ h => h) fun id row => h.requests.commit_some r⟩
    · show (s.store.commit (.request r)).writes (.loop d) id = _
      rw [Store.commit_writes, if_neg fun heq => nomatch heq]
    · intro id hsome
      show ((s.store.commit (.request r)).committed id).isSome = true
      rw [Store.commit_committed, Option.isSome_or, hsome, Bool.or_true]
  | rollback r =>
    refine h.of_request (rollback_inv h.requests r) (fun d id => ?_) rfl rfl rfl rfl rfl
    show (s.store.rollback (.request r)).writes (.loop d) id = _
    rw [Store.rollback_writes, if_neg fun heq => nomatch heq]
  | execute d res =>
    exact h.of_loop (execute_inv h.loops hen.2) (fun _ _ => rfl) rfl rfl rfl rfl
      fun _ _ hold => executed_mono hen.2 hold
  | get d res =>
    exact h.of_loop (get_inv h.loops hen.1 hen.2 hafter) (fun _ _ => rfl) rfl rfl rfl rfl
      fun _ _ h => h
  | update d res t =>
    refine h.of_loop (update_inv h.loops hen t) (fun r id => ?_) ?_ rfl rfl rfl fun _ _ h => h
    · show (s.store.modify (.loop d) res.commandId (resultRow res t)).writes (.request r) id = _
      rw [Store.modify_writes, if_neg fun heq => nomatch heq.1]
    · exact Store.modify_committed ..
  | finish d res =>
    rcases hen with hmissed | hup
    -- a result that missed its row would be handled without a trace; after the commit none does
    · exact absurd hmissed (h.loops.not_missed d res)
    · exact finish_inv h hup
  | fail d =>
    refine h.of_loop (idle_inv h.loops rfl rfl rfl (fun _ h => h)
      fun d' id => Store.rollback_writes s.store _ _ id) (fun r id => ?_) rfl rfl rfl rfl
      fun _ _ h => h
    show (s.store.rollback (.loop d)).writes (.request r) id = _
    rw [Store.rollback_writes, if_neg fun heq => nomatch heq]

/-- **No result is lost** in a run in which every result is looked up after the commit of the
    transaction that dispatched its command.

    A result that comes before the INSERT of its command is committed finds no row and is dropped without a word.
    The invariant has three parts: what a request holds uncommitted (`RequestInv`), where a result is between the
    agent and its row (`LoopInv`), and the rows of the results that were handled (`HandledInv`). -/
theorem result_not_lost {ls : List Label} {s : Exchange}
    (hafter : Run.Guarded step AfterCommit init ls) (hrun : Run.exec step init ls = some s) :
    NoLostResult s :=
  fun id res _ hhandled _ _ => ((Run.exec_inv step_inv hafter hrun inv_init).handled id res hhandled).2

instance (s : Exchange) : ∀ l, Decidable (AfterCommit s l)
  | .get .. => inferInstanceAs (Decidable (_ = true))
  | .flush .. | .send .. | .settle .. | .undo .. | .commit .. | .rollback .. | .execute ..
  | .update .. | .finish .. | .fail .. => inferInstanceAs (Decidable True)

/-- A command and its result, for the two runs below. -/
def reboot : Command := .sample 20 1 .pending

/-- The result of a reboot. -/
def rebootDone : CommandResult := ⟨20, 0, "ok"⟩

/-- The agent is slower than the commit. -/
def slowAgent : List Label :=
  [.flush 0 reboot, .send 0 20 1 true, .settle 0 20 true true 5, .commit 0, .execute 1 rebootDone,
    .get 1 rebootDone, .update 1 rebootDone 9, .finish 1 rebootDone]

theorem result_not_lost_slow_agent :
    ∃ s, Run.exec step init slowAgent = some s ∧ s.handled 20 = some rebootDone ∧
      NoLostResult s := by
  have hafter : Run.Guarded step AfterCommit init slowAgent := by decide
  exact ⟨_, rfl, rfl, result_not_lost hafter rfl⟩

/-- The agent is faster than the commit. -/
def fastAgent : List Label :=
  [.flush 0 reboot, .send 0 20 1 true, .execute 1 rebootDone, .get 1 rebootDone,
    .finish 1 rebootDone, .settle 0 20 true true 5, .commit 0]

/-- The result was handled and both transactions have ended; the row still says `sent`. -/
theorem result_lost :
    ∃ s, Run.exec step init fastAgent = some s ∧ s.handled 20 = some rebootDone ∧
      s.request 0 = .ended ∧ (s.store.committed 20).map Command.status = some .sent ∧
      ¬ NoLostResult s := by
  refine ⟨_, rfl, rfl, rfl, rfl, fun h => ?_⟩
  obtain ⟨row, hrow, hcarries⟩ := h 20 rebootDone 0 rfl rfl rfl
  cases hrow
  exact absurd hcarries.status (by decide)

end Exchange

end Dtsys
