/-
  THE RUNS OF `dispatch_command` on a settled session: exactly when it goes through, and what it
  leaves in the database and on the wire in either case.

  `Admits` collects the checks and the flush; `dispatchCommand_run` is the only lemma the results
  about requests use.

  1. `live` — who can be reached: the device has a socket in the table of THIS process, and the socket
     is not dead (`sendToDevice_eq`).
  2. `checkDispatch_run` — the checks, in the order of the source; each of them raises an error of its
     own before anything is written.
  3. `dispatchCommand_run` — the run: the row is flushed as `pending`, the message is sent, and the row
     becomes `sent`, or stays `pending`, or `failed` where the caller asks for it.

  `Extends` is what requests with several dispatches keep: rows and messages are added, none is taken
  away (`afterDispatch_extends`).
-/
import Dtsys.Server.Commands

namespace Dtsys

namespace Server

variable {E : Env} {w : World}

/-! ## Who can be reached -/

/-- The socket a message to `d` would go to: registered, and not dead. -/
def live (w : World) (d : Uuid) : Option Socket :=
  match w.manager.connections d with
  | some ws => if w.dead ws then none else some ws
  | none => none

/-- What `send_to_device` puts on the wire. -/
def transmitted (w : World) (d : Uuid) (msg : ServerMessage) : List (Socket × ServerMessage) :=
  match live w d with
  | some ws => [(ws, msg)]
  | none => []

/-- The world after `send_to_device`: a dead socket has been dropped. -/
def afterSend (w : World) (d : Uuid) (msg : ServerMessage) : World :=
  { w with
    handed := w.handed ++ [(d, msg)]
    manager := if (live w d).isNone ∧ (w.manager.connections d).isSome then w.manager.pop d
      else w.manager
    wire := w.wire ++ transmitted w d msg }

/-- `send_to_device`: the message is on the wire if the manager has a socket for the device. -/
theorem sendToDevice_eq (d : Uuid) (msg : ServerMessage) (w : World) :
    sendToDevice d msg w = (.ok (live w d).isSome, afterSend w d msg) := by
  rw [sendToDevice, afterSend, transmitted, live]
  cases hc : w.manager.connections d with
  | none => simp
  | some ws =>
    cases hd : w.dead ws with
    | true => simp [hd]
    | false => simp [hd]

/-- A send changes for nobody whether they can be reached. -/
theorem live_afterSend (w : World) (d d' : Uuid) (msg : ServerMessage) :
    live (afterSend w d msg) d' = live w d' := by
  rw [afterSend]
  by_cases hdead : (live w d).isNone ∧ (w.manager.connections d).isSome
  · rw [if_pos hdead]
    unfold live
    by_cases hd : d' = d
    · subst hd
      have hnone : live w d' = none := by simpa using hdead.1
      rw [live] at hnone
      rw [hnone]
      simp
    · simp [Function.update_of_ne hd]
  · rw [if_neg hdead]
    rfl

/-! ## The checks -/

/-- What `dispatch_command` asks for before it transmits: the type is allowed, the device has fewer
    than 100 commands waiting, exists and is not revoked, and the payload can be stored. -/
structure Admits (E : Env) (w : World) (d : Uuid) (commandType : String)
    (payload : List (String × Json)) : Prop where
  type : allowedCommandTypes.contains commandType = true
  queue : (w.db.commands.filter (queued d)).length < 100
  device : (w.db.devices.filter fun r => r.id == d && !r.isRevoked).length = 1
  payload : E.driver.accepts (nullable .jsonb) (.obj (withTargetTime E commandType payload w.clock))
    = true

theorem ensure_true (e : PyErr) (w : World) : ensure true e w = (.ok (), w) := rfl

theorem ensure_false (e : PyErr) (w : World) : ensure false e w = (.error e, w) := rfl

/-- The first three conditions. -/
def Checked (w : World) (d : Uuid) (commandType : String) : Prop :=
  allowedCommandTypes.contains commandType = true ∧
    (w.db.commands.filter (queued d)).length < 100 ∧
    (w.db.devices.filter fun r => r.id == d && !r.isRevoked).length = 1

/-- The checks pass exactly on these, and change nothing. -/
theorem checkDispatch_run (h : w.Settled) (d : Uuid) (commandType : String) :
    (Checked w d commandType ∧ checkDispatch E d commandType w = (.ok (), w)) ∨
      (¬ Checked w d commandType ∧ ∃ e, checkDispatch E d commandType w = (.error e, w)) := by
  rw [checkDispatch]
  cases htype : allowedCommandTypes.contains commandType with
  | false =>
    refine .inr ⟨fun hall => ?_, _, Act.bind_of_error (ensure_false _ w)⟩
    rw [hall.1] at htype
    cases htype
  | true =>
    rw [Act.bind_of_ok (ensure_true _ w), Act.bind_of_ok (select_settled h _)]
    cases hq : decide ((w.db.commands.filter (queued d)).length < 100) with
    | false =>
      refine .inr ⟨fun hall => ?_, _, Act.bind_of_error (ensure_false _ w)⟩
      exact of_decide_eq_false hq hall.2.1
    | true =>
      rw [Act.bind_of_ok (ensure_true _ w), Act.bind_of_ok (select_settled h _)]
      generalize hrows : w.db.devices.filter (fun r => r.id == d && !r.isRevoked) = rows
      -- `scalar_one_or_none`: no row is a 404, several raise
      rcases rows with _ | ⟨r, _ | ⟨r', rest⟩⟩
      · refine .inr ⟨fun hall => ?_, _, rfl⟩
        have hone := hall.2.2
        rw [hrows] at hone
        cases hone
      · exact .inl ⟨⟨htype, of_decide_eq_true hq, by rw [hrows]; rfl⟩, rfl⟩
      · refine .inr ⟨fun hall => ?_, _, rfl⟩
        have hone := hall.2.2
        rw [hrows] at hone
        cases hone

/-! ## The run -/

/-- The row `dispatch_command` adds. -/
def newCommand (E : Env) (w : World) (d : Uuid) (commandType : String)
    (payload : List (String × Json)) (issuedBy : Option Uuid) : Command :=
  { id := E.uuid4 w.drawn, deviceId := d, issuedBy, commandType,
    payload := withTargetTime E commandType payload w.clock,
    status := .pending, createdAt := w.clock, completedAt := none, exitCode := .null,
    output := .null }

/-- The world after a dispatch that went through: the new row, settled by the outcome of the
    send. -/
def afterDispatch (w : World) (c : Command) (failIfOffline : Bool) : World :=
  { afterSend { w with drawn := w.drawn + 1 } c.deviceId (.command c.id c.commandType c.payload) with
    db := { w.db with
      commands := w.db.commands ++
        [settleDispatch (live w c.deviceId).isSome failIfOffline w.clock c] } }

/-- The row that has just been added is changed. -/
theorem setLastCommand_append (f : Command → Command) (db : Db) (c : Command) :
    setLastCommand f { db with commands := db.commands ++ [c] } =
      { db with commands := db.commands ++ [f c] } := by
  simp [setLastCommand]

/-- The send behind the flush of a command. -/
theorem transmitCommand_run (h : w.Settled) (c : Command) (failIfOffline : Bool) :
    (E.driver.acceptsRow (.command c) = true →
      transmitCommand E c failIfOffline { w with drawn := w.drawn + 1 } =
        (.ok (settleDispatch (live w c.deviceId).isSome failIfOffline w.clock c,
          (live w c.deviceId).isSome), afterDispatch w c failIfOffline)) ∧
    (E.driver.acceptsRow (.command c) = false →
      ∃ w', transmitCommand E c failIfOffline { w with drawn := w.drawn + 1 } = (.error .db, w') ∧
        w' = { w with drawn := w.drawn + 1, pending := [.command c] }) := by
  rw [transmitCommand]
  simp only [add, Act.modify_bind]
  constructor
  · intro hrow
    rw [Act.bind_of_ok (flush_add h hrow _), Act.bind_of_ok (sendToDevice_eq _ _ _)]
    simp only [now, Act.read_bind, Act.modify_bind, Act.pure_run]
    rw [show (afterSend _ _ _).db = { w.db with commands := w.db.commands ++ [c] } from rfl,
      setLastCommand_append]
    rfl
  · intro hrow
    exact ⟨_, Act.bind_of_error (flush_add_refused h hrow _), by simp [h.pending]⟩

/-- **The run of `dispatch_command`.**  It goes through exactly when `Admits` holds; if it does
    not, it has transmitted nothing. -/
theorem dispatchCommand_run (h : w.Settled) (d : Uuid) (commandType : String)
    (payload : List (String × Json)) (issuedBy : Option Uuid) (failIfOffline : Bool) :
    (Admits E w d commandType payload ∧
      dispatchCommand E d commandType payload issuedBy failIfOffline w =
        (.ok (settleDispatch (live w d).isSome failIfOffline w.clock
            (newCommand E w d commandType payload issuedBy), (live w d).isSome),
          afterDispatch w (newCommand E w d commandType payload issuedBy) failIfOffline)) ∨
    (¬ Admits E w d commandType payload ∧
      ∃ e w', dispatchCommand E d commandType payload issuedBy failIfOffline w = (.error e, w') ∧
        w'.wire = w.wire ∧ w'.committed = w.committed ∧ w'.db = w.db ∧ w'.device = w.device ∧
        w'.loaded = w.loaded ∧ w'.manager = w.manager ∧ w'.dead = w.dead) := by
  have hcols : E.driver.acceptsRow (.command (newCommand E w d commandType payload issuedBy)) =
      E.driver.accepts (nullable .jsonb)
        (.obj (withTargetTime E commandType payload w.clock)) := by
    simp [Driver.acceptsRow, Row.columns, newCommand]
  rw [dispatchCommand]
  rcases checkDispatch_run (E := E) h d commandType with ⟨hcheck, hrun⟩ | ⟨hnot, e, hrun⟩
  · rw [Act.bind_of_ok hrun, newId_bind]
    simp only [now, Act.read_bind]
    obtain ⟨hok, hrefused⟩ := transmitCommand_run (E := E) h
      (newCommand E w d commandType payload issuedBy) failIfOffline
    cases hacc : E.driver.accepts (nullable .jsonb)
        (.obj (withTargetTime E commandType payload w.clock)) with
    | true => exact .inl ⟨⟨hcheck.1, hcheck.2.1, hcheck.2.2, hacc⟩, hok (hcols.trans hacc)⟩
    | false =>
      obtain ⟨w', hw', rfl⟩ := hrefused (hcols.trans hacc)
      refine .inr ⟨fun hall => ?_, _, _, hw', rfl, rfl, rfl, rfl, rfl, rfl, rfl⟩
      rw [hall.payload] at hacc
      cases hacc
  · rw [Act.bind_of_error hrun]
    exact .inr ⟨fun hall => hnot ⟨hall.type, hall.queue, hall.device⟩, e, w, rfl, rfl, rfl, rfl,
      rfl, rfl, rfl, rfl⟩

theorem afterDispatch_settled (h : w.Settled) (c : Command) (failIfOffline : Bool) :
    (afterDispatch w c failIfOffline).Settled := ⟨h.pending, h.loaded⟩

theorem live_afterDispatch (w : World) (c : Command) (failIfOffline : Bool) (d : Uuid) :
    live (afterDispatch w c failIfOffline) d = live w d :=
  live_afterSend { w with drawn := w.drawn + 1 } c.deviceId d (.command c.id c.commandType c.payload)

/-- Commands have been added, and none has changed. -/
def Extends (w w' : World) : Prop := ∃ new, w'.db.commands = w.db.commands ++ new

theorem Extends.refl (w : World) : Extends w w := ⟨[], by simp⟩

theorem Extends.trans {w' w'' : World} (h : Extends w w') (h' : Extends w' w'') : Extends w w'' := by
  obtain ⟨new, hnew⟩ := h
  obtain ⟨new', hnew'⟩ := h'
  exact ⟨new ++ new', by rw [hnew', hnew, List.append_assoc]⟩

theorem afterDispatch_extends (w : World) (c : Command) (failIfOffline : Bool) :
    Extends w (afterDispatch w c failIfOffline) := ⟨_, rfl⟩

/-- A device that can be reached gets its command, and the row is `sent`. -/
theorem afterDispatch_live {ws : Socket} {c : Command} (h : live w c.deviceId = some ws)
    (failIfOffline : Bool) :
    (afterDispatch w c failIfOffline).wire =
        w.wire ++ [(ws, .command c.id c.commandType c.payload)] ∧
      (afterDispatch w c failIfOffline).db.commands =
        w.db.commands ++ [{ c with status := .sent }] := by
  have hlive : live { w with drawn := w.drawn + 1 } c.deviceId = some ws := h
  constructor
  · show w.wire ++ transmitted { w with drawn := w.drawn + 1 } c.deviceId _ = _
    rw [transmitted, hlive]
  · show w.db.commands ++ [settleDispatch (live w c.deviceId).isSome failIfOffline w.clock c] = _
    rw [h]
    rfl

end Server

end Dtsys
