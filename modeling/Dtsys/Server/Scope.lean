/-
  SCOPED HANDLERS: nine of the eleven handlers of `MessageHandler` scope every statement by the
  authenticated device.

  What that buys is stated once for EVERY observation of the database.  `Scoped d obs` says that an
  observation `obs : Db → β` does not see the kinds of writes such a handler makes: a new row of
  `d` that is not a command, changed attributes of `d`'s device row, `d`'s alerts resolved, `d`'s
  inventories deleted, push tokens.  Then `obs` of what the session would write is the same before
  and after the handler, whether it returns or raises (`keeps_handled`, a frame of
  `Dtsys.Server.Footprint`).

  Instances: the rows of the other devices (`Dtsys.Server.Isolation`), the command table
  (`Dtsys.Server.Lifecycle`).
-/
import Dtsys.Server.Footprint

namespace Dtsys

/-- The row is one of the commands. -/
def Row.isCommand : Row → Bool
  | .command _ => true
  | _ => false

/-! ## Observations a scoped handler does not disturb -/

/-- `obs` does not see the writes of a handler that scopes them by `d`. -/
structure Scoped (d : Uuid) {β : Type} (obs : Db → β) : Prop where
  /-- Later rows do not tell apart what `obs` does not tell apart. -/
  congr : ∀ {a b : Db} (r : Row), obs a = obs b → obs (a.insert r) = obs (b.insert r)
  insert : ∀ (db : Db) (r : Row), r.deviceId = some d → r.isCommand = false →
    obs (db.insert r) = obs db
  device : ∀ (db : Db) (f : Device → Device), (∀ r, (f r).id = r.id) →
    (∀ r, r.id ≠ d → f r = r) → obs { db with devices := db.devices.map f } = obs db
  alerts : ∀ (db : Db) (ty : AlertType) (t : Nat), obs (Server.resolveAlerts d ty t db) = obs db
  software : ∀ db : Db, obs (Server.deleteSoftware d db) = obs db
  network : ∀ db : Db, obs (Server.deleteNetwork d db) = obs db
  sshKeys : ∀ db : Db, obs (Server.deleteSshKeys d db) = obs db
  pushTokens : ∀ (db : Db) (ts : List PushToken), obs { db with pushTokens := ts } = obs db

/-- Seeing nothing is one. -/
theorem scoped_unit (d : Uuid) : Scoped d fun _ => () :=
  ⟨fun _ _ => rfl, fun _ _ _ _ => rfl, fun _ _ _ _ => rfl, fun _ _ _ => rfl, fun _ => rfl,
    fun _ => rfl, fun _ => rfl, fun _ _ => rfl⟩

/-- The frame: a session of device `d` leaves the observation of what it would write alone, and
    commits nothing. -/
def keeps (d : Uuid) {β : Type} (obs : Db → β) : Act.Frame World where
  rel w w' := w.device.id = d →
    w'.device.id = d ∧ w'.committed = w.committed ∧ obs w'.view = obs w.view
  refl _ := fun h => ⟨h, rfl, rfl⟩
  trans hst htu := fun h =>
    have h1 := hst h
    have h2 := htu h1.1
    ⟨h2.1, h2.2.1.trans h1.2.1, h2.2.2.trans h1.2.2⟩

namespace Server

open Act

variable {E : Env} {d : Uuid} {β : Type} {obs : Db → β} (hobs : Scoped d obs)

include hobs

/-! ## The handlers inside the frame -/

omit hobs in
theorem isCommand_of_isReport {r : Row} (h : r.isReport = true) : r.isCommand = false := by
  cases r <;> first | rfl | cases h

/-- What the instance has changed does not show. -/
theorem scoped_sync (db : Db) {x : Device} (y : Device) (hx : x.id = d) :
    obs { db with devices := db.devices.map (World.syncDevice x y) } = obs db :=
  hobs.device db _ (World.syncDevice_id x y) fun _ hr =>
    World.syncDevice_other (by rw [hx]; exact hr)

theorem scoped_respected : Respected d fun a b => obs b = obs a where
  refl _ := rfl
  trans hab hbc := hbc.trans hab
  congr x hab := hobs.congr x hab
  report a x hd hx := hobs.insert a x hd (isCommand_of_isReport hx)
  sync a x y x' hx hx' := (scoped_sync hobs a y hx').trans (scoped_sync hobs a y hx).symm
  statement hf a := by
    cases hf with
    | resolve ty t => exact hobs.alerts a ty t
    | software => exact hobs.software a
    | network => exact hobs.network a
    | sshKeys => exact hobs.sshKeys a
    | pushTokens g => exact hobs.pushTokens a _

/-- **The handlers that scope by the device** stay inside its frame. -/
theorem keeps_handled : Handled E d (keeps d obs) :=
  onView_handled (lasting_id d) (scoped_respected hobs) fun a x hx =>
    hobs.insert a (.alert x) (congrArg some hx) rfl

omit hobs

/-! ## The two command handlers

  `_handle_command_output` and `_handle_command_result` choose their row by the id in the message.
  `outputWrite` and `resultWrite` read off the message which command they address and what they do
  to it, `none` if they write nothing. -/

/-- The UPDATE of a `command_output` payload. -/
def outputWrite (E : Env) (data : Json) : Option (Uuid × (Command → Command)) :=
  match data.get "command_id", data.getD "output" (.str "") with
  | .ok cmdId, .ok output =>
    match cmdId.toUuid with
    | .ok id =>
      if E.driver.accepts (nullable .text) output then some (id, outputValues output) else none
    | .error _ => none
  | _, _ => none

/-- The UPDATE of a `command_result` payload handled at time `t`. -/
def resultWrite (E : Env) (t : Nat) (data : Json) : Option (Uuid × (Command → Command)) :=
  match data.get "command_id", data.getD "exit_code" (.int 1), data.getD "output" (.str "") with
  | .ok cmdId, .ok exitCode, .ok output =>
    match cmdId.toUuid with
    | .ok id =>
      if E.driver.accepts (nullable .integer) exitCode ∧ E.driver.accepts (nullable .text) output
      then some (id, resultValues exitCode output t) else none
    | .error _ => none
  | _, _, _ => none

theorem outputWrite_values {data : Json} {id : Uuid} {f : Command → Command}
    (h : outputWrite E data = some (id, f)) : ∃ output, f = outputValues output := by
  rw [outputWrite] at h
  repeat' split at h
  all_goals cases h
  exact ⟨_, rfl⟩

theorem resultWrite_values {t : Nat} {data : Json} {id : Uuid} {f : Command → Command}
    (h : resultWrite E t data = some (id, f)) :
    ∃ exitCode output, f = resultValues exitCode output t := by
  rw [resultWrite] at h
  repeat' split at h
  all_goals cases h
  exact ⟨_, _, rfl⟩

/-- Run an UPDATE, if there is one. -/
def applyWrite (db : Db) : Option (Uuid × (Command → Command)) → Db
  | some (id, f) => updateCommand id f db
  | none => db

/-- An UPDATE of a command that is not there. -/
theorem updateCommand_absent {id : Uuid} {f : Command → Command} {db : Db}
    (h : db.commands.find? (fun c => c.id == id) = none) : updateCommand id f db = db := by
  have hmap : db.commands.map (fun c => if c.id = id then f c else c) = db.commands := by
    rw [List.find?_eq_none] at h
    refine (List.map_congr_left fun c hc => if_neg ?_).trans (List.map_id _)
    simpa using h c hc
  rw [updateCommand, hmap]

/-- `uuid.UUID` takes no falsy value, so the guard `if cmd_id:` never hides an UPDATE. -/
theorem toUuid_falsy {v : Json} {id : Uuid} (h : v.truthy = false) : v.toUuid ≠ .ok id := by
  cases v with
  | str s =>
    obtain rfl : s = "" := by simpa [Json.truthy] using h
    rw [show Json.toUuid (.str "") = .error .valueError from rfl]
    exact fun hc => by cases hc
  | _ => exact fun hc => by cases hc

/-- What `_handle_command_output` does to a settled session: its UPDATE, and nothing if it
    raises. -/
theorem handleCommandOutput_settled {w : World} (h : w.Settled) (data : Json) :
    (handleCommandOutput E data w).2 = { w with db := applyWrite w.db (outputWrite E data) } ∧
      (∀ e, (handleCommandOutput E data w).1 = .error e → (handleCommandOutput E data w).2 = w) := by
  rw [handleCommandOutput, outputWrite]
  cases data with
  | obj fields =>
    simp only [Json.get, Json.getD, Act.ofExcept_ok_bind]
    generalize (fields.lookup "command_id").getD .null = cmdId
    generalize (fields.lookup "output").getD (.str "") = output
    by_cases ht : cmdId.truthy = true
    · rw [if_pos ht]
      cases hid : cmdId.toUuid with
      | error e => simp [applyWrite]
      | ok id =>
        simp only [Act.ofExcept_ok_bind, executeWith_settled h, List.all_cons, List.all_nil,
          Bool.and_true]
        split
        · simp [applyWrite]
        · simp [applyWrite]
    · rw [if_neg ht]
      cases hid : cmdId.toUuid with
      | error e => simp [applyWrite]
      | ok id => exact absurd hid (toUuid_falsy (by simpa using ht))
  | _ => simp [Json.get, applyWrite]

/-- What `_handle_command_result` does after its UPDATE: a successful `sync_time` resolves the
    session's own drift alerts. -/
inductive AfterResult (d : Uuid) : (Db → Db) → Prop where
  | nothing : AfterResult d id
  | resolve (t : Nat) : AfterResult d (resolveAlerts d .timeDrift t)

/-- An UPDATE with two values from outside is refused as soon as one of them is. -/
theorem executeWith_pair {w : World} (h : w.Settled) (c c' : Column) (v v' : Json) (f : Db → Db) :
    executeWith E [(c, v), (c', v')] f w =
      if E.driver.accepts c v = true ∧ E.driver.accepts c' v' = true
      then (.ok (), { w with db := f w.db }) else (.error .db, w) := by
  rw [executeWith_settled h]
  simp

/-- What `_handle_command_result` does to a settled session: its UPDATE, then perhaps alerts, and
    nothing if it raises. -/
theorem handleCommandResult_settled {w : World} (h : w.Settled) (data : Json) :
    (∃ g, AfterResult w.device.id g ∧
      (handleCommandResult E data w).2 =
        { w with db := g (applyWrite w.db (resultWrite E w.clock data)) }) ∧
      (∀ e, (handleCommandResult E data w).1 = .error e → (handleCommandResult E data w).2 = w) := by
  rw [handleCommandResult, resultWrite]
  cases data with
  | obj fields =>
    simp only [Json.get, Json.getD, Act.ofExcept_ok_bind, Act.read_bind]
    generalize (fields.lookup "command_id").getD .null = cmdId
    generalize (fields.lookup "exit_code").getD (.int 1) = exitCode
    generalize (fields.lookup "output").getD (.str "") = output
    cases hid : cmdId.toUuid with
    | error e =>
      split
      · exact ⟨⟨id, .nothing, rfl⟩, fun _ _ => rfl⟩
      · exact ⟨⟨id, .nothing, rfl⟩, fun _ _ => rfl⟩
    | ok cid =>
      have ht : cmdId.truthy = true := by
        by_contra hf
        exact toUuid_falsy (by simpa using hf) hid
      rw [if_pos ht, Act.ofExcept_ok_bind, Act.bind_of_ok (select_settled h _)]
      cases hfind : w.db.commands.find? (fun c => c.id == cid) with
      | none =>
        -- no row: nothing is written, and the UPDATE would have matched nothing
        refine ⟨⟨id, .nothing, ?_⟩, fun _ _ => rfl⟩
        dsimp only
        split
        · simp [applyWrite, updateCommand_absent hfind]
        · simp [applyWrite]
      | some command =>
        have hc : command.id = cid := by simpa using List.find?_some hfind
        have hw : ({ w with db := updateCommand cid (resultValues exitCode output w.clock) w.db } :
            World).Settled := ⟨h.pending, h.loaded⟩
        dsimp only
        simp only [Act.ofExcept_ok_bind, now, Act.read_bind, hc]
        have hrun := executeWith_pair (E := E) h (nullable .integer) (nullable .text) exitCode output
          (updateCommand cid (resultValues exitCode output w.clock))
        by_cases hacc : E.driver.accepts (nullable .integer) exitCode = true ∧
            E.driver.accepts (nullable .text) output = true
        · rw [if_pos hacc] at hrun
          rw [if_pos hacc, Act.bind_of_ok hrun]
          split
          · rw [execute_settled hw]
            exact ⟨⟨_, .resolve w.clock, rfl⟩, fun _ he => by cases he⟩
          · exact ⟨⟨id, .nothing, rfl⟩, fun _ he => by cases he⟩
        · rw [if_neg hacc] at hrun
          rw [if_neg hacc, Act.bind_of_error hrun]
          exact ⟨⟨id, .nothing, rfl⟩, fun _ _ => rfl⟩
  | _ => exact ⟨⟨id, .nothing, rfl⟩, fun _ _ => rfl⟩

/-! ## `handle` as a whole -/

/-- The handler a message reaches and the payload it gets there. -/
def dispatched (message : Json) : Option (ClientMessageType × Json) :=
  match message.get "type", message.getD "data" (.obj []) with
  | .ok msgType, .ok data => (ClientMessageType.ofJson msgType).map fun ty => (ty, data)
  | _, _ => none

/-- A message that is dispatched goes to its handler. -/
theorem handle_dispatched {message : Json} {ty : ClientMessageType} {data : Json}
    (h : dispatched message = some (ty, data)) : handle E message = handlerFor E ty data := by
  funext w
  rw [dispatched] at h
  cases message with
  | obj fields =>
    simp only [Json.get, Json.getD, Option.map_eq_some_iff, Prod.mk.injEq] at h
    obtain ⟨ty', hty, rfl, rfl⟩ := h
    simp only [handle, Json.get, Json.getD, Act.ofExcept_ok_bind, hty]
  | _ => cases h

/-- A message that reaches no handler does nothing, whether it raises or not. -/
theorem handle_undispatched {message : Json} (h : dispatched message = none) (w : World) :
    (handle E message w).2 = w := by
  rw [dispatched] at h
  cases message with
  | obj fields =>
    simp only [Json.get, Json.getD, Option.map_eq_none_iff] at h
    simp only [handle, Json.get, Json.getD, Act.ofExcept_ok_bind, h]
    rfl
  | _ => rfl

/-- The UPDATE of the command table a message asks for, whoever sends it. -/
def commandWrite (E : Env) (t : Nat) (message : Json) : Option (Uuid × (Command → Command)) :=
  match dispatched message with
  | some (.commandOutput, data) => outputWrite E data
  | some (.commandResult, data) => resultWrite E t data
  | _ => none

/-- The UPDATEs are those of the two handlers. -/
theorem commandWrite_cases {t : Nat} {message : Json} {id : Uuid} {f : Command → Command}
    (h : commandWrite E t message = some (id, f)) :
    (∃ output, f = outputValues output) ∨ ∃ exitCode output, f = resultValues exitCode output t := by
  rw [commandWrite] at h
  split at h
  · exact .inl (outputWrite_values h)
  · exact .inr (resultWrite_values h)
  · cases h

/-- An UPDATE that ends in a terminal status is that of a result, with its output. -/
theorem commandWrite_result {t : Nat} {message : Json} {id : Uuid} {f : Command → Command}
    (h : commandWrite E t message = some (id, f)) {c : Command} (hst : (f c).status ≠ .running) :
    ∃ data, dispatched message = some (.commandResult, data) ∧
      data.getD "output" (.str "") = .ok (f c).output := by
  rw [commandWrite] at h
  split at h
  · obtain ⟨output, rfl⟩ := outputWrite_values h
    exact absurd rfl hst
  · rename_i data hd
    refine ⟨data, hd, ?_⟩
    rw [resultWrite] at h
    repeat' split at h
    all_goals cases h
    assumption
  · cases h

/-- An UPDATE moves no row to another device and no row to another id. -/
theorem commandWrite_keeps {t : Nat} {message : Json} {id : Uuid} {f : Command → Command}
    (h : commandWrite E t message = some (id, f)) (c : Command) :
    (f c).id = c.id ∧ (f c).deviceId = c.deviceId := by
  rcases commandWrite_cases h with ⟨output, rfl⟩ | ⟨exitCode, output, rfl⟩
  · exact ⟨rfl, rfl⟩
  · exact ⟨rfl, rfl⟩

/-- **What `handle` does, observed.**  On a settled session, an observation that a scoped handler
    does not disturb sees the UPDATE the message asks for and nothing else; nothing is committed. -/
theorem handle_spec {w : World} (hobs : Scoped w.device.id obs) (h : w.Settled) (message : Json) :
    obs (handle E message w).2.view = obs (applyWrite w.db (commandWrite E w.clock message)) ∧
      (handle E message w).2.committed = w.committed := by
  have hsettled : ∀ db : Db, ({ w with db := db } : World).view = db := fun db =>
    World.Settled.view_eq (w := { w with db := db }) ⟨h.pending, h.loaded⟩
  cases hd : dispatched message with
  | none =>
    rw [handle_undispatched hd, commandWrite, hd, h.view_eq]
    exact ⟨rfl, rfl⟩
  | some p =>
    obtain ⟨ty, data⟩ := p
    rw [handle_dispatched hd]
    by_cases hout : ty = .commandOutput
    · subst hout
      rw [show handlerFor E .commandOutput data = handleCommandOutput E data from rfl,
        (handleCommandOutput_settled h data).1, hsettled, commandWrite, hd]
      exact ⟨rfl, rfl⟩
    · by_cases hres : ty = .commandResult
      · subst hres
        obtain ⟨⟨g, hg, hrun⟩, -⟩ := handleCommandResult_settled (E := E) h data
        rw [show handlerFor E .commandResult data = handleCommandResult E data from rfl, hrun,
          hsettled, commandWrite, hd]
        refine ⟨?_, rfl⟩
        cases hg with
        | nothing => rfl
        | resolve t => exact hobs.alerts _ _ t
      · obtain ⟨-, hcom, hview⟩ := (keeps_handled (E := E) hobs).handlerFor hout hres data w rfl
        have hnone : commandWrite E w.clock message = none := by
          rw [commandWrite, hd]
          cases ty <;> first | rfl | contradiction
        rw [hnone, hview, h.view_eq]
        exact ⟨rfl, hcom⟩

end Server

end Dtsys
