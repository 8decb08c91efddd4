/-
  DEVICE ISOLATION of the websocket layer: what `MessageHandler.handle` leaves alone.

  `Db.elsewhere d` is the database without the rows of device `d`.  It is an observation that a
  handler scoped by `d` does not disturb (`scoped_elsewhere`), so by `handle_spec` the only thing a
  message can do elsewhere is the UPDATE of `_handle_command_output` or `_handle_command_result`,
  which choose their row by the id in the message ALONE.  They leave the device exactly when that id
  names a command of another device and the UPDATE changes it (`handle_isolated_iff`).

  1. `elsewhere_insert_own`, `elsewhere_insert_other` — a row of the device is not seen elsewhere, any
     other row is.
  2. `scoped_elsewhere` — so every statement with `device_id` in its WHERE leaves it alone.
  3. `elsewhere_updateCommand_iff` — the UPDATE of a command, whose WHERE has the id only.
  4. `handle_isolated_iff` — the handlers, by `Dtsys.Server.Scope`: a message is isolated exactly if it
     is not one of the two, or its id is not that of another device's command, or the values it writes
     are there already.
-/
import Dtsys.Server.Scope

namespace Dtsys

/-! ## The rest of the database -/

/-- The rows that are not `d`'s.  Push tokens belong to users, not to devices. -/
def Db.elsewhere (d : Uuid) (db : Db) : Db :=
  { db with
    devices := db.devices.filter fun r => r.id != d
    commands := db.commands.filter fun r => r.deviceId != d
    alerts := db.alerts.filter fun r => r.deviceId != d
    metrics := db.metrics.filter fun r => r.deviceId != d
    software := db.software.filter fun r => r.deviceId != d
    network := db.network.filter fun r => r.deviceId != d
    sshKeys := db.sshKeys.filter fun r => r.deviceId != d
    events := db.events.filter fun r => r.deviceId != d
    uptimeEvents := db.uptimeEvents.filter fun r => r.deviceId != d
    pushTokens := [] }

namespace Db

/-- A row of the device is not elsewhere. -/
theorem elsewhere_insert_own {d : Uuid} (db : Db) {r : Row} (h : r.deviceId = some d) :
    (db.insert r).elsewhere d = db.elsewhere d := by
  cases r <;> simp_all [Row.deviceId, Db.insert, elsewhere]

theorem elsewhere_insert_other {d : Uuid} (db : Db) {r : Row} (h : r.deviceId ≠ some d) :
    (db.insert r).elsewhere d = (db.elsewhere d).insert r := by
  cases r <;> simp_all [Row.deviceId, Db.insert, elsewhere]

end Db

/-- A map that keeps `p` leaves the `p`-part of a list alone iff it fixes every member of it. -/
theorem filter_map_eq_filter_iff {α : Type} {p : α → Bool} {f : α → α} (hp : ∀ a, p (f a) = p a) :
    ∀ l : List α, (l.map f).filter p = l.filter p ↔ ∀ a ∈ l, p a = true → f a = a := by
  intro l
  induction l with
  | nil => simp
  | cons a l ih =>
    rw [List.map_cons]
    by_cases ha : p a = true
    · rw [List.filter_cons_of_pos (by rw [hp, ha]), List.filter_cons_of_pos ha]
      simp only [List.cons.injEq, ih, List.mem_cons, forall_eq_or_imp, ha, true_imp_iff]
    · rw [List.filter_cons_of_neg (by rw [hp]; exact ha), List.filter_cons_of_neg ha, ih]
      constructor
      · intro h b hb hpb
        rcases List.mem_cons.mp hb with rfl | hb
        · exact absurd hpb ha
        · exact h b hb hpb
      · intro h b hb
        exact h b (List.mem_cons_of_mem a hb)

/-- Resolving a device's alerts touches its own alerts only. -/
theorem elsewhere_resolveAlerts (d : Uuid) (ty : AlertType) (t : Nat) (db : Db) :
    (Server.resolveAlerts d ty t db).elsewhere d = db.elsewhere d := by
  have h := (filter_map_eq_filter_iff (p := fun a : Alert => a.deviceId != d)
    (f := fun a => if Server.unresolved d ty a then
      { a with isResolved := true, resolvedAt := some t } else a)
    (fun a => by split <;> rfl) db.alerts).mpr ?_
  · simp only [Server.resolveAlerts, Db.elsewhere, h]
  · intro a _ ha
    have hne : a.deviceId ≠ d := by simpa using ha
    have hun : Server.unresolved d ty a = false := by simp [Server.unresolved, hne]
    rw [hun]
    rfl

/-- A handler scoped by `d` does not show elsewhere. -/
theorem scoped_elsewhere (d : Uuid) : Scoped d (Db.elsewhere d) where
  congr {a b} r hab := by
    by_cases h : r.deviceId = some d
    · rw [Db.elsewhere_insert_own a h, Db.elsewhere_insert_own b h, hab]
    · rw [Db.elsewhere_insert_other a h, Db.elsewhere_insert_other b h, hab]
  insert db r hr _ := Db.elsewhere_insert_own db hr
  device db f hid hother := by
    have h := (filter_map_eq_filter_iff (p := fun r : Device => r.id != d)
      (fun a => by simp [hid]) db.devices).mpr (fun a _ ha => hother a (by simpa using ha))
    simp only [Db.elsewhere, h]
  alerts db ty t := elsewhere_resolveAlerts d ty t db
  software db := by simp [Server.deleteSoftware, Db.elsewhere]
  network db := by simp [Server.deleteNetwork, Db.elsewhere]
  sshKeys db := by simp [Server.deleteSshKeys, Db.elsewhere]
  pushTokens db ts := rfl

/-! ## The UPDATE of a command -/

namespace Server

variable {E : Env}

/-- An UPDATE of a command stays with the device iff it changes no row of another device. -/
theorem elsewhere_updateCommand_iff {d id : Uuid} {f : Command → Command}
    (hf : ∀ c, (f c).deviceId = c.deviceId) (db : Db) :
    (updateCommand id f db).elsewhere d = db.elsewhere d ↔
      ∀ c ∈ db.commands, c.id = id → c.deviceId ≠ d → f c = c := by
  have hkeep : ∀ c : Command, ((if c.id = id then f c else c).deviceId != d) = (c.deviceId != d) := by
    intro c
    split
    · rw [hf]
    · rfl
  have hiff := filter_map_eq_filter_iff (p := fun c : Command => c.deviceId != d) hkeep db.commands
  constructor
  · intro h c hc hid hne
    have hcmd := congrArg Db.commands h
    have hfix := hiff.mp hcmd c hc (by simpa using hne)
    rwa [if_pos hid] at hfix
  · intro h
    have hcmd := hiff.mpr fun c hc hne => by
      by_cases hid : c.id = id
      · rw [if_pos hid]
        exact h c hc hid (by simpa using hne)
      · rw [if_neg hid]
    simp only [updateCommand, Db.elsewhere, hcmd]

/-- The UPDATE a message asks for, if any, changes no command of another device. -/
def OwnWrite (E : Env) (w : World) (message : Json) : Prop :=
  ∀ id f, commandWrite E w.clock message = some (id, f) →
    ∀ c ∈ w.committed.commands, c.id = id → c.deviceId ≠ w.device.id → f c = c

/-- **Isolation.**  `handle` leaves the rows of every other device alone exactly when the message's
    UPDATE, if it asks for one, changes no command of another device.

    Nine of the eleven handlers go by `device.id` in every statement and are scoped as they stand.  The UPDATEs of
    `_handle_command_output` and `_handle_command_result` go by the id in the message, and `OwnWrite` is about that
    id and the values written. -/
theorem handle_isolated_iff {w : World} (h : w.Clean) (message : Json) :
    (handle E message w).2.view.elsewhere w.device.id = w.committed.elsewhere w.device.id ↔
      OwnWrite E w message := by
  rw [(handle_spec (scoped_elsewhere w.device.id) h.toSettled message).1, h.db]
  rw [OwnWrite]
  cases hwr : commandWrite E w.clock message with
  | none => simp [applyWrite]
  | some write =>
    obtain ⟨id, f⟩ := write
    have hf : ∀ c, (f c).deviceId = c.deviceId := fun c => (commandWrite_keeps hwr c).2
    rw [applyWrite, elsewhere_updateCommand_iff hf]
    constructor
    · intro hall id' f' hw
      obtain ⟨rfl, rfl⟩ : id = id' ∧ f = f' := by simpa using hw
      exact hall
    · intro hown
      exact hown id f rfl

/-- Two devices with one command each; the session is the first one's. -/
def twoDevices : World :=
  .start { Db.empty with
    devices := [.sample 1, .sample 2]
    commands := [.sample 10 1 .sent, .sample 20 2 .sent] } (.sample 1)

/-- `command_output` for the command with the given id. -/
def outputMessage (commandId : String) : Json :=
  clientMessage "command_output"
    (.obj [("command_id", .str commandId), ("output", .str "done")])

/-- Output for the device's own command. -/
theorem handle_isolated_own_command :
    twoDevices.Clean ∧
      (handle Env.sample (outputMessage "00000000-0000-0000-0000-00000000000a") twoDevices).2.view.elsewhere 1
        = twoDevices.committed.elsewhere 1 := by
  have hclean : twoDevices.Clean := World.start_clean _ _
  refine ⟨hclean, (handle_isolated_iff hclean _).mpr ?_⟩
  intro id f hw c hc hid hne
  have hten : commandWrite Env.sample 0 (outputMessage "00000000-0000-0000-0000-00000000000a") =
    some (10, outputValues (.str "done")) := rfl
  obtain ⟨rfl, rfl⟩ : (10 : Uuid) = id ∧ outputValues (.str "done") = f := by
    simpa [hten] using hten.symm.trans hw
  rcases List.mem_cons.mp hc with rfl | hc
  · exact absurd rfl hne
  · obtain rfl : c = .sample 20 2 .sent := by simpa using hc
    exact absurd hid (by decide)

/-- Output for ANOTHER device's command: that row is set to `running`. -/
theorem handle_writes_foreign_command :
    (handle Env.sample (outputMessage "00000000-0000-0000-0000-000000000014") twoDevices).2.view.elsewhere 1
      ≠ twoDevices.committed.elsewhere 1 := by
  intro h
  have hstatus := congrArg (fun db : Db => db.commands.map Command.status) h
  exact absurd hstatus (by decide)

end Server

end Dtsys
