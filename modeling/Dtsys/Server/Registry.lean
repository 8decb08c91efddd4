/-
  ENROLLING AND REVOKING: `DeviceService.register_device`, `get_device` and `revoke_device`
  (`app/services/device_service.py`).

  A revoked device keeps its row, and its fingerprint.  `register_device` looks its fingerprint up
  among ALL rows, with `scalar_one_or_none`:

      rows with the fingerprint   non-revoked   register_device
      none                        0             succeeds
      one                         0             succeeds: a second row
      one                         1             ConflictError
      two or more                 0 or 1        MultipleResultsFound

  So a host can be enrolled, revoked and enrolled again ONCE; then its fingerprint is unusable, even
  when it is revoked.  What survives is that no fingerprint has two non-revoked rows.
-/
import Dtsys.Server.Session

namespace Dtsys

namespace Server

variable (E : Env)

/-! ## `DeviceService` -/

/-- The arguments of `register_device`. -/
structure Registration where
  hostname : String
  osType : String
  osVersion : Option String
  arch : Option String
  fingerprint : String
  ipAddress : Option String
  orgId : Option Uuid

/-- The columns a registration fills with values from outside (`app/models/device.py`). -/
def Registration.columns (r : Registration) : List (Column × Json) :=
  [(required (.string 255), .str r.hostname), (required (.string 50), .str r.osType),
   (nullable (.string 255), (r.osVersion.map Json.str).getD .null),
   (nullable (.string 50), (r.arch.map Json.str).getD .null),
   (nullable (.string 45), (r.ipAddress.map Json.str).getD .null),
   (nullable (.string 64), .str r.fingerprint)]

/-- The values of the registration are within their columns. -/
def Registration.fits (r : Registration) : Bool :=
  r.columns.all fun cv => E.driver.accepts cv.1 cv.2

/-- The new row; the columns not mentioned have their defaults. -/
def Registration.device (r : Registration) (id : Uuid) (key : String) : Device where
  id := id
  hostname := r.hostname
  osType := r.osType
  osVersion := r.osVersion
  arch := r.arch
  fingerprint := some r.fingerprint
  ipAddress := r.ipAddress
  apiKeyHash := E.hashApiKey key
  lastSeen := none
  status := .offline
  isRevoked := false
  label := none
  maintenanceMode := false
  agentVersion := none
  orgId := r.orgId

/-- `generate_api_key()`. -/
def newKey : Server String := fun w =>
  (.ok (E.generateApiKey w.drawn), { w with drawn := w.drawn + 1 })

/-- `db.add(device)` and `db.flush()`. -/
def addDevice (r : Registration) (d : Device) : Server Unit :=
  executeWith E r.columns fun db => { db with devices := db.devices ++ [d] }

/-- The rows with a fingerprint, revoked or not. -/
def withFingerprint (f : String) (rows : List Device) : List Device :=
  rows.filter fun d => d.fingerprint == some f

/-- `register_device`: the device and its raw key. -/
def registerDevice (r : Registration) : Server (Device × String) := do
  let rows ← select E fun db => withFingerprint r.fingerprint db.devices
  let existing ← scalarOneOrNone rows
  match existing.filter fun d => !d.isRevoked with
  | some d =>
    Act.raise (conflictError
      ("Device with fingerprint already registered (id=" ++ d.id.str ++ ")"))
  | none => do
    let key ← newKey E
    let id ← newId E
    let d := r.device E id key
    addDevice E r d
    pure (d, key)

/-- `get_device`: with an organization only among its devices. -/
def getDevice (d : Uuid) (org : Option Uuid) : Server Device := do
  let rows ← select E fun db =>
    db.devices.filter fun r => r.id == d && org.all fun o => r.orgId == some o
  let device ← scalarOneOrNone rows
  match device with
  | some r => pure r
  | none => Act.raise (notFoundError ("Device " ++ d.str ++ " not found"))

/-- `is_revoked = True`, `status = "offline"`, on the row with the id. -/
def revoke (d : Uuid) (row : Device) : Device :=
  if row.id = d then { row with isRevoked := true, status := .offline } else row

/-- The UPDATE that revokes a device. -/
def revokeIn (d : Uuid) (db : Db) : Db := { db with devices := db.devices.map (revoke d) }

/-- `revoke_device`; the instance was read by this transaction, so what it writes is the row. -/
def revokeDevice (d : Uuid) (org : Option Uuid) : Server Unit := do
  let device ← getDevice E d org
  execute E (revokeIn device.id)

namespace Registry

/-! ## How a registration ends -/

/-- A device that is not revoked, with the fingerprint. -/
def active (f : String) (d : Device) : Bool := d.fingerprint == some f && !d.isRevoked

/-- The state after the row has been inserted. -/
def inserted (r : Registration) (w : World) : World :=
  { w with
    drawn := w.drawn + 2
    db := { w.db with devices :=
      w.db.devices ++ [r.device E (E.uuid4 (w.drawn + 1)) (E.generateApiKey w.drawn)] } }

/-- The outcomes of `register_device`, by the rows it finds. -/
inductive Registered (r : Registration) (w : World) : Except PyErr (Device × String) × World → Prop
  | conflict {d : Device} (hrows : withFingerprint r.fingerprint w.db.devices = [d])
      (hlive : d.isRevoked = false) (detail : String) :
      Registered r w (.error (conflictError detail), w)
  | several {d d' : Device} {rest : List Device}
      (hrows : withFingerprint r.fingerprint w.db.devices = d :: d' :: rest) :
      Registered r w (.error .multipleResultsFound, w)
  | inserted (hlen : (withFingerprint r.fingerprint w.db.devices).length ≤ 1)
      (hnone : ∀ d ∈ w.db.devices, active r.fingerprint d = false) (a : Device × String) :
      Registered r w (.ok a, inserted E r w)
  | refused (hlen : (withFingerprint r.fingerprint w.db.devices).length ≤ 1)
      (hnone : ∀ d ∈ w.db.devices, active r.fingerprint d = false) (hfits : r.fits E = false) :
      Registered r w (.error .db, { w with drawn := w.drawn + 2 })

section

variable {E} {w : World} {r : Registration}

/-- The active devices are the ones a lookup finds that are not revoked. -/
theorem active_iff {f : String} {d : Device} {rows : List Device} (hd : d ∈ rows) :
    active f d = true ↔ d ∈ withFingerprint f rows ∧ d.isRevoked = false := by
  rw [active, withFingerprint]
  simp [hd]

/-- What is inserted when no active row stands in the way. -/
theorem insert_run (hw : w.Settled) (hlen : (withFingerprint r.fingerprint w.db.devices).length ≤ 1)
    (hnone : ∀ d ∈ w.db.devices, active r.fingerprint d = false) :
    Registered E r w ((do
      let key ← newKey E
      let id ← newId E
      let d := r.device E id key
      addDevice E r d
      pure (d, key) : Server (Device × String)) w) := by
  let w' : World := { w with drawn := w.drawn + 2 }
  have hw' : w'.Settled := ⟨hw.pending, hw.loaded⟩
  let d := r.device E (E.uuid4 (w.drawn + 1)) (E.generateApiKey w.drawn)
  have hadd := executeWith_settled (E := E) hw' r.columns
    fun db => { db with devices := db.devices ++ [d] }
  show Registered E r w ((addDevice E r d >>= fun _ =>
    (pure (d, E.generateApiKey w.drawn) : Server (Device × String))) w')
  rw [addDevice]
  cases hfits : r.fits E with
  | true =>
    rw [if_pos (show (r.columns.all fun cv => E.driver.accepts cv.1 cv.2) = true from hfits)] at hadd
    rw [Act.bind_of_ok hadd]
    exact .inserted hlen hnone _
  | false =>
    have hno : ¬ (r.columns.all fun cv => E.driver.accepts cv.1 cv.2) = true := by
      rw [show (r.columns.all fun cv => E.driver.accepts cv.1 cv.2) = false from hfits]
      simp
    rw [if_neg hno] at hadd
    rw [Act.bind_of_error hadd]
    exact .refused hlen hnone hfits

/-- **`register_device`**, by the rows with the fingerprint. -/
theorem registerDevice_run (hw : w.Settled) (r : Registration) :
    Registered E r w (registerDevice E r w) := by
  rw [registerDevice, Act.bind_of_ok (select_settled hw _)]
  cases hrows : withFingerprint r.fingerprint w.db.devices with
  | nil =>
    refine insert_run hw (by rw [hrows]; exact Nat.zero_le _) fun d hd => ?_
    by_contra hact
    have hmem := ((active_iff hd).mp (by simpa using hact)).1
    rw [hrows] at hmem
    cases hmem
  | cons d rest =>
    cases rest with
    | nil =>
      show Registered E r w ((match (some d).filter fun d => !d.isRevoked with
        | some d => _
        | none => _ : Server (Device × String)) w)
      cases hrev : d.isRevoked with
      | false =>
        rw [Option.filter_some_pos (by simp [hrev])]
        exact .conflict hrows hrev _
      | true =>
        rw [Option.filter_some_neg (by simp [hrev])]
        refine insert_run hw (by rw [hrows]; exact Nat.le_refl _) fun x hx => ?_
        by_contra hact
        obtain ⟨hmem, hlive⟩ := (active_iff hx).mp (by simpa using hact)
        rw [hrows, List.mem_singleton] at hmem
        rw [hmem, hrev] at hlive
        cases hlive
    | cons d' rest => exact .several hrows

end

/-! ## Runs -/

/-- The requests about the registration of devices. -/
inductive RegistryOp
  | register (r : Registration)
  | revoke (d : Uuid) (org : Option Uuid)

/-- One operation, in a transaction of its own. -/
def registryStep (w : World) : RegistryOp → World
  | .register r => (getDb E (registerDevice E r) w).2
  | .revoke d org => (getDb E (revokeDevice E d org) w).2

/-- The operations, one after the other. -/
def registryRun (w : World) (ops : List RegistryOp) : World := ops.foldl (registryStep E) w

/-- A call of `register_device` in `w` does what the devices of `w` demand: it succeeds exactly when
    no active one has the fingerprint, and conflicts otherwise. -/
structure Lawful (w : World) (r : Registration) : Prop where
  succeeds : (∃ a, (getDb E (registerDevice E r) w).1 = .ok a) ↔
    ∀ d ∈ w.committed.devices, active r.fingerprint d = false
  conflicts : (∃ d ∈ w.committed.devices, active r.fingerprint d = true) →
    ∃ detail, (getDb E (registerDevice E r) w).1 = .error (conflictError detail)

/-- No fingerprint has two active devices. -/
def OneActive (rows : List Device) : Prop := ∀ f, rows.countP (active f) ≤ 1

section

variable {E} {w : World} {r : Registration}

/-- Revoking makes nothing active. -/
theorem oneActive_revoke (d : Uuid) {rows : List Device} (h : OneActive rows) :
    OneActive (rows.map (revoke d)) := by
  intro f
  have hle : ∀ x ∈ rows, active f (revoke d x) = true → active f x = true := by
    intro x _ hx
    rw [revoke] at hx
    by_cases hid : x.id = d
    · rw [if_pos hid] at hx
      simp [active] at hx
    · rw [if_neg hid] at hx
      exact hx
  rw [List.countP_map]
  exact Nat.le_trans (List.countP_mono_left hle) (h f)

/-- A row is added where no active one stands. -/
theorem oneActive_insert {d : Device} {rows : List Device} (h : OneActive rows)
    (hnone : ∀ x ∈ rows, ∀ f, d.fingerprint = some f → active f x = false) :
    OneActive (rows ++ [d]) := by
  intro f
  rw [List.countP_append]
  by_cases hd : active f d = true
  · have hf : d.fingerprint = some f := by
      rw [active] at hd
      simp only [Bool.and_eq_true, beq_iff_eq] at hd
      exact hd.1
    have hzero : rows.countP (active f) = 0 := by
      rw [List.countP_eq_zero]
      intro x hx
      rw [hnone x hx f hf]
      simp
    have hone : [d].countP (active f) ≤ 1 := List.countP_le_length
    omega
  · have hzero : [d].countP (active f) = 0 := by
      rw [List.countP_eq_zero]
      intro x hx
      rw [List.mem_singleton.mp hx]
      exact hd
    have hrows := h f
    omega

/-- The invariant of a run. -/
structure Sound (w : World) : Prop where
  clean : w.Clean
  one : OneActive w.committed.devices

/-- A transaction that raised leaves the database as it was. -/
theorem sound_rollback {w' : World} (h : Sound w) (hcommitted : w'.committed = w.committed)
    (hloaded : w'.loaded = w'.device) : Sound (rollback w') := by
  refine ⟨⟨⟨rfl, hloaded⟩, rfl⟩, ?_⟩
  show OneActive w'.committed.devices
  rw [hcommitted]
  exact h.one

/-- A registration keeps the rows sound. -/
theorem sound_register (h : Sound w) (r : Registration) :
    Sound (getDb E (registerDevice E r) w).2 := by
  have hrun := registerDevice_run (E := E) h.clean.toSettled r
  generalize hout : registerDevice E r w = out at hrun
  cases hrun with
  | conflict hrows hlive detail =>
    rw [getDb_of_error E hout]
    exact sound_rollback h rfl h.clean.loaded
  | several hrows =>
    rw [getDb_of_error E hout]
    exact sound_rollback h rfl h.clean.loaded
  | inserted hlen hnone a =>
    rw [getDb_of_settled E hout ⟨h.clean.pending, h.clean.loaded⟩]
    refine ⟨⟨⟨h.clean.pending, h.clean.loaded⟩, rfl⟩, ?_⟩
    have hone : OneActive w.db.devices := by
      rw [h.clean.db]
      exact h.one
    refine oneActive_insert hone fun x hx f hf => ?_
    obtain rfl : r.fingerprint = f := Option.some.inj hf
    exact hnone x hx
  | refused hlen hnone hfits =>
    rw [getDb_of_error E hout]
    exact sound_rollback h rfl h.clean.loaded

/-- `revoke_device` revokes one row, or none. -/
theorem revokeDevice_run (hw : w.Settled) (d : Uuid) (org : Option Uuid) :
    (∃ e, revokeDevice E d org w = (.error e, w)) ∨
      ∃ x, revokeDevice E d org w = (.ok (), { w with db := revokeIn x w.db }) := by
  have hsel := select_settled (E := E) hw fun db =>
    db.devices.filter fun r => r.id == d && org.all fun o => r.orgId == some o
  rw [revokeDevice, getDevice, Act.bind_assoc_run, Act.bind_of_ok hsel]
  rcases w.db.devices.filter _ with _ | ⟨x, _ | ⟨y, rest⟩⟩
  · exact .inl ⟨_, rfl⟩
  · exact .inr ⟨x.id, execute_settled (E := E) hw (revokeIn x.id)⟩
  · exact .inl ⟨_, rfl⟩

theorem sound_revoke (h : Sound w) (d : Uuid) (org : Option Uuid) :
    Sound (getDb E (revokeDevice E d org) w).2 := by
  rcases revokeDevice_run (E := E) h.clean.toSettled d org with ⟨e, hout⟩ | ⟨x, hout⟩
  · rw [getDb_of_error E hout]
    exact sound_rollback h rfl h.clean.loaded
  · rw [getDb_of_settled E hout ⟨h.clean.pending, h.clean.loaded⟩]
    refine ⟨⟨⟨h.clean.pending, h.clean.loaded⟩, rfl⟩, ?_⟩
    show OneActive (w.db.devices.map (revoke x))
    rw [h.clean.db]
    exact oneActive_revoke x h.one

/-- **One operation** keeps every fingerprint at one active device. -/
theorem sound_step (h : Sound w) (op : RegistryOp) : Sound (registryStep E w op) := by
  cases op with
  | register r => exact sound_register h r
  | revoke d org => exact sound_revoke h d org

/-- **A run** does. -/
theorem sound_run {ops : List RegistryOp} : ∀ {w : World}, Sound w → Sound (registryRun E w ops) := by
  induction ops with
  | nil => exact fun h => h
  | cons op ops ih => exact fun h => ih (sound_step h op)

/-- In any state, the law holds of a call exactly when the lookup finds at most one row. -/
theorem lawful_iff (hw : w.Clean) (hfits : r.fits E = true) :
    Lawful E w r ↔ (withFingerprint r.fingerprint w.committed.devices).length ≤ 1 := by
  have hrun := registerDevice_run (E := E) hw.toSettled r
  generalize hout : registerDevice E r w = out at hrun
  have hdb : w.db = w.committed := hw.db
  cases hrun with
  | conflict hrows hlive detail =>
    rename_i d
    have hres : (getDb E (registerDevice E r) w).1 = .error (conflictError detail) := by
      rw [getDb_of_error E hout]
    have hmem : d ∈ withFingerprint r.fingerprint w.db.devices := by rw [hrows]; simp
    have hin : d ∈ w.db.devices := (List.mem_filter.mp hmem).1
    have hact : active r.fingerprint d = true := (active_iff hin).mpr ⟨hmem, hlive⟩
    rw [hdb] at hin hrows
    refine ⟨fun _ => by rw [hrows]; exact Nat.le_refl _, fun _ => ⟨⟨?_, ?_⟩, fun _ => ⟨detail, hres⟩⟩⟩
    · rintro ⟨a, ha⟩
      rw [hres] at ha
      cases ha
    · intro hnone
      rw [hnone d hin] at hact
      cases hact
  -- scalar_one_or_none raises: neither the conflict nor the new row that the law asks for.
  | several hrows =>
    have hres : (getDb E (registerDevice E r) w).1 = .error .multipleResultsFound := by
      rw [getDb_of_error E hout]
    rw [hdb] at hrows
    refine ⟨fun hlaw => ?_, fun hlen => ?_⟩
    · exfalso
      by_cases hact : ∃ d ∈ w.committed.devices, active r.fingerprint d = true
      · obtain ⟨detail, hc⟩ := hlaw.conflicts hact
        rw [hres] at hc
        cases hc
      · obtain ⟨a, ha⟩ := hlaw.succeeds.mpr fun d hd => by
          by_contra hne
          exact hact ⟨d, hd, by simpa using hne⟩
        rw [hres] at ha
        cases ha
    · rw [hrows, List.length_cons, List.length_cons] at hlen
      omega
  | inserted hlen hnone a =>
    have hset : (inserted E r w).Settled := ⟨hw.pending, hw.loaded⟩
    have hres : (getDb E (registerDevice E r) w).1 = .ok a := by
      rw [getDb_of_settled E hout hset]
    rw [hdb] at hlen hnone
    refine ⟨fun _ => hlen, fun _ => ⟨⟨fun _ => hnone, fun _ => ⟨a, hres⟩⟩, ?_⟩⟩
    rintro ⟨d, hd, hact⟩
    rw [hnone d hd] at hact
    cases hact
  | refused hlen hnone hno =>
    rw [hfits] at hno
    cases hno

end

/-- **Re-enrollment.**  After any run of registrations and revocations no fingerprint has two active
    devices; and the next registration does what it should exactly when its fingerprint is on at most
    one row, revoked ones included.

    The invariant is `OneActive`.  The lookup has `scalar_one_or_none` over all of them, so the second revoked row
    makes every later registration raise, which is what the second half is about. -/
theorem reenrollment {w : World} (hclean : w.Clean) (hempty : w.committed.devices = [])
    (ops : List RegistryOp) {r : Registration} (hfits : r.fits E = true) :
    OneActive (registryRun E w ops).committed.devices ∧
      (Lawful E (registryRun E w ops) r ↔
        (withFingerprint r.fingerprint (registryRun E w ops).committed.devices).length ≤ 1) := by
  have hone : OneActive w.committed.devices := by
    intro f
    rw [hempty]
    exact Nat.zero_le _
  have hsound : Sound (registryRun E w ops) := sound_run ⟨hclean, hone⟩
  exact ⟨hsound.one, lawful_iff hsound.clean hfits⟩

/-- A host to enroll. -/
def host : Registration := ⟨"host", "linux", none, none, "fp", none, none⟩

/-- A database without devices. -/
def noDevices : World := World.start .empty (Device.sample 0)

theorem reenrollment_once :
    Lawful Env.sample (registryRun Env.sample noDevices [.register host]) host := by
  have h := reenrollment Env.sample (w := noDevices) (World.start_clean _ _) rfl
    [.register host] (r := host) (by decide)
  exact h.2.mpr (by decide)

/-- Enrolled, revoked, enrolled again and revoked again. -/
def twice : World := registryRun Env.sample noDevices
  [.register host, .revoke (Env.sample.uuid4 1) none, .register host,
    .revoke (Env.sample.uuid4 3) none]

/-- The host cannot be enrolled any more. -/
theorem reenrolled_twice :
    (getDb Env.sample (registerDevice Env.sample host) twice).1 = .error .multipleResultsFound ∧
      ¬ Lawful Env.sample twice host := by
  refine ⟨rfl, fun hlaw => ?_⟩
  obtain ⟨a, ha⟩ := hlaw.succeeds.mpr (by decide)
  cases ha

end Registry

end Server

end Dtsys
