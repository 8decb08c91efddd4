/-
  THE FOOTPRINT of the handlers, once for all frames.

  A handler is put together from a few primitives: flush, ids, Redis, rows of its device added, four
  attributes of the ORM instance set, five kinds of statements (`Statement`), alerts created.  So a
  frame that the primitives respect (`Handled`) is respected by every handler, and there is ONE walk
  through their code, whatever the frame says.

  Most frames are relations between what the session would write before and after (`onView`): the
  database as other devices see it (`Dtsys.Server.Scope`), the uptime events, the standing of the
  devices, the number of alerts (`Dtsys.System.Hub`).  For these only the kinds of writes have to be
  looked at (`Respected`).

  The two command handlers choose their row by the id in the message and have an obligation of their
  own (`Handled.handle`).

  How a new frame is added.

  1. Say what is kept, as a relation between two worlds, or between two views (`onView`).
  2. Show that the rows of the device, the four attributes and the statements keep it (`Respected`, or the
     fields of `Handled` one by one).
  3. `handle_respects` then gives it for every message; what is left is the UPDATE of a command.

  The lemmas `checkThreshold` to `handleCommandResult` are the walk: each of them has the name of the
  function it goes through, and follows its statements from the first to the last.
-/
import Dtsys.Server.Handler

namespace Dtsys

/-- The rows the handlers add themselves; alerts are left to `create_alert`. -/
def Row.isReport : Row → Bool
  | .metric _ | .software _ | .network _ | .sshKey _ | .event _ => true
  | _ => false

/-- An INSERT leaves the devices alone. -/
theorem Db.insert_devices (a : Db) (r : Row) : (a.insert r).devices = a.devices := by
  cases r <;> rfl

theorem Db.insertAll_devices : ∀ (rows : List Row) (a : Db), (a.insertAll rows).devices = a.devices := by
  intro rows
  induction rows with
  | nil => intro a; rfl
  | cons r rows ih => exact fun a => (ih (a.insert r)).trans (a.insert_devices r)

/-- What a flush would make of the devices. -/
theorem World.view_devices (w : World) :
    w.view.devices = w.db.devices.map (syncDevice w.device w.loaded) :=
  Db.insertAll_devices w.pending _

namespace Server

open Act

/-- The attributes of the ORM instance the handlers set; none sets the status to `offline`. -/
structure Attributes (f : Device → Device) : Prop where
  only : ∀ x, f x = { x with
    lastSeen := (f x).lastSeen, status := (f x).status, ipAddress := (f x).ipAddress,
    agentVersion := (f x).agentVersion }
  status : ∀ x, (f x).status = .offline → x.status = .offline

theorem Attributes.id_eq {f : Device → Device} (h : Attributes f) (x : Device) :
    (f x).id = x.id := by
  rw [h.only x]

theorem Attributes.maintenanceMode_eq {f : Device → Device} (h : Attributes f) (x : Device) :
    (f x).maintenanceMode = x.maintenanceMode := by
  rw [h.only x]

/-- `device.last_seen` and `device.status`. -/
theorem attributes_online (t : Nat) :
    Attributes fun x => { x with lastSeen := some t, status := .online } :=
  ⟨fun _ => rfl, fun _ hx => nomatch hx⟩

theorem attributes_alert : Attributes fun x => { x with status := .alert } :=
  ⟨fun _ => rfl, fun _ hx => nomatch hx⟩

/-- The address says nothing of the status. -/
theorem withAddress_status (chosen : Option Ipv4 × Option Ipv4) (x : Device) :
    (withAddress chosen x).status = x.status := by
  rw [withAddress]
  split
  · rfl
  · rfl

theorem attributes_address (chosen : Option Ipv4 × Option Ipv4) :
    Attributes (withAddress chosen) := by
  refine ⟨fun x => ?_, fun x hx => (withAddress_status chosen x).symm.trans hx⟩
  rw [withAddress]
  split
  · rfl
  · rfl

theorem attributes_version (E : Env) (version : Json) : Attributes (withVersion E version) := by
  constructor
  · intro x
    rw [withVersion]
    split
    · rfl
    · rfl
  · intro x hx
    rw [withVersion] at hx
    split at hx
    · exact hx
    · exact hx

/-- The statements the handlers of device `d` execute. -/
inductive Statement (d : Uuid) : (Db → Db) → Prop
  | resolve (ty : AlertType) (t : Nat) : Statement d (resolveAlerts d ty t)
  | software : Statement d (deleteSoftware d)
  | network : Statement d (deleteNetwork d)
  | sshKeys : Statement d (deleteSshKeys d)
  | pushTokens (g : List PushToken → List PushToken) :
      Statement d fun db => { db with pushTokens := g db.pushTokens }

/-- The primitives of a session of device `d` respect the frame. -/
structure InSession (E : Env) (d : Uuid) (F : Frame World) : Prop where
  device : ∀ {α : Type} {k : Device → Server α}, (∀ dev : Device, dev.id = d → Within F (k dev)) →
    Within F (Act.read World.device >>= k)
  flush : Within F (flush E)
  newId : Within F (newId E)
  emit : ∀ e, Within F (emit e)
  redis : ∀ g : World → Option Redis,
    Within F (Act.modify fun w => { w with redis := g w } : Server Unit)
  add : ∀ r : Row, r.deviceId = some d → r.isReport = true → Within F (add r)
  attributes : ∀ {f : Device → Device}, Attributes f → Within F (setDevice f)
  statement : ∀ {f : Db → Db}, Statement d f →
    Within F (Act.modify fun w => { w with db := f w.db } : Server Unit)

/-- And so does `create_alert`. -/
structure Handled (E : Env) (d : Uuid) (F : Frame World) : Prop extends InSession E d F where
  alert : ∀ ty severity message, Within F (createAlert E ty severity message)

section

variable {E : Env} {d : Uuid} {F : Frame World}

/-! ## Statements and queries -/

/-- An UPDATE or a DELETE of the device's rows. -/
theorem InSession.execute (h : InSession E d F) {f : Db → Db} (hf : Statement d f) :
    Within F (execute E f) :=
  Within.bind h.flush fun _ => h.statement hf

theorem InSession.select {α : Type} (h : InSession E d F) (f : Db → α) : Within F (select E f) :=
  Within.bind h.flush fun _ => Within.read _

theorem within_now : Within F now := Within.read _

theorem within_scalarOneOrNone {α : Type} : ∀ l : List α, Within F (scalarOneOrNone l)
  | [] => Within.pure _
  | [_] => Within.pure _
  | _ :: _ :: _ => Within.raise _

/-- A pure step hands on what is known of its result. -/
theorem within_ofExcept {α γ : Type} {x : Except PyErr α} {k : α → Server γ}
    (hk : ∀ a, x = .ok a → Within F (k a)) : Within F (Act.ofExcept x >>= k) := by
  intro w
  cases x with
  | error e => exact F.refl w
  | ok a => exact hk a rfl w

/-! ## Alerts -/

theorem InSession.sendPushNotifications (h : InSession E d F) (org : Uuid) (title body : String) :
    Within F (sendPushNotifications E org title body) := by
  refine Within.bind (h.select _) fun tokens => Within.ite (Within.pure _) ?_
  refine Within.bind (h.emit _) fun _ => ?_
  split
  · exact Within.pure _
  · rename_i invalid _
    refine Within.bind within_now fun t => ?_
    exact h.execute (.pushTokens fun rows => (rows.filter fun p => !invalid.contains p.token).map
      fun p => if (tokens.map PushToken.token).contains p.token
        then { p with lastUsed := some t } else p)

theorem InSession.notify (h : InSession E d F) (alert : Alert) (device : Device) :
    Within F (notify E alert device) := by
  refine Within.bind (h.select _) fun rules => ?_
  refine Within.bind (Within.forEach (fun e => h.emit e) _) fun _ => ?_
  rw [notifyPush]
  split
  · exact Within.ite (h.sendPushNotifications _ _ _) (Within.pure _)
  · exact Within.pure _

/-- A frame that new alerts of the device respect is respected by `create_alert`. -/
theorem InSession.createAlert (h : InSession E d F)
    (hadd : ∀ a : Alert, a.deviceId = d → Within F (Server.add (.alert a)))
    (ty : AlertType) (severity : Severity) (message : String) :
    Within F (createAlert E ty severity message) := by
  refine h.device fun dev hdev => Within.ite (Within.pure _) ?_
  refine Within.bind (h.select _) fun rows => ?_
  refine Within.bind (within_scalarOneOrNone _) fun existing => ?_
  split
  · exact Within.pure _
  · refine Within.bind h.newId fun id => Within.bind within_now fun t => ?_
    refine Within.bind (hadd _ hdev) fun _ => ?_
    refine Within.bind (h.attributes attributes_alert) fun _ => ?_
    refine Within.bind h.flush fun _ => ?_
    exact h.device fun _ _ => h.notify _ _

namespace Handled

variable (h : Handled E d F)

include h

theorem checkThreshold (v : Json) (bound : Threshold) (ty : AlertType) (sev : Severity)
    (text : String → String) : Within F (checkThreshold E v bound ty sev text) := by
  refine Within.ite (Within.pure _) (Within.bind (Within.ofExcept _) fun exceeded => ?_)
  exact Within.ite (Within.bind (Within.ofExcept _) fun x => h.alert _ _ _) (Within.pure _)

theorem evaluateMetrics (m : DeviceMetric) : Within F (evaluateMetrics E m) := by
  refine Within.bind (h.checkThreshold _ _ _ _ _) fun _ => ?_
  refine Within.bind (h.checkThreshold _ _ _ _ _) fun _ => ?_
  refine Within.bind (h.checkThreshold _ _ _ _ _) fun _ => ?_
  exact h.checkThreshold _ _ _ _ _

theorem autoResolve (v : Json) (bound : Rat) (ty : AlertType) (t : Nat) :
    Within F (autoResolve E d v bound ty t) := by
  refine Within.ite (Within.pure _) (Within.bind (Within.ofExcept _) fun below => ?_)
  exact Within.ite (h.execute (.resolve ty t)) (Within.pure _)

/-- `auto_resolve_alerts`. -/
theorem autoResolveAlerts (telemetry : Json) : Within F (autoResolveAlerts E d telemetry) := by
  refine Within.bind within_now fun t => Within.bind (Within.ofExcept _) fun cpu => ?_
  refine Within.bind (h.autoResolve _ _ _ _) fun _ => ?_
  refine Within.bind (Within.ofExcept _) fun _ => ?_
  refine Within.bind (h.autoResolve _ _ _ _) fun _ => ?_
  refine Within.bind (Within.ofExcept _) fun _ => ?_
  exact h.autoResolve _ _ _ _

/-! ## Reports -/

omit h in
/-- A metric is one of the device. -/
theorem metricOf_deviceId {id : Uuid} {t : Nat} {data : Json} {m : DeviceMetric}
    (h : metricOf id t d data = .ok m) : m.deviceId = d := by
  cases data with
  | obj fields =>
    simp only [metricOf, Json.get, bind, Except.bind, pure, Except.pure, Except.ok.injEq] at h
    subst h
    rfl
  | _ => simp [metricOf, Json.get, bind, Except.bind] at h

/-- `_handle_telemetry`: the row of the metric, the checks and the resolution. -/
theorem handleTelemetry (data : Json) : Within F (handleTelemetry E data) := by
  refine h.device fun dev hdev => Within.bind h.newId fun id => ?_
  refine Within.bind within_now fun t => within_ofExcept fun metric hm => ?_
  have hmd : metric.deviceId = d := (metricOf_deviceId hm).trans hdev
  refine Within.bind (h.add _ (by simp [Row.deviceId, hmd]) rfl) fun _ => ?_
  refine Within.bind (h.attributes (attributes_online t)) fun _ => ?_
  refine Within.bind h.flush fun _ => ?_
  refine Within.bind (h.evaluateMetrics _) fun _ => ?_
  rw [hdev]
  exact h.autoResolveAlerts _

/-- The loop of an inventory, over rows of the device. -/
theorem addAll {row : Uuid → Json → Except PyErr Row} (xs : List Json)
    (hrow : ∀ id x r, row id x = .ok r → r.deviceId = some d ∧ r.isReport = true) :
    Within F (addAll E row xs) := by
  refine Within.forEach (fun x => ?_) xs
  refine Within.bind h.newId fun id => within_ofExcept fun r hr => ?_
  obtain ⟨hd, hc⟩ := hrow id x r hr
  exact h.add r hd hc

omit h in
/-- A row of a package is one of the device. -/
theorem softwareRow_own {id : Uuid} {pkg : Json} {r : Row} (h : softwareRow d id pkg = .ok r) :
    r.deviceId = some d ∧ r.isReport = true := by
  cases pkg with
  | obj fields =>
    simp only [softwareRow, Json.get, Json.getD, bind, Except.bind, pure, Except.pure,
      Except.ok.injEq] at h
    subst h
    exact ⟨rfl, rfl⟩
  | _ => simp [softwareRow, Json.getD, bind, Except.bind] at h

omit h in
/-- So is the row of a key. -/
theorem sshKeyRow_own {id : Uuid} {key : Json} {r : Row} (h : sshKeyRow d id key = .ok r) :
    r.deviceId = some d ∧ r.isReport = true := by
  cases key with
  | obj fields =>
    simp only [sshKeyRow, Json.get, Json.getD, bind, Except.bind, pure, Except.pure,
      Except.ok.injEq] at h
    subst h
    exact ⟨rfl, rfl⟩
  | _ => simp [sshKeyRow, Json.getD, bind, Except.bind] at h

omit h in
/-- And the row of an interface. -/
theorem networkRow_own {id : Uuid} {iface : Json} {r : Row} (h : networkRow d id iface = .ok r) :
    r.deviceId = some d ∧ r.isReport = true := by
  cases iface with
  | obj fields =>
    simp only [networkRow, addressList, Json.get, Json.getD, bind, Except.bind, pure, Except.pure,
      Except.ok.injEq] at h
    subst h
    exact ⟨rfl, rfl⟩
  | _ => simp [networkRow, addressList, Json.getD, bind, Except.bind] at h

/-- `_handle_software`: the DELETE, and the loop. -/
theorem handleSoftware (data : Json) : Within F (handleSoftware E data) := by
  refine h.device fun dev hdev => ?_
  rw [hdev]
  refine Within.bind (h.execute .software) fun _ => Within.bind (Within.ofExcept _) fun _ => ?_
  refine Within.bind (Within.ofExcept _) fun items => ?_
  exact h.addAll items fun _ _ _ => softwareRow_own

/-- `_handle_ssh_keys`. -/
theorem handleSshKeys (data : Json) : Within F (handleSshKeys E data) := by
  refine h.device fun dev hdev => ?_
  rw [hdev]
  refine Within.bind (h.execute .sshKeys) fun _ => Within.bind (Within.ofExcept _) fun _ => ?_
  refine Within.bind (Within.ofExcept _) fun items => ?_
  exact h.addAll items fun _ _ _ => sshKeyRow_own

/-- The loop of `_handle_network_info`, which also chooses the addresses. -/
theorem addInterfaces : ∀ (xs : List Json) (acc : Option Ipv4 × Option Ipv4),
    Within F (addInterfaces E d acc xs)
  | [], _ => Within.pure _
  | iface :: rest, acc => by
    refine Within.bind h.newId fun id => within_ofExcept fun r hr => ?_
    obtain ⟨hown, hc⟩ := networkRow_own hr
    refine Within.bind (h.add r hown hc) fun _ => ?_
    refine Within.bind (Within.ofExcept _) fun _ => Within.bind (Within.ofExcept _) fun _ => ?_
    exact addInterfaces rest _

/-- `_handle_network_info`, with the address of the device. -/
theorem handleNetworkInfo (data : Json) : Within F (handleNetworkInfo E data) := by
  refine h.device fun dev hdev => Within.bind (Within.ofExcept _) fun _ => ?_
  rw [hdev]
  refine Within.bind (h.execute .network) fun _ => Within.bind within_now fun t => ?_
  refine Within.bind (h.attributes (attributes_online t)) fun _ => Within.bind (Within.ofExcept _) fun items => ?_
  refine Within.bind (h.addInterfaces items _) fun chosen => ?_
  exact h.attributes (attributes_address chosen)

/-- The limiter of the events changes Redis alone. -/
theorem eventRateLimited (x : Uuid) : Within F (eventRateLimited x) := by
  intro w
  rw [Server.eventRateLimited]
  split
  · exact F.refl w
  · exact h.redis (fun _ => some _) w

omit h in
/-- An event is one of the device. -/
theorem eventOf_deviceId {id : Uuid} {t : Nat} {data : Json} {ev : Event}
    (h : eventOf E id t d data = .ok ev) : ev.deviceId = d := by
  cases data with
  | obj fields =>
    simp only [eventOf, Json.get, Json.getD, bind, Except.bind, pure, Except.pure,
      Except.ok.injEq] at h
    subst h
    rfl
  | _ => simp [eventOf, Json.getD, bind, Except.bind] at h

/-- `_handle_event`, with the alert of a crash. -/
theorem handleEvent (data : Json) : Within F (handleEvent E data) := by
  refine h.device fun dev hdev => ?_
  refine Within.bind (h.eventRateLimited _) fun limited => ?_
  refine Within.ite (Within.pure _) ?_
  refine Within.bind h.newId fun id => Within.bind within_now fun t => ?_
  refine within_ofExcept fun ev hev => ?_
  have hown : ev.deviceId = d := (eventOf_deviceId hev).trans hdev
  refine Within.bind (h.add _ (by simp [Row.deviceId, hown]) rfl) fun _ => ?_
  refine Within.bind h.flush fun _ => Within.bind (h.emit _) fun _ => ?_
  refine Within.bind (Within.ofExcept _) fun _ => ?_
  exact Within.ite (h.alert _ _ _) (Within.pure _)

theorem checkDrift (offset : Json) : Within F (checkDrift E offset) := by
  refine Within.bind (Within.ofExcept _) fun drifted => ?_
  exact Within.ite (Within.bind (Within.ofExcept _) fun _ => h.alert _ _ _) (Within.pure _)

theorem checkClock (data offset : Json) : Within F (checkClock E d data offset) := by
  refine Within.bind (Within.ofExcept _) fun usable => ?_
  refine Within.ite (Within.bind within_now fun t => ?_) ?_
  · exact h.execute (.resolve _ t)
  · exact Within.bind (Within.ofExcept _) fun _ => h.alert _ _ _

/-- `_handle_ntp`. -/
theorem handleNtp (data : Json) : Within F (handleNtp E data) := by
  refine h.device fun dev hdev => Within.bind (Within.ofExcept _) fun offset => ?_
  rw [hdev]
  exact Within.bind (h.checkDrift offset) fun _ => h.checkClock data offset

/-- `_handle_screenshot_result`: Redis, and the row of the command. -/
theorem handleScreenshotResult (data : Json) : Within F (handleScreenshotResult E data) := by
  refine h.device fun dev _ => Within.bind (Within.read _) fun _ => ?_
  refine Within.ite (Within.pure _) (Within.bind (Within.ofExcept _) fun _ => ?_)
  refine Within.bind (Within.ofExcept _) fun _ => ?_
  refine Within.ite (Within.pure _) (Within.bind within_now fun _ => ?_)
  refine Within.bind (Within.ofExcept _) fun _ => Within.bind (Within.ofExcept _) fun _ => ?_
  exact Within.bind (Within.ofExcept _) fun _ => h.redis _

/-- `_handle_process_list`: Redis. -/
theorem handleProcessList (data : Json) : Within F (handleProcessList E data) := by
  refine h.device fun dev _ => Within.bind (Within.read _) fun _ => ?_
  refine Within.ite (Within.pure _) (Within.bind (Within.ofExcept _) fun _ => ?_)
  exact Within.bind within_now fun _ => h.redis _

/-- `_handle_agent_info`: the version. -/
theorem handleAgentInfo (data : Json) : Within F (handleAgentInfo E data) := by
  refine Within.bind (Within.ofExcept _) fun _ => ?_
  refine Within.bind (h.attributes (attributes_version E _)) fun _ => ?_
  exact Within.bind within_now fun t => h.attributes (attributes_online t)

/-- **Every handler but the two command handlers** respects the frame. -/
theorem handlerFor {ty : ClientMessageType} (hout : ty ≠ .commandOutput)
    (hres : ty ≠ .commandResult) (data : Json) : Within F (handlerFor E ty data) := by
  cases ty with
  | telemetry => exact h.handleTelemetry data
  | softwareInventory => exact h.handleSoftware data
  | eventReport => exact h.handleEvent data
  | ntpStatus => exact h.handleNtp data
  | networkInfo => exact h.handleNetworkInfo data
  | sshKeys => exact h.handleSshKeys data
  | processList => exact h.handleProcessList data
  | agentInfo => exact h.handleAgentInfo data
  | commandOutput => exact absurd rfl hout
  | commandResult => exact absurd rfl hres
  | screenshotResult => exact h.handleScreenshotResult data

/-! ## The command handlers -/

section

variable (hcommand : ∀ id f,
  Within F (Act.modify fun w => { w with db := updateCommand id f w.db } : Server Unit))

include hcommand

theorem executeCommand (values : List (Column × Json)) (id : Uuid) (f : Command → Command) :
    Within F (executeWith E values (updateCommand id f)) := by
  refine Within.bind h.flush fun _ => ?_
  exact Within.ite (hcommand id f) (Within.raise _)

/-- `_handle_command_output`. -/
theorem handleCommandOutput (data : Json) : Within F (handleCommandOutput E data) := by
  refine Within.bind (Within.ofExcept _) fun cmdId => Within.ite ?_ (Within.pure _)
  refine Within.bind (Within.ofExcept _) fun id => Within.bind (Within.ofExcept _) fun output => ?_
  exact h.executeCommand hcommand _ id _

/-- `_handle_command_result`. -/
theorem handleCommandResult (data : Json) : Within F (handleCommandResult E data) := by
  refine h.device fun dev hdev => Within.bind (Within.ofExcept _) fun cmdId => ?_
  refine Within.ite ?_ (Within.pure _)
  refine Within.bind (Within.ofExcept _) fun id => Within.bind (h.select _) fun found => ?_
  split
  · exact Within.pure _
  · refine Within.bind (Within.ofExcept _) fun exitCode => ?_
    refine Within.bind (Within.ofExcept _) fun output => Within.bind within_now fun t => ?_
    refine Within.bind (h.executeCommand hcommand _ _ _) fun _ => ?_
    rw [hdev]
    exact Within.ite (h.execute (.resolve _ t)) (Within.pure _)

/-- **`handle`**, for a frame that the UPDATE of a command respects too. -/
theorem handle (message : Json) : Within F (handle E message) := by
  refine Within.bind (Within.ofExcept _) fun msgType => Within.bind (Within.ofExcept _) fun data => ?_
  split
  · rename_i ty _
    by_cases hout : ty = .commandOutput
    · rw [hout]
      exact h.handleCommandOutput hcommand data
    · by_cases hres : ty = .commandResult
      · rw [hres]
        exact h.handleCommandResult hcommand data
      · exact h.handlerFor hout hres data
  · exact Within.pure _

end

end Handled

/-! ## Relations between what a session would write -/

/-- A statement of a handler leaves the devices to the instance. -/
theorem Statement.sync {f : Db → Db} (hf : Statement d f) (a : Db) (g : Device → Device) :
    { f a with devices := (f a).devices.map g } = f { a with devices := a.devices.map g } := by
  cases hf <;> rfl

/-- A statement about other rows leaves the devices alone. -/
theorem Statement.devices {f : Db → Db} (hf : Statement d f) (a : Db) : (f a).devices = a.devices := by
  cases hf <;> rfl

/-- The relation `r` holds between databases of which the second has come out of the first by writes
    that the handlers of device `d` make: reports, attributes of its row, statements. -/
structure Respected (d : Uuid) (r : Db → Db → Prop) : Prop where
  refl : ∀ a, r a a
  trans : ∀ {a b c}, r a b → r b c → r a c
  /-- Rows that are written to both keep it. -/
  congr : ∀ {a b} (x : Row), r a b → r (a.insert x) (b.insert x)
  report : ∀ (a : Db) (x : Row), x.deviceId = some d → x.isReport = true → r a (a.insert x)
  sync : ∀ (a : Db) (x y x' : Device), x.id = d → x'.id = d →
    r { a with devices := a.devices.map (World.syncDevice x y) }
      { a with devices := a.devices.map (World.syncDevice x' y) }
  statement : ∀ {f : Db → Db}, Statement d f → ∀ a, r a (f a)

/-- A property of the instance of device `d` that no handler changes. -/
structure Lasting (d : Uuid) (P : Device → Prop) : Prop where
  id : ∀ x, P x → x.id = d
  attributes : ∀ {f : Device → Device}, Attributes f → ∀ x, P x → P (f x)

/-- No handler changes the id of a device. -/
theorem lasting_id (d : Uuid) : Lasting d (·.id = d) :=
  ⟨fun _ hx => hx, fun hf x hx => (hf.id_eq x).trans hx⟩

/-- The frame: with an instance that is `P`, a session keeps it so, commits nothing, and what it would
    write moves along `r`. -/
def onView {P : Device → Prop} {r : Db → Db → Prop} (_ : Lasting d P) (h : Respected d r) :
    Frame World where
  rel w w' := P w.device →
    P w'.device ∧ w'.committed = w.committed ∧ r w.view w'.view
  refl w := fun hd => ⟨hd, rfl, h.refl w.view⟩
  trans hst htu := fun hd =>
    have h1 := hst hd
    have h2 := htu h1.1
    ⟨h2.1, h2.2.1.trans h1.2.1, h.trans h1.2.2 h2.2.2⟩

section

variable {P : Device → Prop} {r : Db → Db → Prop} (hP : Lasting d P) (h : Respected d r)

include h

theorem Respected.insertAll : ∀ (rows : List Row) {a b : Db}, r a b →
    r (a.insertAll rows) (b.insertAll rows) := by
  intro rows
  induction rows with
  | nil => intro a b hab; exact hab
  | cons x rows ih => intro a b hab; exact ih (h.congr x hab)

/-- A flush writes what is pending. -/
theorem onView_flush : Within (onView hP h) (Server.flush E) := by
  intro w hd
  rw [Server.flush]
  split
  · have hview : ({ w with db := w.view, pending := [], loaded := w.device } : World).view = w.view :=
      World.Settled.view_eq ⟨rfl, rfl⟩
    exact ⟨hd, rfl, by rw [hview]; exact h.refl _⟩
  · exact ⟨hd, rfl, h.refl _⟩

/-- A row is added, and may be seen. -/
theorem onView_add {x : Row} (hx : ∀ a : Db, r a (a.insert x)) :
    Within (onView hP h) (Server.add x) := by
  refine Within.modify fun w hd => ⟨hd, rfl, ?_⟩
  have hview : ({ w with pending := w.pending ++ [x] } : World).view = w.view.insert x :=
    List.foldl_append
  rw [hview]
  exact hx w.view

/-- **The session**: a frame on what it sees is kept by its statements. -/
theorem onView_inSession : InSession E d (onView hP h) where
  device hk := fun w hd => hk w.device (hP.id _ hd) w hd
  flush := onView_flush hP h
  newId := fun w hd => ⟨hd, rfl, h.refl w.view⟩
  emit _ := Within.modify fun w hd => ⟨hd, rfl, h.refl w.view⟩
  redis _ := Within.modify fun w hd => ⟨hd, rfl, h.refl w.view⟩
  add x hd hx := onView_add hP h fun a => h.report a x hd hx
  attributes hf := Within.modify fun w hd =>
    have hd' : P _ := hP.attributes hf w.device hd
    ⟨hd', rfl, h.insertAll w.pending (h.sync w.db w.device w.loaded _ (hP.id _ hd) (hP.id _ hd'))⟩
  statement hf := Within.modify fun w hd => by
    refine ⟨hd, rfl, h.insertAll w.pending ?_⟩
    rw [hf.sync]
    exact h.statement hf _

/-- **The handlers**, if the frame keeps an alert of the device. -/
theorem onView_handled
    (halert : ∀ (a : Db) (x : Alert), x.deviceId = d → r a (a.insert (.alert x))) :
    Handled E d (onView hP h) where
  toInSession := onView_inSession hP h
  alert := (onView_inSession hP h).createAlert fun x hx => onView_add hP h fun a => halert a x hx

/-- The UPDATE of a command, which may be one of another device. -/
theorem onView_command {id : Uuid} {f : Command → Command} (hr : ∀ a, r a (updateCommand id f a)) :
    Within (onView hP h)
      (Act.modify fun w => { w with db := updateCommand id f w.db } : Server Unit) :=
  Within.modify fun w hd => ⟨hd, rfl, h.insertAll w.pending (hr _)⟩

/-- **What `handle` would write**, for a relation that alerts and the UPDATE of a command keep. -/
theorem handle_respects
    (halert : ∀ (a : Db) (x : Alert), x.deviceId = d → r a (a.insert (.alert x)))
    (hcommand : ∀ id f a, r a (updateCommand id f a)) {w : World} (hw : w.Settled)
    (hd : w.device.id = d) (message : Json) : r w.db (Server.handle E message w).2.view := by
  have hwithin : Within (onView (lasting_id d) h) (Server.handle E message) :=
    (onView_handled (lasting_id d) h halert).handle
      (fun id f => onView_command (lasting_id d) h (hcommand id f)) message
  have hview := (hwithin w hd).2.2
  rw [hw.view_eq] at hview
  exact hview

end

end

end Server

end Dtsys
