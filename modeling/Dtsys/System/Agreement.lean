/-
  THE PAYLOADS, STORED: a value of a payload struct is agreed upon if it can be encoded, every field the
  server reads is read as the agent set it (`Reads`), and it is handled and committed WITHOUT AN
  EXCEPTION, the database's included.

  The last part depends on the state as well: `create_alert` raises on a device with two open alerts of
  one type, whatever the payload.  So it is asked of every state between two transactions that has no
  such pair (`Sane`); in the other states only the database may raise (`FromDatabase`).

  What the database takes is PostgreSQL's business (`Documented`): texts without NUL within the width of
  the column, integers of 32 or 64 bits, documents without NUL.  With it, `payloads_agree_iff` says
  exactly which values of the eight structs agree, and `Sendable` says it of the fields of the struct.
-/
import Dtsys.System.Payloads
import Dtsys.Server.ColumnBounds

namespace Dtsys

/-! ## Documents -/

mutual

/-- No text of the document, and no key, has a NUL character. -/
def Json.plain : Json → Bool
  | .str s => !s.toList.contains '\x00'
  | .arr xs => plainElems xs
  | .obj fields => plainFields fields
  | _ => true

/-- The same for the elements of an array. -/
def plainElems : List Json → Bool
  | [] => true
  | x :: xs => x.plain && plainElems xs

/-- The same for the keys and values of an object. -/
def plainFields : List (String × Json) → Bool
  | [] => true
  | (key, x) :: rest => !key.toList.contains '\x00' && x.plain && plainFields rest

end

/-! ## What the database takes -/

/-- Which values of a column's own type PostgreSQL takes. -/
structure Driver.Exact (D : Driver) : Prop where
  float : ∀ v x, v.toFloat = .ok x → D.encodes .float v = true
  bigInteger : ∀ n, D.encodes .bigInteger (.int n) = true ↔ -2 ^ 63 ≤ n ∧ n < 2 ^ 63
  integer : ∀ n, D.encodes .integer (.int n) = true ↔ -2 ^ 31 ≤ n ∧ n < 2 ^ 31
  boolean : ∀ b, D.encodes .boolean (.bool b) = true
  string : ∀ n s, D.encodes (.string n) (.str s) = true ↔ PlainText s ∧ s.length ≤ n
  text : ∀ s, D.encodes .text (.str s) = true ↔ PlainText s
  stringArray : ∀ ss : List String,
    D.encodes .stringArray (.arr (ss.map Json.str)) = true ↔ ∀ s ∈ ss, PlainText s

open Server in
/-- Python and PostgreSQL, as they are documented. -/
structure Documented (E : Env) : Prop where
  str : ∀ s, E.str (.str s) = s
  mark : E.dumpsLength (.obj [("truncated", .bool true)]) ≤ maxRawDataBytes
  driver : E.driver.Exact
  jsonb : ∀ fields, E.dumpsLength (.obj fields) ≤ maxRawDataBytes →
    (E.driver.encodes .jsonb (.obj fields) = true ↔ (Json.obj fields).plain = true)

namespace Agent

/-- A text without NUL, in UTF-8. -/
def GoString.Plain (s : GoString) : Prop := s.valid = true ∧ PlainText s.text

/-- The same, and not wider than `n` characters. -/
def GoString.Fits (s : GoString) (n : Nat) : Prop := s.Plain ∧ s.text.length ≤ n

/-- The texts of a package, within `software_inventory`. -/
structure SoftwarePackage.Fits (p : SoftwarePackage) : Prop where
  name : p.name.Fits 500
  version : p.version.Fits 100
  latestVersion : p.latestVersion.Fits 100

/-- The texts and the number of an interface, within `device_network_info`. -/
structure NetworkInterface.Fits (i : NetworkInterface) : Prop where
  name : i.name.Fits 255
  macAddress : i.macAddress.Fits 64
  ipv4 : ∀ s ∈ i.ipv4.getD [], GoString.Plain s
  ipv6 : ∀ s ∈ i.ipv6.getD [], GoString.Plain s
  mtu : -2 ^ 31 ≤ i.mtu ∧ i.mtu < 2 ^ 31

/-- The texts of a key, within `ssh_keys`. -/
structure SSHKeyInfo.Fits (k : SSHKeyInfo) : Prop where
  type : k.type.Fits 50
  publicKey : k.publicKey.Plain
  comment : k.comment.Fits 255
  fingerprint : k.fingerprint.Fits 255

end Agent

namespace Server

open Agent (GoFloat GoString)

variable (E : Env)

/-- The state between two transactions, the device without two open alerts of one type. -/
structure Sane (w : World) : Prop extends World.Clean w where
  alerts : ∀ ty, ¬ Duplicated w ty

/-- Handled and committed without an exception, from every sane state. -/
def Commits (x : Server Unit) : Prop :=
  ∀ w, Sane w → ∃ w', (x >>= fun _ => commit E) w = (.ok (), w')

/-- The payload can be encoded, is read as it was set, and raises no exception: in a sane state none at
    all, in any state none but the database's. -/
def Agree (p : Agent.Payload) : Prop :=
  ∃ data, p.encode = some data ∧ Reads E p data ∧ Commits E (handlerFor E p.type data) ∧
    Act.RaisesOnly FromDatabase (handlerFor E p.type data)

/-- The values that agree: finite numbers, UTF-8 without NUL, nothing wider than its column or longer
    than what a handler keeps, integers of the column's width, no nil slice, a usable clock, and an id
    of a command that is empty or a UUID. -/
def Sendable : Agent.Payload → Prop
  | .telemetry d => FiniteTelemetry d ∧ -2 ^ 63 ≤ d.uptimeSecs ∧ d.uptimeSecs < 2 ^ 63
  | .software d => ∃ ps, d.packages = some ps ∧ ∀ p ∈ ps, p.Fits
  | .event d => d.eventType.Fits 50 ∧ d.source.Fits 255 ∧ d.message.Fits 2048 ∧
      (d.rawData ≠ [] → E.dumpsLength (.obj d.rawData) ≤ 4096 ∧ (Json.obj d.rawData).plain = true)
  | .ntp d => (d.offsetMs.isFinite ∧ d.estimatedOffsetMs.isFinite) ∧ d.clockUsable = true
  | .network d => ∃ is, d.interfaces = some is ∧ ∀ i ∈ is, i.Fits
  | .sshKeys d => ∃ ks, d.keys = some ks ∧ ∀ k ∈ ks, k.Fits
  | .agentInfo d => d.version.Fits 50
  | .commandResult d => d.commandId = [] ∨ d.commandId.valid ∧ (Uuid.parse d.commandId.text).isSome ∧
      d.output.Plain ∧ -2 ^ 31 ≤ d.exitCode ∧ d.exitCode < 2 ^ 31

variable {E}

/-! ## Columns -/

section Columns

variable {D : Driver} (hD : D.Exact)
include hD

/-- A `String(n)` takes texts without a NUL, up to n characters. -/
theorem accepts_string {s : GoString} {n : Nat} {b : Bool} :
    D.accepts ⟨.string n, b⟩ s.encode = true ↔ PlainText s.text ∧ s.text.length ≤ n :=
  hD.string n s.text

/-- A `Text` takes any length. -/
theorem accepts_text {s : GoString} {b : Bool} :
    D.accepts ⟨.text, b⟩ s.encode = true ↔ PlainText s.text := hD.text s.text

/-- A text that was left out is stored as nothing. -/
theorem accepts_optional {s : GoString} {n : Nat} :
    D.accepts (nullable (.string n)) (optionalText s) = true ↔ PlainText s.text ∧ s.text.length ≤ n := by
  rw [optionalText]
  cases s with
  | nil =>
    refine iff_of_true rfl ⟨?_, Nat.zero_le _⟩
    rw [PlainText]
    decide
  | cons r rs => exact hD.string n _

theorem accepts_texts {texts : Option (List GoString)} :
    D.accepts (nullable .stringArray) (storedTexts texts) = true ↔
      ∀ s ∈ texts.getD [], PlainText (GoString.text s) := by
  have hmap : (texts.getD []).map GoString.encode = ((texts.getD []).map GoString.text).map Json.str := by
    rw [List.map_map]
    rfl
  have h := hD.stringArray ((texts.getD []).map GoString.text)
  rw [← hmap] at h
  refine h.trans ⟨fun hall s hs => hall _ (List.mem_map_of_mem hs), fun hall t ht => ?_⟩
  obtain ⟨s, hs, rfl⟩ := List.mem_map.mp ht
  exact hall s hs

/-- A column of numbers takes what is stored. -/
theorem accepts_stored {v : Json} (h : Stored v) : D.accepts (nullable .float) v = true := by
  rw [Driver.accepts]
  split
  · rfl
  · rename_i hnone
    obtain ⟨x, hx⟩ := h.resolve_left hnone
    exact hD.float v x hx

end Columns

/-! ## Rows -/

theorem package_accepted_iff (hD : E.driver.Exact) {dev : Uuid} {p : Agent.SoftwarePackage} :
    RowAccepted E (softwareRow dev) p.encode ↔
      (PlainText p.name.text ∧ p.name.text.length ≤ 500) ∧
        (PlainText p.version.text ∧ p.version.text.length ≤ 100) ∧
        PlainText p.latestVersion.text ∧ p.latestVersion.text.length ≤ 100 := by
  have hrow : ∀ id, E.driver.acceptsRow (.software ⟨id, dev, p.name.encode, optionalText p.version,
      .bool p.updateAvailable, optionalText p.latestVersion⟩) = true ↔
      (PlainText p.name.text ∧ p.name.text.length ≤ 500) ∧
        (PlainText p.version.text ∧ p.version.text.length ≤ 100) ∧
        PlainText p.latestVersion.text ∧ p.latestVersion.text.length ≤ 100 := by
    intro id
    have hflag : E.driver.accepts (nullable .boolean) (.bool p.updateAvailable) = true := hD.boolean _
    simp only [Driver.acceptsRow, Row.columns, List.all_cons, List.all_nil, Bool.and_eq_true, hflag,
      accepts_optional hD, required, accepts_string hD, and_true, true_and]
  constructor
  · exact fun h => (hrow 0).mp (h 0 _ (softwareRow_encode dev 0 p))
  · intro h id r hr
    rw [softwareRow_encode] at hr
    obtain rfl := Except.ok.inj hr
    exact (hrow id).mpr h

theorem interface_accepted_iff (hD : E.driver.Exact) {dev : Uuid} {i : Agent.NetworkInterface} :
    RowAccepted E (networkRow dev) i.encode ↔
      (PlainText i.name.text ∧ i.name.text.length ≤ 255) ∧
        (PlainText i.macAddress.text ∧ i.macAddress.text.length ≤ 64) ∧
        (∀ s ∈ i.ipv4.getD [], PlainText (GoString.text s)) ∧
        (∀ s ∈ i.ipv6.getD [], PlainText (GoString.text s)) ∧ -2 ^ 31 ≤ i.mtu ∧ i.mtu < 2 ^ 31 := by
  have hrow : ∀ id, E.driver.acceptsRow (.network ⟨id, dev, i.name.encode, i.macAddress.encode,
      storedTexts i.ipv4, storedTexts i.ipv6, .bool i.isUp, .int i.mtu⟩) = true ↔
      (PlainText i.name.text ∧ i.name.text.length ≤ 255) ∧
        (PlainText i.macAddress.text ∧ i.macAddress.text.length ≤ 64) ∧
        (∀ s ∈ i.ipv4.getD [], PlainText (GoString.text s)) ∧
        (∀ s ∈ i.ipv6.getD [], PlainText (GoString.text s)) ∧ -2 ^ 31 ≤ i.mtu ∧ i.mtu < 2 ^ 31 := by
    intro id
    have hflag : E.driver.accepts (nullable .boolean) (.bool i.isUp) = true := hD.boolean _
    have hmtu : E.driver.accepts (nullable .integer) (.int i.mtu) = true ↔
        -2 ^ 31 ≤ i.mtu ∧ i.mtu < 2 ^ 31 := hD.integer _
    have hmac : E.driver.accepts (nullable (.string 64)) i.macAddress.encode = true ↔
        PlainText i.macAddress.text ∧ i.macAddress.text.length ≤ 64 := accepts_string hD
    simp only [Driver.acceptsRow, Row.columns, List.all_cons, List.all_nil, Bool.and_eq_true, hflag, hmtu,
      hmac, accepts_texts hD, required, accepts_string hD, and_true, true_and]
  constructor
  · exact fun h => (hrow 0).mp (h 0 _ (networkRow_encode dev 0 i))
  · intro h id r hr
    rw [networkRow_encode] at hr
    obtain rfl := Except.ok.inj hr
    exact (hrow id).mpr h

theorem key_accepted_iff (hD : E.driver.Exact) {dev : Uuid} {k : Agent.SSHKeyInfo} :
    RowAccepted E (sshKeyRow dev) k.encode ↔
      (PlainText k.type.text ∧ k.type.text.length ≤ 50) ∧ PlainText k.publicKey.text ∧
        (PlainText k.fingerprint.text ∧ k.fingerprint.text.length ≤ 255) ∧
        PlainText k.comment.text ∧ k.comment.text.length ≤ 255 := by
  have hrow : ∀ id, E.driver.acceptsRow (.sshKey ⟨id, dev, k.type.encode, k.publicKey.encode,
      k.fingerprint.encode, optionalText k.comment⟩) = true ↔
      (PlainText k.type.text ∧ k.type.text.length ≤ 50) ∧ PlainText k.publicKey.text ∧
        (PlainText k.fingerprint.text ∧ k.fingerprint.text.length ≤ 255) ∧
        PlainText k.comment.text ∧ k.comment.text.length ≤ 255 := by
    intro id
    simp only [Driver.acceptsRow, Row.columns, List.all_cons, List.all_nil, Bool.and_eq_true,
      accepts_optional hD, required, accepts_string hD, accepts_text hD, and_true]
  constructor
  · exact fun h => (hrow 0).mp (h 0 _ (sshKeyRow_encode dev 0 k))
  · intro h id r hr
    rw [sshKeyRow_encode] at hr
    obtain rfl := Except.ok.inj hr
    exact (hrow id).mpr h

/-! ## Commits -/

/-- What is left to a commit is the rows that wait. -/
theorem commit_iff {w : World} (hdevice : deviceAccepted E w.device w.loaded = true) :
    (∃ w', commit E w = (.ok (), w')) ↔ w.pending.all E.driver.acceptsRow = true := by
  have hflush : flushAccepted E w = w.pending.all E.driver.acceptsRow := by
    rw [flushAccepted, hdevice, Bool.and_true]
  cases hrows : w.pending.all E.driver.acceptsRow with
  | true => exact iff_of_true ⟨_, commit_accepted E (hflush.trans hrows)⟩ rfl
  | false =>
    refine iff_of_false ?_ (by simp)
    rintro ⟨w', hw'⟩
    rw [commit_refused E (hflush.trans hrows)] at hw'
    cases hw'

/-- A handler that returns and leaves nothing to flush is committed. -/
theorem committed_of_settled {x : Server Unit} {w w' : World} (hrun : x w = (.ok (), w'))
    (h : w'.Settled) : ∃ w'', (x >>= fun _ => commit E) w = (.ok (), w'') := by
  rw [Act.bind_of_ok hrun, commit_settled E h]
  exact ⟨_, rfl⟩

/-- A sane session of a device that has just connected. -/
theorem sane_start (db : Db) (device : Device) (h : db.alerts = []) : Sane (.start db device) where
  toClean := World.start_clean db device
  alerts ty hdup := by
    have htwo := hdup.2
    rw [openAlerts, show (World.start db device).db.alerts = [] from h] at htwo
    exact absurd htwo (by simp)

/-- What does not touch alerts keeps the device from having two. -/
theorem not_duplicated_of_eq {w w' : World} (hs : Sane w) (hid : w'.device.id = w.device.id)
    (hmaintenance : w'.device.maintenanceMode = w.device.maintenanceMode)
    (halerts : w'.db.alerts = w.db.alerts) (ty : AlertType) : ¬ Duplicated w' ty := by
  have hsame : Duplicated w' ty ↔ Duplicated w ty := by
    rw [Duplicated, Duplicated, openAlerts, openAlerts, hid, hmaintenance, halerts]
  exact mt hsame.mp (hs.alerts ty)

/-- On a device without two open alerts of the type, `create_alert` returns. -/
theorem createAlert_returns {w : World} (h : w.Settled) {ty : AlertType} (hdup : ¬ Duplicated w ty)
    (severity : Severity) (message : String) :
    ∃ w', createAlert E ty severity message w = (.ok (), w') ∧ Kept [ty] w w' := by
  cases createAlert_judged (E := E) h ty severity message with
  | raised hbad _ _ _ _ => exact absurd hbad hdup
  | returned _ w' hrun hk => exact ⟨w', hrun, hk⟩

/-! ## Telemetry -/

/-- The row of a metric: its numbers are finite, so only the uptime can be out of range. -/
theorem metric_accepted_iff (hD : E.driver.Exact) {m : DeviceMetric} {n : Int}
    (hstored : ∀ cv ∈ (Row.metric m).columns, cv.1.type = .float → Stored cv.2)
    (huptime : m.uptimeSecs = .int n) :
    E.driver.acceptsRow (.metric m) = true ↔ -2 ^ 63 ≤ n ∧ n < 2 ^ 63 := by
  rw [← hD.bigInteger n, Driver.acceptsRow, List.all_eq_true]
  constructor
  · intro h
    have hcol := h (nullable .bigInteger, m.uptimeSecs) (by simp [Row.columns])
    rw [huptime] at hcol
    exact hcol
  · intro h cv hcv
    have hcase : cv = (nullable .bigInteger, m.uptimeSecs) ∨ cv.1 = nullable .float := by
      simp only [Row.columns, List.mem_cons, List.not_mem_nil, or_false] at hcv
      rcases hcv with rfl | rfl | rfl | rfl | rfl | rfl | rfl | rfl | rfl | rfl | rfl | rfl | rfl <;>
        simp
    rcases hcase with rfl | hfloat
    · rw [huptime]
      exact h
    · have hvalue := accepts_stored hD (hstored cv hcv (by rw [hfloat]; rfl))
      rwa [hfloat]

/-- Telemetry commits exactly when the uptime fits 64 bits. -/
theorem telemetry_commits_iff (hD : E.driver.Exact) {d : Agent.TelemetryData} {data : Json}
    (hdata : d.encode = some data) :
    Commits E (handleTelemetry E data) ↔ -2 ^ 63 ≤ d.uptimeSecs ∧ d.uptimeSecs < 2 ^ 63 := by
  constructor
  · intro h
    have hs := sane_start Db.empty (.sample 1) rfl
    obtain ⟨m, hm, hread, hstored⟩ := telemetry_read hdata (E.uuid4 0) 0 1
    obtain ⟨hrefused, -⟩ := handleTelemetry_run (E := E) hs.toClean hm
    rw [← metric_accepted_iff hD hstored hread.uptimeSecs]
    by_contra hrow
    obtain ⟨w', hrun, -⟩ := hrefused (by simpa using hrow)
    obtain ⟨w'', hcommits⟩ := h _ hs
    rw [Act.bind_of_error hrun] at hcommits
    cases hcommits
  · intro huptime w hs
    obtain ⟨m, hm, hread, hstored⟩ := telemetry_read hdata (E.uuid4 w.drawn) w.clock w.device.id
    have hrow := (metric_accepted_iff hD hstored hread.uptimeSecs).mpr huptime
    have hrun := (handleTelemetry_run (E := E) hs.toClean hm).2 hrow
    have hcpu : Stored m.cpuPercent := hstored (nullable .float, _) (by simp [Row.columns]) rfl
    have hram : Stored m.ramPercent := hstored (nullable .float, _) (by simp [Row.columns]) rfl
    have hdisk : Stored m.diskPercent := hstored (nullable .float, _) (by simp [Row.columns]) rfl
    have htemp : Stored m.cpuTemp := hstored (nullable .float, _) (by simp [Row.columns]) rfl
    have hset : (measured w m).Settled := ⟨hs.pending, rfl⟩
    have hdup : ∀ ty, ¬ Duplicated (measured w m) ty := not_duplicated_of_eq hs rfl rfl rfl
    cases evaluateMetrics_judged (E := E) hset hcpu hram hdisk htemp with
    | raised hbad _ _ _ _ => exact absurd hbad (by simp [Overloaded, hdup])
    | returned _ w₁ heval hk =>
      obtain ⟨-, fields, rfl, hc, hr, hd⟩ := metricOf_fields hm
      rw [hc] at hcpu
      rw [hr] at hram
      rw [hd] at hdisk
      obtain ⟨w₂, hres, hset₂⟩ := autoResolveAlerts_run (E := E) hk.settled w.device.id hcpu hram hdisk
      exact committed_of_settled (hrun.trans ((Act.bind_of_ok heval).trans hres)) hset₂

/-! ## Lists -/

/-- Every item is a dict, so all of them become rows. -/
theorem added_eq_self {ok : Json → Bool} (hdict : ∀ x, ok x = true → isDict x = true) :
    ∀ {xs : List Json}, (∀ x ∈ xs, ok x = true) → added ok xs = xs := by
  intro xs
  induction xs with
  | nil => exact fun _ => rfl
  | cons x xs ih =>
    intro h
    have hx := h x List.mem_cons_self
    rw [added, if_pos (hdict x hx), if_pos hx, ih fun y hy => h y (List.mem_cons_of_mem _ hy)]

/-- A full replace that comes to its end is committed exactly if the database takes the rows. -/
theorem replace_commits_iff {x : Server Unit} {row : Uuid → Json → Except PyErr Row} {w w' : World}
    {xs : List Json} {rs : List Row} {k : Nat} (hb : Builder row) (hbuilt : Built E row k xs rs)
    (hrun : x w = (.ok (), w')) (hpending : w'.pending = rs)
    (hdevice : w'.device.agentVersion = w'.loaded.agentVersion) :
    (∃ w'', (x >>= fun _ => commit E) w = (.ok (), w'')) ↔ ∀ x ∈ xs, RowAccepted E row x := by
  have hacc : deviceAccepted E w'.device w'.loaded = true := by
    rw [deviceAccepted, hdevice]
    simp
  rw [Act.bind_of_ok hrun, commit_iff hacc, hpending, hbuilt.accepted_iff hb]

/-- A loop over dicts returns, and its rows wait. -/
theorem addAll_returns {row : Uuid → Json → Except PyErr Row} (hb : Builder row) {xs : List Json}
    (hdict : ∀ x ∈ xs, isDict x = true) (w : World) :
    ∃ rs n, Built E row w.drawn xs rs ∧
      addAll E row xs w = (.ok (), { w with pending := w.pending ++ rs, drawn := n }) := by
  obtain ⟨rs, n, hbuilt, hout⟩ := addAll_rows (E := E) hb xs w
  rw [added_eq_self (fun _ h => h) hdict] at hbuilt
  refine ⟨rs, n, hbuilt, ?_⟩
  cases hrun : addAll E row xs w with
  | mk out w' =>
    rw [hrun] at hout
    cases out with
    | ok u => exact congrArg (Prod.mk (Except.ok ())) hout
    | error e =>
      obtain ⟨x, hx, hnot⟩ := (addAll_raises_iff hb xs w).mp ⟨e, by rw [hrun]⟩
      rw [hdict x hx] at hnot
      cases hnot

/-- A handler is committed for every list whose items are taken, if it is committed in a sane state
    exactly for the rows that the database takes. -/
theorem commits_iff_of_rows {α : Type} {x : Server Unit} {row : Uuid → Uuid → Json → Except PyErr Row}
    {f : α → Json} {ys : List α} {P : α → Prop}
    (hone : ∀ w, Sane w → ((∃ w', (x >>= fun _ => commit E) w = (.ok (), w')) ↔
      ∀ v ∈ ys.map f, RowAccepted E (row w.device.id) v))
    (hitem : ∀ dev y, RowAccepted E (row dev) (f y) ↔ P y) : Commits E x ↔ ∀ y ∈ ys, P y := by
  have hrows : ∀ dev, (∀ v ∈ ys.map f, RowAccepted E (row dev) v) ↔ ∀ y ∈ ys, P y := fun dev => by
    rw [List.forall_mem_map]
    exact forall₂_congr fun y _ => hitem dev y
  constructor
  · intro h
    have hs := sane_start Db.empty (.sample 1) rfl
    exact (hrows _).mp ((hone _ hs).mp (h _ hs))
  · exact fun h w hs => (hone w hs).mpr ((hrows _).mpr h)

/-- A full replace of a list of dicts. -/
theorem replaced_iff {α : Type} {x : Server Unit} {row : Uuid → Uuid → Json → Except PyErr Row}
    {f : α → Json} {ys : List α} (base : World → Db) (hb : ∀ dev, Builder (row dev))
    (hdict : ∀ y, isDict (f y) = true)
    (hx : ∀ w, w.Settled →
      x w = addAll E (row w.device.id) (ys.map f) (beforeLoop w (base w) w.device)) (w : World)
    (hs : Sane w) : (∃ w', (x >>= fun _ => commit E) w = (.ok (), w')) ↔
      ∀ v ∈ ys.map f, RowAccepted E (row w.device.id) v := by
  have hall : ∀ v ∈ ys.map f, isDict v = true := by
    intro v hv
    obtain ⟨y, -, rfl⟩ := List.mem_map.mp hv
    exact hdict y
  obtain ⟨rs, n, hbuilt, hloop⟩ := addAll_returns (E := E) (hb w.device.id) hall
    (beforeLoop w (base w) w.device)
  refine replace_commits_iff (hb w.device.id) hbuilt ((hx w hs.toSettled).trans hloop) ?_ ?_
  · show w.pending ++ rs = rs
    rw [hs.pending, List.nil_append]
  · show w.device.agentVersion = w.loaded.agentVersion
    rw [hs.loaded]

/-- An inventory commits exactly when each row fits. -/
theorem software_commits_iff (hD : E.driver.Exact) {d : Agent.SoftwareInventoryData}
    {ps : List Agent.SoftwarePackage} (hps : d.packages = some ps) :
    Commits E (handleSoftware E d.encode) ↔
      ∀ p ∈ ps, (PlainText p.name.text ∧ p.name.text.length ≤ 500) ∧
        (PlainText p.version.text ∧ p.version.text.length ≤ 100) ∧
        PlainText p.latestVersion.text ∧ p.latestVersion.text.length ≤ 100 := by
  refine commits_iff_of_rows (replaced_iff (fun w => deleteSoftware w.device.id w.db)
    builder_softwareRow (fun _ => rfl) fun w h => ?_) fun _ _ => package_accepted_iff hD
  rw [handleSoftware_eq h, items, packages_encode hps]
  rfl

theorem sshKeys_commits_iff (hD : E.driver.Exact) {d : Agent.SSHKeysData} {ks : List Agent.SSHKeyInfo}
    (hks : d.keys = some ks) :
    Commits E (handleSshKeys E d.encode) ↔
      ∀ k ∈ ks, (PlainText k.type.text ∧ k.type.text.length ≤ 50) ∧ PlainText k.publicKey.text ∧
        (PlainText k.fingerprint.text ∧ k.fingerprint.text.length ≤ 255) ∧
        PlainText k.comment.text ∧ k.comment.text.length ≤ 255 := by
  refine commits_iff_of_rows (replaced_iff (fun w => deleteSshKeys w.device.id w.db)
    builder_sshKeyRow (fun _ => rfl) fun w h => ?_) fun _ _ => key_accepted_iff hD
  rw [handleSshKeys_eq h, items, keys_encode hks]
  rfl

theorem network_commits_iff (hD : E.driver.Exact) {d : Agent.NetworkInfoData}
    {is : List Agent.NetworkInterface} (his : d.interfaces = some is) :
    Commits E (handleNetworkInfo E d.encode) ↔
      ∀ i ∈ is, (PlainText i.name.text ∧ i.name.text.length ≤ 255) ∧
        (PlainText i.macAddress.text ∧ i.macAddress.text.length ≤ 64) ∧
        (∀ s ∈ i.ipv4.getD [], PlainText (GoString.text s)) ∧
        (∀ s ∈ i.ipv6.getD [], PlainText (GoString.text s)) ∧ -2 ^ 31 ≤ i.mtu ∧ i.mtu < 2 ^ 31 := by
  have hitem : ∀ (dev : Uuid) (i : Agent.NetworkInterface), RowAccepted E (networkRow dev) i.encode ↔ _ :=
    fun _ _ => interface_accepted_iff hD
  refine commits_iff_of_rows (fun w hs => ?_) hitem
  -- No interface that the agent encodes makes the handler raise; so all of them are built.
  have hok : ∀ v ∈ is.map Agent.NetworkInterface.encode, interfaceOk v = true := by
    intro v hv
    obtain ⟨i, -, rfl⟩ := List.mem_map.mp hv
    have hlist : addressList i.encode "ipv4" = .ok (storedTexts i.ipv4) := by
      unfold addressList Agent.NetworkInterface.encode
      simp [Json.getD, Agent.lookup_field, Bind.bind, Except.bind, Pure.pure, Except.pure,
        orEmpty_encodeSlice]
    rw [interfaceOk, hlist]
    rfl
  let w₀ := beforeLoop w (deleteNetwork w.device.id w.db) (seen w.clock w.device)
  obtain ⟨rs, n, hbuilt, hout⟩ := addInterfaces_rows (E := E) w.device.id
    (is.map Agent.NetworkInterface.encode) (none, none) w₀
  have hdict : ∀ x, interfaceOk x = true → isDict x = true := fun x hx => by
    by_contra hnot
    rw [isDict_of_interfaceOk (by simpa using hnot)] at hx
    cases hx
  rw [added_eq_self hdict hok] at hbuilt
  have hrun := handleNetworkInfo_eq (E := E) hs.toSettled (interfaces_encode his)
  cases hloop : addInterfaces E w.device.id (none, none) (is.map Agent.NetworkInterface.encode) w₀ with
  | mk out w₁ =>
    rw [hloop] at hout
    cases out with
    | error e =>
      obtain ⟨v, hv, hnot⟩ := (addInterfaces_raises_iff w.device.id
        (is.map Agent.NetworkInterface.encode) (none, none) w₀).mp ⟨e, by rw [hloop]⟩
      rw [hok v hv] at hnot
      cases hnot
    | ok chosen =>
      have hw₁ : w₁ = { w₀ with pending := w₀.pending ++ rs, drawn := n } := hout
      have hret : handleNetworkInfo E d.encode w =
          (.ok (), { w₁ with device := withAddress chosen w₁.device }) :=
        hrun.trans (Act.bind_of_ok hloop)
      refine replace_commits_iff (builder_networkRow _) hbuilt hret ?_ ?_
      · show w₁.pending = rs
        rw [hw₁]
        show w.pending ++ rs = rs
        rw [hs.pending, List.nil_append]
      · show (withAddress chosen w₁.device).agentVersion = w₁.loaded.agentVersion
        rw [hw₁]
        show (withAddress chosen (seen w.clock w.device)).agentVersion = w.loaded.agentVersion
        rw [hs.loaded, withAddress]
        split
        · rfl
        · rfl

/-! ## Events and NTP -/

/-- The row of an event whose texts are not cut. -/
theorem event_accepted_iff (h : Documented E) {id : Uuid} {t : Nat} {dev : Uuid} {d : Agent.EventData}
    (hshort : ShortRawData E d) (hsource : d.source.text.length ≤ maxEventSourceLen)
    (hmessage : d.message.text.length ≤ maxEventMessageLen) {ev : Event}
    (hev : eventOf E id t dev d.encode = .ok ev) :
    E.driver.acceptsRow (.event ev) = true ↔
      (PlainText d.eventType.text ∧ d.eventType.text.length ≤ 50) ∧
        (PlainText d.source.text ∧ d.source.text.length ≤ 255) ∧ PlainText d.message.text ∧
        (d.rawData ≠ [] → (Json.obj d.rawData).plain = true) := by
  rw [eventOf_encode h.str] at hev
  obtain rfl := Except.ok.inj hev
  have htype : E.driver.accepts (required (.string 50)) d.eventType.encode = true ↔
      PlainText d.eventType.text ∧ d.eventType.text.length ≤ 50 := accepts_string h.driver
  have htext : E.driver.accepts (required .text) (.str (cut maxEventMessageLen d.message.text)) = true ↔
      PlainText d.message.text := by
    rw [cut_eq_iff.mpr hmessage]
    exact h.driver.text _
  -- An empty source is stored as NULL, which every nullable column takes.
  have hfrom : E.driver.accepts (nullable (.string 255))
      (((if d.source.text = "" then none else some (cut maxEventSourceLen d.source.text)).map
        Json.str).getD .null) = true ↔ PlainText d.source.text ∧ d.source.text.length ≤ 255 := by
    rw [cut_eq_iff.mpr hsource]
    by_cases hempty : d.source.text = ""
    · rw [if_pos hempty, hempty]
      refine iff_of_true rfl ⟨?_, Nat.zero_le _⟩
      rw [PlainText]
      decide
    · rw [if_neg hempty]
      exact h.driver.string 255 _
  have hraw : E.driver.accepts (nullable .jsonb)
      (boundedRawData E (if d.rawData.isEmpty then .null else .obj d.rawData)) = true ↔
        (d.rawData ≠ [] → (Json.obj d.rawData).plain = true) := by
    rw [(rawData_read_iff h.mark).mpr hshort]
    cases hfields : d.rawData with
    | nil => exact iff_of_true rfl fun hne => absurd rfl hne
    | cons kv rest =>
      have hne : d.rawData ≠ [] := by
        rw [hfields]
        exact List.cons_ne_nil _ _
      have hbound := hshort hne
      rw [hfields] at hbound
      refine (h.jsonb _ hbound).trans ⟨fun hplain _ => hplain, fun hplain => hplain (List.cons_ne_nil _ _)⟩
  simp only [Driver.acceptsRow, Row.columns, List.all_cons, List.all_nil, Bool.and_eq_true, htype, hfrom,
    htext, hraw, and_true]

/-- A session without Redis counts no events. -/
theorem event_commits_iff (h : Documented E) {d : Agent.EventData} (hshort : ShortRawData E d)
    (hsource : d.source.text.length ≤ maxEventSourceLen)
    (hmessage : d.message.text.length ≤ maxEventMessageLen) :
    Commits E (handleEvent E d.encode) ↔
      (PlainText d.eventType.text ∧ d.eventType.text.length ≤ 50) ∧
        (PlainText d.source.text ∧ d.source.text.length ≤ 255) ∧ PlainText d.message.text ∧
        (d.rawData ≠ [] → (Json.obj d.rawData).plain = true) := by
  have hobj : ∃ fields, d.encode = .obj fields := ⟨_, rfl⟩
  obtain ⟨fields, hfields⟩ := hobj
  constructor
  · intro hcommits
    -- An empty database will do: there the event is the only row that could be refused.
    have hs := sane_start Db.empty (.sample 1) rfl
    have hev := eventOf_encode h.str (E.uuid4 0) 0 1 d
    rw [← event_accepted_iff h hshort hsource hmessage hev]
    by_contra hrow
    rw [hfields] at hev
    have hrefused := (reportEvent_run (E := E) hs.toSettled hev).1 (by simpa using hrow)
    rw [← hfields] at hrefused
    obtain ⟨w'', hw''⟩ := hcommits _ hs
    rw [Act.bind_of_error (show handleEvent E d.encode (.start Db.empty (.sample 1)) = _ from hrefused)]
      at hw''
    cases hw''
  · intro hfits w hs
    obtain ⟨redis, hrun⟩ := handleEvent_eq (E := E) w d.encode
    let w₀ : World := { w with redis := redis }
    have hset : w₀.Settled := ⟨hs.pending, hs.loaded⟩
    cases hlimited : eventLimited w with
    | true =>
      rw [hlimited, if_pos rfl] at hrun
      exact committed_of_settled hrun hset
    | false =>
      rw [hlimited, if_neg Bool.false_ne_true] at hrun
      obtain ⟨ev, hev⟩ : ∃ ev, eventOf E (E.uuid4 w.drawn) w.clock w.device.id d.encode = .ok ev :=
        ⟨_, eventOf_encode h.str _ _ _ d⟩
      have hrow := (event_accepted_iff h hshort hsource hmessage hev).mpr hfits
      rw [hfields] at hev
      obtain ⟨effs, hreport⟩ := (reportEvent_run (E := E) (w := w₀) hset hev).2 hrow
      rw [← hfields] at hreport
      have hrun := hrun.trans hreport
      split at hrun
      -- A crash report creates an alert; it raises over duplicates, of which a sane state has none.
      · have hdup : ¬ Duplicated (reported w₀ ev effs) .crash :=
          not_duplicated_of_eq hs rfl rfl rfl .crash
        obtain ⟨w', hcreate, hk⟩ := createAlert_returns (E := E) (w := reported w₀ ev effs)
          ⟨hs.pending, hs.loaded⟩ hdup .critical ("Crash detected: " ++ ev.message)
        exact committed_of_settled (hrun.trans hcreate) hk.settled
      · exact committed_of_settled hrun ⟨hs.pending, hs.loaded⟩

theorem ntp_commits {d : Agent.NTPStatusData} {data : Json} (hdata : d.encode = some data) :
    Commits E (handleNtp E data) := by
  intro w hs
  obtain ⟨-, -, -, hdefault⟩ := ntp_read hdata
  obtain ⟨offset, q, -, hoffset, hfloat⟩ := ntp_offset hdata
  have hgt : offset.gt E.settings.alertNtpOffsetMs.value =
      .ok (decide (E.settings.alertNtpOffsetMs.value < |q|)) := by
    rw [Json.gt, number_of_toFloat hfloat]
  have hdrift : ∃ w₁, checkDrift E offset w = (.ok (), w₁) ∧ w₁.Settled := by
    rw [checkDrift, hgt, Act.ofExcept_ok_bind]
    split
    · rw [hfloat, Act.ofExcept_ok_bind]
      obtain ⟨w₁, hrun, hk⟩ := createAlert_returns (E := E) hs.toSettled (hs.alerts .timeDrift) .warning
        ("NTP offset is " ++ fixedText 1 |q| ++ "ms (threshold: " ++
          E.settings.alertNtpOffsetMs.text ++ "ms)")
      exact ⟨w₁, hrun, hk.settled⟩
    · exact ⟨w, rfl, hs.toSettled⟩
  obtain ⟨w₁, hrun₁, hset₁⟩ := hdrift
  -- the flag that is read is `True`, so open alerts are resolved
  have hclock : ∃ w₂, checkClock E w.device.id data offset w₁ = (.ok (), w₂) ∧ w₂.Settled := by
    rw [checkClock, hdefault, Act.ofExcept_ok_bind, if_pos (show (Json.bool true).truthy = true from rfl), now,
      Act.read_bind, execute_settled hset₁]
    exact ⟨_, rfl, hset₁.pending, hset₁.loaded⟩
  obtain ⟨w₂, hrun₂, hset₂⟩ := hclock
  refine committed_of_settled ?_ hset₂
  rw [handleNtp, Act.read_bind, hoffset, Act.ofExcept_ok_bind, Act.bind_of_ok hrun₁, hrun₂]

/-! ## Versions and results -/

/-- The version a device has is not written again. -/
theorem agentInfo_commits_iff (h : Documented E) {d : Agent.AgentInfoData}
    (hlength : d.version.text.length ≤ 50) :
    Commits E (handleAgentInfo E d.encode) ↔ PlainText d.version.text := by
  let after (w : World) : World := { w with device := seen w.clock (withVersion E d.version.encode w.device) }
  have hrun : ∀ w, handleAgentInfo E d.encode w = (.ok (), after w) := by
    intro w
    rw [handleAgentInfo, version_encode, Act.ofExcept_ok_bind]
    rfl
  have hcommit : ∀ w, Sane w → ((∃ w', (handleAgentInfo E d.encode >>= fun _ => commit E) w = (.ok (), w')) ↔
      deviceAccepted E (after w).device (after w).loaded = true) := by
    intro w hs
    rw [Act.bind_of_ok (hrun w)]
    constructor
    · rintro ⟨w', hw'⟩
      by_contra hdevice
      have hrefused : deviceAccepted E (after w).device (after w).loaded = false := by simpa using hdevice
      have hflush : flushAccepted E (after w) = false := by
        rw [flushAccepted, hrefused, Bool.and_false]
      rw [commit_refused E hflush] at hw'
      cases hw'
    · intro hdevice
      refine (commit_iff hdevice).mpr ?_
      rw [show (after w).pending = [] from hs.pending]
      rfl
  -- The column is checked only if the version differs from the one the row has.
  have haccepted : ∀ w, Sane w → (deviceAccepted E (after w).device (after w).loaded = true ↔
      d.version = [] ∨ w.device.agentVersion = some d.version.text ∨ PlainText d.version.text) := by
    intro w hs
    rw [deviceAccepted, Bool.or_eq_true, beq_iff_eq, show (after w).loaded = w.device from hs.loaded]
    by_cases hempty : d.version = []
    · refine iff_of_true (.inl ?_) (.inl hempty)
      show (seen w.clock (withVersion E d.version.encode w.device)).agentVersion = _
      rw [hempty]
      rfl
    · have hversion : (after w).device.agentVersion = some d.version.text := by
        show (withVersion E d.version.encode w.device).agentVersion = _
        rw [withVersion_encode h.str hempty, cut_eq_iff.mpr hlength]
      have hcolumn : E.driver.accepts (nullable (.string 50))
          (((some d.version.text).map Json.str).getD .null) = true ↔
            PlainText d.version.text ∧ d.version.text.length ≤ 50 := h.driver.string 50 _
      rw [hversion, hcolumn, and_iff_left hlength, eq_comm]
      exact (or_iff_right hempty).symm
  constructor
  · intro hcommits
    -- A device that has no version yet: there the version is written, unless it is empty.
    have hs := sane_start Db.empty (.sample 1) rfl
    rcases (haccepted _ hs).mp ((hcommit _ hs).mp (hcommits _ hs)) with hempty | hsame | hplain
    · rw [hempty, PlainText]
      decide
    · cases hsame
    · exact hplain
  · exact fun hplain w hs => (hcommit w hs).mpr ((haccepted w hs).mpr (.inr (.inr hplain)))

/-- A result of a command that the session finds is stored, and of any other nothing is. -/
theorem commandResult_run {w : World} (hs : w.Settled) {d : Agent.CommandResultData} {id : Uuid}
    (hid : Uuid.parse d.commandId.text = some id) :
    handleCommandResult E d.encode w =
      (match w.db.commands.find? fun c => c.id == id with
        | none => pure ()
        | some c => do
          executeWith E [(nullable .integer, .int d.exitCode), (nullable .text, d.output.encode)]
            (updateCommand c.id (resultValues (.int d.exitCode) d.output.encode w.clock))
          if c.commandType = "sync_time" ∧ (Json.int d.exitCode).isZero then
            execute E (resolveAlerts w.device.id .timeDrift w.clock)
          else pure () : Server Unit) w := by
  obtain ⟨hget, hcode, houtput⟩ := result_encode d
  have hne : d.commandId ≠ [] := by
    rintro hempty
    rw [hempty] at hid
    cases hid
  have htruthy : d.commandId.encode.truthy = true := bne_iff_ne.mpr (mt text_eq_empty.mp hne)
  rw [handleCommandResult, Act.read_bind, hget, Act.ofExcept_ok_bind, if_pos htruthy,
    toUuid_encode_of_some hid, Act.ofExcept_ok_bind, Act.bind_of_ok (select_settled hs _)]
  cases w.db.commands.find? fun c => c.id == id with
  | none => rfl
  | some c =>
    rw [hcode, houtput]
    rfl

/-- A result commits exactly when the exit code fits 32 bits and the output has no NUL. -/
theorem commandResult_commits_iff (hD : E.driver.Exact) {d : Agent.CommandResultData} {id : Uuid}
    (hid : Uuid.parse d.commandId.text = some id) :
    Commits E (handleCommandResult E d.encode) ↔
      (-2 ^ 31 ≤ d.exitCode ∧ d.exitCode < 2 ^ 31) ∧ PlainText d.output.text := by
  have hvalues : ([(nullable .integer, .int d.exitCode), (nullable .text, d.output.encode)] :
      List (Column × Json)).all (fun cv => E.driver.accepts cv.1 cv.2) = true ↔
        (-2 ^ 31 ≤ d.exitCode ∧ d.exitCode < 2 ^ 31) ∧ PlainText d.output.text := by
    rw [List.all_cons, List.all_cons, List.all_nil, Bool.and_true, Bool.and_eq_true]
    exact and_congr (hD.integer _) (hD.text _)
  rw [← hvalues]
  constructor
  · intro hcommits
    -- A database that has the command: for an unknown id nothing would be written.
    have hs := sane_start { Db.empty with commands := [.sample id 1 .sent] } (.sample 1) rfl
    obtain ⟨w', hw'⟩ := hcommits _ hs
    by_contra hrefused
    have hrun := commandResult_run (E := E) hs.toSettled hid
    have hfound : (World.start { Db.empty with commands := [.sample id 1 .sent] }
        (.sample 1)).db.commands.find? (fun c => c.id == id) = some (.sample id 1 .sent) := by
      show List.find? _ [Command.sample id 1 .sent] = _
      rw [List.find?_cons_of_pos (by simp [Command.sample])]
    rw [hfound] at hrun
    have herror := executeWith_settled (E := E) hs.toSettled
      [(nullable .integer, .int d.exitCode), (nullable .text, d.output.encode)]
      (updateCommand (Command.sample id 1 .sent).id (resultValues (.int d.exitCode) d.output.encode 0))
    rw [if_neg hrefused] at herror
    rw [Act.bind_of_error (hrun.trans (Act.bind_of_error herror))] at hw'
    cases hw'
  · intro haccepted w hs
    have hrun := commandResult_run (E := E) hs.toSettled hid
    cases hfind : w.db.commands.find? fun c => c.id == id with
    | none =>
      rw [hfind] at hrun
      exact committed_of_settled hrun hs.toSettled
    | some c =>
      rw [hfind] at hrun
      have hwrite := executeWith_settled (E := E) hs.toSettled
        [(nullable .integer, .int d.exitCode), (nullable .text, d.output.encode)]
        (updateCommand c.id (resultValues (.int d.exitCode) d.output.encode w.clock))
      rw [if_pos haccepted] at hwrite
      have hrun := hrun.trans (Act.bind_of_ok hwrite)
      split at hrun
      · let db := updateCommand c.id (resultValues (.int d.exitCode) d.output.encode w.clock) w.db
        have hset : World.Settled { w with db := db } := ⟨hs.pending, hs.loaded⟩
        exact committed_of_settled (hrun.trans (execute_settled hset _)) ⟨hs.pending, hs.loaded⟩
      · exact committed_of_settled hrun ⟨hs.pending, hs.loaded⟩

/-! ## Payload by payload -/

/-- A payload that is always encoded. -/
theorem agree_iff {p : Agent.Payload} {data : Json} (hencode : p.encode = some data) :
    Agree E p ↔ Reads E p data ∧ Commits E (handlerFor E p.type data) ∧
      Act.RaisesOnly FromDatabase (handlerFor E p.type data) := by
  constructor
  · rintro ⟨data', hdata, h⟩
    obtain rfl : data = data' := Option.some.inj (hencode.symm.trans hdata)
    exact h
  · exact fun h => ⟨data, hencode, h⟩

theorem telemetry_agree_iff (hD : E.driver.Exact) (d : Agent.TelemetryData) :
    Agree E (.telemetry d) ↔ Sendable E (.telemetry d) := by
  rw [Sendable, ← telemetry_finite_iff]
  constructor
  · rintro ⟨data, hdata, -, hcommits, -⟩
    exact ⟨⟨data, hdata⟩, (telemetry_commits_iff hD hdata).mp hcommits⟩
  · rintro ⟨⟨data, hdata⟩, huptime⟩
    refine ⟨data, hdata, fun id t dev => ?_, (telemetry_commits_iff hD hdata).mpr huptime,
      telemetry_raises hdata⟩
    obtain ⟨m, hm, hread, -⟩ := telemetry_read hdata id t dev
    exact ⟨m, hm, hread⟩

theorem software_agree_iff (hD : E.driver.Exact) (d : Agent.SoftwareInventoryData) :
    Agree E (.software d) ↔ Sendable E (.software d) := by
  rw [agree_iff rfl, software_read_iff, Sendable]
  constructor
  · rintro ⟨⟨ps, hps, hvalid⟩, hcommits, -⟩
    have hfits := (software_commits_iff hD hps).mp hcommits
    refine ⟨ps, hps, fun p hp => ?_⟩
    obtain ⟨hname, hversion, hlatest⟩ := hvalid p hp
    obtain ⟨⟨hname₀, hname₁⟩, ⟨hversion₀, hversion₁⟩, hlatest₀, hlatest₁⟩ := hfits p hp
    exact ⟨⟨⟨hname, hname₀⟩, hname₁⟩, ⟨⟨hversion, hversion₀⟩, hversion₁⟩, ⟨⟨hlatest, hlatest₀⟩, hlatest₁⟩⟩
  · rintro ⟨ps, hps, hfits⟩
    refine ⟨⟨ps, hps, fun p hp => ?_⟩, (software_commits_iff hD hps).mpr fun p hp => ?_,
      software_raises hps⟩
    · exact ⟨(hfits p hp).name.1.1, (hfits p hp).version.1.1, (hfits p hp).latestVersion.1.1⟩
    · obtain ⟨hname, hversion, hlatest⟩ := hfits p hp
      exact ⟨⟨hname.1.2, hname.2⟩, ⟨hversion.1.2, hversion.2⟩, hlatest.1.2, hlatest.2⟩

theorem sshKeys_agree_iff (hD : E.driver.Exact) (d : Agent.SSHKeysData) :
    Agree E (.sshKeys d) ↔ Sendable E (.sshKeys d) := by
  rw [agree_iff rfl, sshKeys_read_iff, Sendable]
  constructor
  · rintro ⟨⟨ks, hks, hvalid⟩, hcommits, -⟩
    have hfits := (sshKeys_commits_iff hD hks).mp hcommits
    refine ⟨ks, hks, fun k hk => ?_⟩
    obtain ⟨htype, hkey, hcomment, hfinger⟩ := hvalid k hk
    obtain ⟨⟨htype₀, htype₁⟩, hkey₀, ⟨hfinger₀, hfinger₁⟩, hcomment₀, hcomment₁⟩ := hfits k hk
    exact ⟨⟨⟨htype, htype₀⟩, htype₁⟩, ⟨hkey, hkey₀⟩, ⟨⟨hcomment, hcomment₀⟩, hcomment₁⟩,
      ⟨⟨hfinger, hfinger₀⟩, hfinger₁⟩⟩
  · rintro ⟨ks, hks, hfits⟩
    refine ⟨⟨ks, hks, fun k hk => ?_⟩, (sshKeys_commits_iff hD hks).mpr fun k hk => ?_, sshKeys_raises hks⟩
    · exact ⟨(hfits k hk).type.1.1, (hfits k hk).publicKey.1, (hfits k hk).comment.1.1,
        (hfits k hk).fingerprint.1.1⟩
    · obtain ⟨htype, hkey, hcomment, hfinger⟩ := hfits k hk
      exact ⟨⟨htype.1.2, htype.2⟩, hkey.2, ⟨hfinger.1.2, hfinger.2⟩, hcomment.1.2, hcomment.2⟩

theorem network_agree_iff (hD : E.driver.Exact) (d : Agent.NetworkInfoData) :
    Agree E (.network d) ↔ Sendable E (.network d) := by
  rw [agree_iff rfl, network_read_iff, Sendable]
  constructor
  · rintro ⟨⟨is, his, hvalid⟩, hcommits, -⟩
    have hfits := (network_commits_iff hD his).mp hcommits
    refine ⟨is, his, fun i hi => ?_⟩
    obtain ⟨hname, hmac, hipv4, hipv6⟩ := hvalid i hi
    obtain ⟨⟨hname₀, hname₁⟩, ⟨hmac₀, hmac₁⟩, hipv4₀, hipv6₀, hmtu⟩ := hfits i hi
    exact ⟨⟨⟨hname, hname₀⟩, hname₁⟩, ⟨⟨hmac, hmac₀⟩, hmac₁⟩, fun s hs => ⟨hipv4 s hs, hipv4₀ s hs⟩,
      fun s hs => ⟨hipv6 s hs, hipv6₀ s hs⟩, hmtu⟩
  · rintro ⟨is, his, hfits⟩
    refine ⟨⟨is, his, fun i hi => ?_⟩, (network_commits_iff hD his).mpr fun i hi => ?_, network_raises his⟩
    · exact ⟨(hfits i hi).name.1.1, (hfits i hi).macAddress.1.1, fun s hs => ((hfits i hi).ipv4 s hs).1,
        fun s hs => ((hfits i hi).ipv6 s hs).1⟩
    · obtain ⟨hname, hmac, hipv4, hipv6, hmtu⟩ := hfits i hi
      exact ⟨⟨hname.1.2, hname.2⟩, ⟨hmac.1.2, hmac.2⟩, fun s hs => (hipv4 s hs).2,
        fun s hs => (hipv6 s hs).2, hmtu⟩

theorem event_agree_iff (h : Documented E) (d : Agent.EventData) :
    Agree E (.event d) ↔ Sendable E (.event d) := by
  have hread : Reads E (.event d) d.encode ↔
      d.eventType.valid ∧ (d.source.valid = true ∧ d.source.text.length ≤ maxEventSourceLen) ∧
        (d.message.valid = true ∧ d.message.text.length ≤ maxEventMessageLen) ∧ ShortRawData E d :=
    ⟨fun hreads => (event_read_iff h.str h.mark).mp (hreads 0 0 0), fun hok _ _ _ =>
      (event_read_iff h.str h.mark).mpr hok⟩
  rw [agree_iff rfl, hread, Sendable]
  constructor
  · rintro ⟨⟨htype, ⟨hsource, hsource₁⟩, ⟨hmessage, hmessage₁⟩, hshort⟩, hcommits, -⟩
    obtain ⟨⟨htype₀, htype₁⟩, ⟨hsource₀, hsource₂⟩, hmessage₀, hraw⟩ :=
      (event_commits_iff h hshort hsource₁ hmessage₁).mp hcommits
    exact ⟨⟨⟨htype, htype₀⟩, htype₁⟩, ⟨⟨hsource, hsource₀⟩, hsource₂⟩, ⟨⟨hmessage, hmessage₀⟩, hmessage₁⟩,
      fun hne => ⟨hshort hne, hraw hne⟩⟩
  · rintro ⟨htype, hsource, hmessage, hraw⟩
    have hshort : ShortRawData E d := fun hne => (hraw hne).1
    -- the column of the source is one character narrower than what is kept of it
    have hkept : d.source.text.length ≤ maxEventSourceLen := Nat.le_succ_of_le hsource.2
    exact ⟨⟨htype.1.1, ⟨hsource.1.1, hkept⟩, ⟨hmessage.1.1, hmessage.2⟩, hshort⟩,
      (event_commits_iff h hshort hkept hmessage.2).mpr ⟨⟨htype.1.2, htype.2⟩, ⟨hsource.1.2, hsource.2⟩,
        hmessage.1.2, fun hne => (hraw hne).2⟩, event_raises h.str d⟩

theorem ntp_agree_iff (d : Agent.NTPStatusData) : Agree E (.ntp d) ↔ Sendable E (.ntp d) := by
  rw [Sendable, ← ntp_finite_iff]
  constructor
  · rintro ⟨data, hdata, hread, -⟩
    exact ⟨⟨data, hdata⟩, (ntp_reads_iff hdata).mp hread⟩
  · rintro ⟨⟨data, hdata⟩, husable⟩
    exact ⟨data, hdata, (ntp_reads_iff hdata).mpr husable, ntp_commits hdata, ntp_raises hdata⟩

theorem agentInfo_agree_iff (h : Documented E) (d : Agent.AgentInfoData) :
    Agree E (.agentInfo d) ↔ Sendable E (.agentInfo d) := by
  rw [agree_iff rfl, agentInfo_read_iff h.str, Sendable]
  constructor
  · rintro ⟨⟨hvalid, hlength⟩, hcommits, -⟩
    exact ⟨⟨hvalid, (agentInfo_commits_iff h hlength).mp hcommits⟩, hlength⟩
  · rintro ⟨⟨hvalid, hplain⟩, hlength⟩
    exact ⟨⟨hvalid, hlength⟩, (agentInfo_commits_iff h hlength).mpr hplain, agentInfo_raises d⟩

theorem commandResult_agree_iff (hD : E.driver.Exact) (d : Agent.CommandResultData) :
    Agree E (.commandResult d) ↔ Sendable E (.commandResult d) := by
  rw [agree_iff rfl, commandResult_read_iff, Sendable]
  constructor
  · rintro ⟨hempty | ⟨hvalid, hparse, hout⟩, hcommits, -⟩
    · exact .inl hempty
    · obtain ⟨id, hid⟩ := Option.isSome_iff_exists.mp hparse
      obtain ⟨hcode, hplain⟩ := (commandResult_commits_iff hD hid).mp hcommits
      exact .inr ⟨hvalid, hparse, ⟨hout, hplain⟩, hcode⟩
  · rintro (hempty | ⟨hvalid, hparse, ⟨hout, hplain⟩, hcode⟩)
    · refine ⟨.inl hempty, fun w hs => ?_, commandResult_raises (.inl hempty)⟩
      have hrun : handleCommandResult E d.encode w = (.ok (), w) := by
        obtain ⟨hget, -⟩ := result_encode d
        rw [handleCommandResult, Act.read_bind, hget, Act.ofExcept_ok_bind, hempty]
        rfl
      exact committed_of_settled hrun hs.toSettled
    · obtain ⟨id, hid⟩ := Option.isSome_iff_exists.mp hparse
      exact ⟨.inr ⟨hvalid, hparse, hout⟩, (commandResult_commits_iff hD hid).mpr ⟨hcode, hplain⟩,
        commandResult_raises (.inr hparse)⟩

/-- **Agent and server agree on a payload** exactly if its numbers are finite and fit their columns, its
    texts are UTF-8 without NUL, within their columns and within what the handler keeps, its list is not
    nil, the clock is usable, and the id of its command is empty or a UUID.

    The eight payloads one by one, each in two steps: what is read is what was set (`…_read_iff`), and the rows are
    accepted (`…_commits_iff`).  `Documented` is what Python and PostgreSQL document, and no more. -/
theorem payloads_agree_iff (h : Documented E) (p : Agent.Payload) : Agree E p ↔ Sendable E p := by
  cases p with
  | telemetry d => exact telemetry_agree_iff h.driver d
  | software d => exact software_agree_iff h.driver d
  | event d => exact event_agree_iff h d
  | ntp d => exact ntp_agree_iff d
  | network d => exact network_agree_iff h.driver d
  | sshKeys d => exact sshKeys_agree_iff h.driver d
  | agentInfo d => exact agentInfo_agree_iff h d
  | commandResult d => exact commandResult_agree_iff h.driver d

/-! ## Running it -/

end Server

/-- The driver of `Env.sample`, which takes a document only without NUL. -/
def Driver.plain : Driver where
  encodes ty v := match ty with
    | .jsonb => v.plain
    | ty => Driver.typed.encodes ty v
  float_number v h := Driver.typed.float_number v h

/-- `Env.sample` with that driver. -/
def Env.plain : Env := { Env.sample with driver := .plain }

theorem plainText_iff {s : String} : (!s.toList.contains '\x00') = true ↔ PlainText s := by
  simp [PlainText]

theorem driver_plain_exact : Driver.plain.Exact where
  float v x hx := by simp only [Driver.plain, Driver.typed, hx]
  bigInteger n := decide_eq_true_iff
  integer n := decide_eq_true_iff
  boolean _ := rfl
  string n s := by
    show (decide (s.length ≤ n) && !s.toList.contains '\x00') = true ↔ _
    rw [Bool.and_eq_true, decide_eq_true_iff, plainText_iff, and_comm]
  text s := plainText_iff
  stringArray ss := by
    simp only [Driver.plain, Driver.typed]
    rw [List.all_map, List.all_eq_true]
    exact forall₂_congr fun s _ => plainText_iff

theorem documented_plain : Documented Env.plain where
  str _ := rfl
  mark := Nat.zero_le _
  driver := driver_plain_exact
  jsonb _ _ := Iff.rfl

namespace Server

/-- A clock that is off by some seconds, and one that is off by ten minutes: `CollectNTPStatus`. -/
def ntpStatus (offsetMs : Rat) (usable : Bool) : Agent.NTPStatusData where
  isSynced := false
  offsetMs := .finite offsetMs
  ntpServer := .ofString "pool.ntp.org:123"
  systemTime := .ofString "2026-01-01T00:00:00Z"
  estimatedOffsetMs := .finite offsetMs
  clockUsable := usable

/-- A crash of `sshd`, the message of which is `message`. -/
def crashReport (message : String) : Agent.EventData where
  eventType := .ofString "crash"
  source := .ofString "sshd"
  message := .ofString message
  rawData := [("unit", .str "sshd.service"), ("code", .int 255)]

/-- The exit code of a process on Windows has 32 bits without a sign. -/
def exited (code : Int) : Agent.CommandResultData where
  commandId := .ofString "00000000000000000000000000000014"
  exitCode := code
  output := .ofString "done"

theorem payloads_agree_seconds :
    Agree Env.plain (.ntp (ntpStatus 2000 true)) ∧ Agree Env.plain (.event (crashReport "segfault")) ∧
      ¬ Agree Env.plain (.event (crashReport "seg\x00fault")) ∧ Agree Env.plain (.commandResult (exited 1)) ∧
      ¬ Agree Env.plain (.commandResult (exited 3221225477)) := by
  refine ⟨(payloads_agree_iff documented_plain _).mpr ⟨⟨rfl, rfl⟩, rfl⟩,
    (payloads_agree_iff documented_plain _).mpr ?_, fun h => ?_,
    (payloads_agree_iff documented_plain _).mpr (.inr ?_), fun h => ?_⟩
  · refine ⟨⟨⟨rfl, ?_⟩, by decide⟩, ⟨⟨rfl, ?_⟩, by decide⟩, ⟨⟨rfl, ?_⟩, by decide⟩, fun _ =>
      ⟨Nat.zero_le _, by decide⟩⟩
    · exact plainText_iff.mp (by decide)
    · exact plainText_iff.mp (by decide)
    · exact plainText_iff.mp (by decide)
  · have hplain := ((payloads_agree_iff documented_plain _).mp h).2.2.1.1.2
    exact absurd (plainText_iff.mpr hplain) (by decide)
  · exact ⟨rfl, by decide, ⟨rfl, plainText_iff.mp (by decide)⟩, by decide⟩
  · rcases (payloads_agree_iff documented_plain _).mp h with hempty | ⟨-, -, -, -, hcode⟩
    · cases hempty
    · exact absurd hcode (by decide)

/-- An unusable clock is read as usable, and an empty software inventory cannot be read. -/
theorem false_and_nil_disagree :
    (∀ data, (ntpStatus 600000 false).encode = some data →
      data.getD "clock_usable" (.bool true) = .ok (.bool true)) ∧
      ¬ Agree Env.plain (.ntp (ntpStatus 600000 false)) ∧
      (Agent.SoftwareInventoryData.encode ⟨none⟩).getD "packages" (.arr []) = .ok .null ∧
      (handleSoftware Env.plain (Agent.SoftwareInventoryData.encode ⟨none⟩) connected).1 =
        .error .typeError ∧
      ¬ Agree Env.plain (.software ⟨none⟩) := by
  refine ⟨fun data hdata => ?_, fun h => ?_, rfl, rfl, fun h => ?_⟩
  · obtain ⟨-, -, -, hdefault⟩ := ntp_read hdata
    exact hdefault
  · have husable := ((ntp_agree_iff _).mp h).2
    cases husable
  · obtain ⟨ps, hps, -⟩ := (software_agree_iff driver_plain_exact _).mp h
    cases hps

end Server

end Dtsys
