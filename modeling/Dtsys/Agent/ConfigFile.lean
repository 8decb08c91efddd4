/-
  ATOMICITY OF `Apply` (`config/runtime.go`, `Save` and `Load` of `config/config.go`).

  `Apply` changes the configuration in memory, then calls `Save`, which truncates the only copy of
  the file and writes the new text into it.  The file also holds the device's credentials.

  * `SaveRun` — how a call of `Save` goes: every step that may fail, every point at which the process
    may stop.
  * `applyConfig` — what is in memory and in the file after it.
  * `apply_atomic_iff` — exactly when memory and file are both old or both new, as far as each is
    looked at.
  * `load_after` — then `Load` finds the credentials; `load_truncated` — a stop right after the
    truncation makes it fail.

  `toml.Encoder` and `toml.DecodeFile` are parameters: the text of a configuration, and the
  configuration read from a text over the defaults.
-/
import Dtsys.Agent.RuntimeConfig
import Dtsys.Agent.Strings

namespace Dtsys

namespace Agent

/-- The content of a file. -/
abbrev FileBytes := List UInt8

/-! ## `Save` and `Apply` -/

/-- How a call of `Save` goes. -/
inductive SaveRun
  | succeeds
  /-- `os.OpenFile` reports an error; the file has not been touched. -/
  | openFails
  /-- The file was truncated, and writing fails after `n` bytes. -/
  | writeFails (n : Nat)
  /-- `f.Close` fails, which nobody looks at; `n` bytes have reached the file. -/
  | closeFails (n : Nat)
  /-- The process stops before the file is opened. -/
  | stopsBefore
  /-- The process stops when the file has been truncated and `n` bytes are written. -/
  | stopsAfter (n : Nat)
  deriving DecidableEq, Repr

/-- The bytes in the file, if it has been truncated and perhaps not written whole. -/
def SaveRun.reached : SaveRun → Option Nat
  | .writeFails n => some n
  | .closeFails n => some n
  | .stopsAfter n => some n
  | _ => none

/-- `Save` returns an error. -/
def SaveRun.reportsError : SaveRun → Bool
  | .openFails => true
  | .writeFails _ => true
  | _ => false

/-- The process stops. -/
def SaveRun.stops : SaveRun → Bool
  | .stopsBefore => true
  | .stopsAfter _ => true
  | _ => false

variable (encode : Config → FileBytes)

/-- The file after `Save(path, cfg)`. -/
def savedFile (old : FileBytes) (cfg : Config) : SaveRun → FileBytes
  | .succeeds => encode cfg
  | .openFails => old
  | .writeFails n => (encode cfg).take n
  | .closeFails n => (encode cfg).take n
  | .stopsBefore => old
  | .stopsAfter n => (encode cfg).take n

/-- What a call of `Apply` returns. -/
inductive Returned
  | nil
  | error
  /-- it does not: the process has stopped -/
  | never
  deriving DecidableEq, Repr

/-- The configuration in memory and the file it was loaded from. -/
structure Kept where
  memory : Config
  file : FileBytes

/-- `Apply`: memory first, then the file. -/
def applyConfig (s : Kept) (u : ConfigUpdateData) (run : SaveRun) : Returned × Kept :=
  (if run.stops then .never else if run.reportsError then .error else .nil,
    ⟨s.memory.apply u, savedFile encode s.file (s.memory.apply u) run⟩)

/-! ## Atomicity -/

/-- An error leaves memory as it was, and the file holds the old or the new configuration. -/
structure Atomic (s : Kept) (u : ConfigUpdateData) (run : SaveRun) : Prop where
  memory : (applyConfig encode s u run).1 = .error → (applyConfig encode s u run).2.memory = s.memory
  file : (applyConfig encode s u run).2.file = s.file ∨
    (applyConfig encode s u run).2.file = encode (s.memory.apply u)

variable {encode} {s : Kept} {u : ConfigUpdateData} {run : SaveRun}

/-- An error is returned exactly if the run of `Save` reports one. -/
theorem returned_error_iff :
    (applyConfig encode s u run).1 = .error ↔ run.reportsError = true := by
  cases run <;> simp [applyConfig, SaveRun.stops, SaveRun.reportsError]

/-- An update changes nothing exactly if its positive numbers are configured already. -/
theorem config_apply_eq_self_iff (c : Config) (u : ConfigUpdateData) :
    c.apply u = c ↔ ∀ i, 0 < u.get i → u.get i = c.collect.get i := by
  rw [← apply_eq_self_iff]
  constructor
  · exact fun h => congrArg Config.collect h
  · intro h
    show { c with collect := c.collect.apply u } = c
    rw [h]

/-- What a call that has reached the file leaves there. -/
theorem savedFile_reached {old : FileBytes} {cfg : Config} {n : Nat} (h : run.reached = some n) :
    savedFile encode old cfg run = (encode cfg).take n := by
  cases run with
  | writeFails m | closeFails m | stopsAfter m =>
    obtain rfl := Option.some.inj h
    rfl
  | succeeds | openFails | stopsBefore => cases h

/-- A `Save` that has got to no failing step has not written, or has written all. -/
theorem savedFile_not_reached {old : FileBytes} {cfg : Config} (h : run.reached = none) :
    savedFile encode old cfg run = old ∨ savedFile encode old cfg run = encode cfg := by
  cases run with
  | writeFails m | closeFails m | stopsAfter m => cases h
  | succeeds => exact Or.inr rfl
  | openFails | stopsBefore => exact Or.inl rfl

/-- **Applying a configuration is atomic** exactly if an error comes only where there was nothing to
    change, and a file that was truncated has been written to its end — or as far as it went is what
    it was before.

    The file is truncated before it is written, and memory is changed before the file.  The theorem goes through
    every way a `Save` can end, the process stopping in the middle included. -/
theorem apply_atomic_iff (encode : Config → FileBytes) (s : Kept) (u : ConfigUpdateData)
    (run : SaveRun) :
    Atomic encode s u run ↔
      (run.reportsError = true → ∀ i, 0 < u.get i → u.get i = s.memory.collect.get i) ∧
      ∀ n, run.reached = some n → (encode (s.memory.apply u)).length ≤ n ∨
        s.file = (encode (s.memory.apply u)).take n := by
  constructor
  · rintro ⟨hmemory, hfile⟩
    refine ⟨fun herror => ?_, fun n hreached => ?_⟩
    · exact (config_apply_eq_self_iff _ _).mp (hmemory (returned_error_iff.mpr herror))
    · have hleft : (applyConfig encode s u run).2.file = (encode (s.memory.apply u)).take n :=
        savedFile_reached hreached
      rw [hleft] at hfile
      rcases hfile with hold | hnew
      · exact Or.inr hold.symm
      · exact Or.inl (List.take_eq_self_iff _ |>.mp hnew)
  · rintro ⟨herror, hreached⟩
    refine ⟨fun h => (config_apply_eq_self_iff _ _).mpr (herror (returned_error_iff.mp h)), ?_⟩
    rcases hn : run.reached with _ | n
    · exact savedFile_not_reached hn
    · have hleft : (applyConfig encode s u run).2.file = (encode (s.memory.apply u)).take n :=
        savedFile_reached hn
      rw [hleft]
      rcases hreached n hn with hwhole | hold
      · exact Or.inr (List.take_of_length_le hwhole)
      · exact Or.inl hold.symm

/-! ## `Load` -/

/-- Why `Load` fails. -/
inductive LoadError
  /-- `config file not found` -/
  | notFound
  /-- `failed to parse config` -/
  | parse
  /-- `server.url is required in config` -/
  | noServerUrl
  deriving DecidableEq, Repr

/-- `Load`: `decode` reads a text over the defaults; `none`: there is no file. -/
def load (decode : FileBytes → Option Config) : Option FileBytes → Except LoadError Config
  | none => .error .notFound
  | some file =>
    match decode file with
    | none => .error .parse
    | some cfg => if cfg.serverUrl = "" then .error .noServerUrl else .ok cfg

/-- The configuration `Load` starts from. -/
def defaultConfig : Config where
  serverUrl := ""
  enrollmentToken := ""
  deviceId := ""
  apiKey := ""
  collect := ⟨60, 60, 120⟩
  dedupMaxEntries := 50
  excludePatterns := ["event handler.*EOF", "event streamer.*EOF"]
  rateLimitMax := 20
  rateLimitWindowS := 30
  skipTimeCheck := true
  autoUpdate := true
  checkIntervalHours := 6

/-- A file that is decoded and names a server is loaded. -/
theorem load_ok {decode : FileBytes → Option Config} {file : FileBytes} {cfg : Config}
    (h : decode file = some cfg) (hurl : cfg.serverUrl ≠ "") : load decode (some file) = .ok cfg := by
  simp only [load, h]
  exact if_neg hurl

/-- After an atomic call, the credentials are found again. -/
theorem load_after {decode : FileBytes → Option Config}
    (hround : ∀ cfg, decode (encode cfg) = some cfg) (hfile : s.file = encode s.memory)
    (hurl : s.memory.serverUrl ≠ "") (h : Atomic encode s u run) :
    ∃ cfg, load decode (some (applyConfig encode s u run).2.file) = .ok cfg ∧
      cfg.deviceId = s.memory.deviceId ∧ cfg.apiKey = s.memory.apiKey := by
  rcases h.file with hold | hnew
  · refine ⟨s.memory, ?_, rfl, rfl⟩
    rw [hold, hfile]
    exact load_ok (hround _) hurl
  · refine ⟨s.memory.apply u, ?_, rfl, rfl⟩
    rw [hnew]
    exact load_ok (hround _) hurl

/-- A process that stops right after the truncation cannot be started again: the empty file is
    read as the defaults, which name no server. -/
theorem load_truncated {decode : FileBytes → Option Config} (hempty : decode [] = some defaultConfig)
    (s : Kept) (u : ConfigUpdateData) :
    load decode (some (applyConfig encode s u (.stopsAfter 0)).2.file) = .error .noServerUrl := by
  have hfile : (applyConfig encode s u (.stopsAfter 0)).2.file = [] := rfl
  simp only [hfile, load, hempty]
  rfl

/-! ## A full disk -/

/-- A TOML string. -/
def tomlString (t : String) : String :=
  let escaped := t.toList.flatMap fun c =>
    match shortEscape c with
    | some e => ['\\', e]
    | none => if c.toNat < 0x20 ∨ c.toNat = 0x7F then unicodeEscape c.toNat else [c]
  "\"" ++ String.ofList escaped ++ "\""

/-- What `toml.Encoder` writes for a configuration: a table for each struct, indented by two. -/
def tomlText (c : Config) : String :=
  "[server]\n  url = " ++ tomlString c.serverUrl ++
  "\n  enrollment_token = " ++ tomlString c.enrollmentToken ++
  "\n\n[agent]\n  device_id = " ++ tomlString c.deviceId ++
  "\n  api_key = " ++ tomlString c.apiKey ++
  "\n\n[collect]\n  telemetry_interval_secs = " ++ toString c.collect.telemetryIntervalSecs ++
  "\n  software_scan_interval_m = " ++ toString c.collect.softwareScanIntervalM ++
  "\n  event_poll_interval_secs = " ++ toString c.collect.eventPollIntervalSecs ++
  "\n\n[events]\n  dedup_max_entries = " ++ toString c.dedupMaxEntries ++
  "\n  exclude_patterns = [" ++ ", ".intercalate (c.excludePatterns.map tomlString) ++
  "]\n  rate_limit_max = " ++ toString c.rateLimitMax ++
  "\n  rate_limit_window_s = " ++ toString c.rateLimitWindowS ++
  "\n\n[tls]\n  skip_time_check = " ++ toString c.skipTimeCheck ++
  "\n\n[update]\n  auto_update = " ++ toString c.autoUpdate ++
  "\n  check_interval_hours = " ++ toString c.checkIntervalHours ++ "\n"

/-- `toml.NewEncoder(f).Encode(cfg)`, in bytes. -/
def tomlEncode (c : Config) : FileBytes := (tomlText c).toList.flatMap String.utf8EncodeChar

/-- An agent that has registered. -/
def registered : Config :=
  { defaultConfig with serverUrl := "wss://dtsys.example.com"
                       deviceId := "3f2504e0-4f89-41d3-9a0c-0305e82c3301", apiKey := "key" }

/-- The disk is full: the file is truncated, nothing can be written, and `Apply` returns an error.
    Memory has the new interval, the file nothing at all. -/
theorem full_disk_not_atomic :
    (applyConfig tomlEncode ⟨registered, tomlEncode registered⟩ ⟨30, 0, 0⟩ (.writeFails 0)).1 =
        .error ∧
      (applyConfig tomlEncode ⟨registered, tomlEncode registered⟩ ⟨30, 0, 0⟩
        (.writeFails 0)).2.memory.collect.telemetryIntervalSecs = 30 ∧
      (applyConfig tomlEncode ⟨registered, tomlEncode registered⟩ ⟨30, 0, 0⟩
        (.writeFails 0)).2.file = [] ∧
      ¬ Atomic tomlEncode ⟨registered, tomlEncode registered⟩ ⟨30, 0, 0⟩ (.writeFails 0) := by
  refine ⟨rfl, rfl, rfl, fun h => ?_⟩
  have hmemory := congrArg (fun c => c.collect.telemetryIntervalSecs) (h.memory rfl)
  exact absurd hmemory (by decide)

end Agent

end Dtsys
