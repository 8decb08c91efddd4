/-
  What the AGENT makes of a message of the server (`transport/messages.go`, the `switch` of
  `Client.readLoop`).

  Every message is a JSON object with a `type`; the agent decodes its `data` into a Go struct and
  starts a handler.  A `data` that does not decode is dropped silently: `call` is `none`.  The keys
  the server writes are spelled as the struct tags, so Go's case folding plays no part.

  * `decodesAny`, `decodeInt`, `decodeIntField` — what `encoding/json` takes for a Go `any`, an `int`
    and a field of a struct: an absent key leaves the zero value and so does `null`, and anything but an
    integer of 64 bits makes the whole `data` fail.
  * `decodeConfigUpdate` — the three intervals of a `config_update`.
  * `call` — the `switch`: which handler a message starts, and with what.

  The handlers themselves run in goroutines of their own and are modelled where they matter
  (`Dtsys.Agent.ConfigUpdates`, `Dtsys.System.Redelivery`).
-/
import Dtsys.Server.Session

namespace Dtsys

namespace Agent

/-! ## `encoding/json` -/

mutual

/-- A value decodes into `interface{}` if its numbers fit a `float64`. -/
def decodesAny : Json → Bool
  | .int n => decide (|(n : Rat)| < Json.floatLimit)
  | .arr xs => decodeElems xs
  | .obj fields => decodeFields fields
  | _ => true

/-- The same for the elements of an array. -/
def decodeElems : List Json → Bool
  | [] => true
  | x :: xs => decodesAny x && decodeElems xs

/-- The same for the values of an object. -/
def decodeFields : List (String × Json) → Bool
  | [] => true
  | (_, x) :: rest => decodesAny x && decodeFields rest

end

/-- Into an `int`: an integer literal of 64 bits; `null` leaves the zero. -/
def decodeInt : Json → Option Int
  | .null => some 0
  | .int n => if -2 ^ 63 ≤ n ∧ n < 2 ^ 63 then some n else none
  | _ => none

/-- An `int` field of a struct; an absent key leaves the zero. -/
def decodeIntField (fields : List (String × Json)) (name : String) : Option Int :=
  decodeInt ((fields.lookup name).getD .null)

/-- `IncomingCommand`. -/
structure IncomingCommand where
  commandId : String
  commandType : String
  payload : List (String × Json)

/-- `ConfigUpdateData`. -/
structure ConfigUpdateData where
  telemetryIntervalSecs : Int
  softwareScanIntervalM : Int
  eventPollIntervalSecs : Int
  deriving DecidableEq, Repr

/-- `json.Unmarshal(data, &update)`. -/
def decodeConfigUpdate : Json → Option ConfigUpdateData
  | .null => some ⟨0, 0, 0⟩
  | .obj fields => do
    let telemetry ← decodeIntField fields "telemetry_interval_secs"
    let software ← decodeIntField fields "software_scan_interval_m"
    let events ← decodeIntField fields "event_poll_interval_secs"
    pure ⟨telemetry, software, events⟩
  | _ => none

/-! ## The `switch` -/

/-- What a message makes the agent do. -/
inductive Call
  | onCommand (cmd : IncomingCommand)
  | onConfig (update : ConfigUpdateData)
  /-- `c.Send(Message{Type: "pong"})` -/
  | sendPong
  /-- nothing: the server acknowledged a message -/
  | ack

/-- The handler a message is delivered to; `none` if its `data` does not decode. -/
def call : ServerMessage → Option Call
  | .command id commandType payload =>
    if decodeFields payload then some (.onCommand ⟨id.str, commandType, payload⟩) else none
  | .screenshotRequest id => some (.onCommand ⟨id.str, "screenshot", []⟩)
  | .configUpdate data => (decodeConfigUpdate data).map .onConfig
  | .ping => some .sendPong
  | .ack => some .ack

end Agent

end Dtsys
