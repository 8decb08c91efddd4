/-
  ATOMICITY OF A MESSAGE: what stays in the database when `MessageHandler.handle` raises.

  * the full-replace inventories delete first, so a malformed payload spoils them;
  * telemetry, crash events and NTP reports have flushed their row when a duplicated alert makes
    `create_alert` raise;
  * the other handlers raise before their first write, or not at all.

  `handle_atomic_iff` puts the conditions of the handlers together: the message is atomic exactly
  when it does not tear.
-/
import Dtsys.Server.Inventories
import Dtsys.Server.Reports

namespace Dtsys

namespace Server

variable {E : Env} {w : World}

/-! ## The handlers that do not tear -/

/-- The frame of a computation that writes nothing the session would commit. -/
def sameView : Act.Frame World where
  rel w w' := w'.view = w.view
  refl _ := rfl
  trans h h' := h'.trans h

theorem sameView_handleProcessList (data : Json) :
    Act.Within sameView (handleProcessList E data) := by
  refine Act.Within.bind (Act.Within.read _) fun _ => Act.Within.bind (Act.Within.read _) fun _ => ?_
  refine Act.Within.ite (Act.Within.pure _) (Act.Within.bind (Act.Within.ofExcept _) fun _ => ?_)
  exact Act.Within.bind (Act.Within.read _) fun _ => Act.Within.modify fun _ => rfl

theorem sameView_handleScreenshotResult (data : Json) :
    Act.Within sameView (handleScreenshotResult E data) := by
  refine Act.Within.bind (Act.Within.read _) fun _ => Act.Within.bind (Act.Within.read _) fun _ => ?_
  refine Act.Within.ite (Act.Within.pure _) (Act.Within.bind (Act.Within.ofExcept _) fun _ => ?_)
  refine Act.Within.bind (Act.Within.ofExcept _) fun _ => ?_
  refine Act.Within.ite (Act.Within.pure _) (Act.Within.bind (Act.Within.read _) fun _ => ?_)
  refine Act.Within.bind (Act.Within.ofExcept _) fun _ => ?_
  refine Act.Within.bind (Act.Within.ofExcept _) fun _ => ?_
  exact Act.Within.bind (Act.Within.ofExcept _) fun _ => Act.Within.modify fun _ => rfl

/-- `_handle_agent_info` raises only on a payload that is no dict, before it sets anything. -/
theorem not_spoils_handleAgentInfo (hc : w.Clean) (data : Json) :
    ¬ Spoils E (handleAgentInfo E data) w := by
  cases data with
  | obj fields => exact not_spoils_of_returns (E := E) (show handleAgentInfo E (.obj fields) w = _ from rfl)
  | _ => exact not_spoils_of_same hc rfl

/-! ## `handle` -/

/-- The messages that leave something behind when they raise. -/
def Tears (E : Env) (w : World) (message : Json) : Prop :=
  match dispatched message with
  | some (.telemetry, data) => TornTelemetry E w data
  | some (.softwareInventory, data) =>
    TornItems E (softwareRow w.device.id) isDict
      (∃ r ∈ w.committed.software, r.deviceId = w.device.id) (items data "packages")
  | some (.eventReport, data) => TornEvent E w data
  | some (.ntpStatus, data) => TornNtp E w data
  | some (.networkInfo, data) =>
    ∃ v, data.getD "interfaces" (.arr []) = .ok v ∧
      TornItems E (networkRow w.device.id) interfaceOk (NetworkWritten w) v.iter
  | some (.sshKeys, data) =>
    TornItems E (sshKeyRow w.device.id) isDict
      (∃ r ∈ w.committed.sshKeys, r.deviceId = w.device.id) (items data "keys")
  | _ => False

/-- Which messages spoil something: those that tear. -/
theorem spoils_handle_iff (hc : w.Clean) (hf : Fresh E w) (message : Json) :
    Spoils E (handle E message) w ↔ Tears E w message := by
  have hnever : ∀ {x : Server Unit}, ¬ Spoils E x w → (Spoils E x w ↔ False) :=
    fun h => ⟨h, False.elim⟩
  rw [Tears]
  cases hd : dispatched message with
  | none => exact hnever (not_spoils_of_same hc (by rw [handle_undispatched hd]))
  | some p =>
    obtain ⟨ty, data⟩ := p
    rw [handle_dispatched hd]
    cases ty with
    | telemetry => exact spoils_handleTelemetry_iff hc hf data
    | softwareInventory => exact spoils_handleSoftware_iff hc hf data
    | eventReport => exact spoils_handleEvent_iff hc hf data
    | ntpStatus => exact spoils_handleNtp_iff hc hf data
    | networkInfo => exact spoils_handleNetworkInfo_iff hc hf data
    | sshKeys => exact spoils_handleSshKeys_iff hc hf data
    | processList => exact hnever (not_spoils_of_same hc (sameView_handleProcessList data w))
    | screenshotResult => exact hnever (not_spoils_of_same hc (sameView_handleScreenshotResult data w))
    | agentInfo => exact hnever (not_spoils_handleAgentInfo hc data)
    | commandOutput =>
      refine hnever fun hs => ?_
      have ⟨e, he, _⟩ := hs
      exact not_spoils_of_same hc
        (congrArg World.view ((handleCommandOutput_settled hc.toSettled data).2 e he)) hs
    | commandResult =>
      refine hnever fun hs => ?_
      have ⟨e, he, _⟩ := hs
      exact not_spoils_of_same hc
        (congrArg World.view ((handleCommandResult_settled hc.toSettled data).2 e he)) hs

/-- **Atomicity.**  If `handle` raises on a message, the connection's tear-down leaves the database
    as committed before that message, exactly when the message does not tear.

    The handlers delete, flush or write before they look at the rest of the message, and the endpoint swallows what
    they raise, so `get_db` commits.  `Tears` lists, handler by handler, which messages are left half done and with
    a difference; each of the cases is one of the `spoils_…_iff` lemmas. -/
theorem handle_atomic_iff (hc : w.Clean) (hf : Fresh E w) {length : Nat}
    (hlen : length ≤ maxWsMessageBytes) (ws : Socket) (rest : List Incoming) (message : Json) :
    (∀ e, (handle E message w).1 = .error e →
      (getDb E (serveLoop E w.device.id ws (⟨length, some message⟩ :: rest)) w).2.committed =
        w.committed) ↔ ¬ Tears E w message := by
  rw [← spoils_handle_iff hc hf]
  have hcom : (handle E message w).2.committed = w.committed :=
    (handle_spec (E := E) (scoped_unit w.device.id) hc.toSettled message).2
  have hafter : ∀ e, (handle E message w).1 = .error e →
      (getDb E (serveLoop E w.device.id ws (⟨length, some message⟩ :: rest)) w).2.committed =
        if flushAccepted E (handle E message w).2 then (handle E message w).2.view
        else w.committed := by
    intro e he
    rw [← hcom]
    exact teardown_committed hlen rfl (Prod.ext he rfl)
  constructor
  · rintro hall ⟨e, he, hacc, hne⟩
    have hkeep := hall e he
    rw [hafter e he, if_pos hacc] at hkeep
    exact hne hkeep
  · intro hno e he
    rw [hafter e he]
    split
    · rename_i hacc
      by_contra hne
      exact hno ⟨e, he, hacc, hne⟩
    · rfl

/-- A device with one package in its inventory. -/
def onePackage : World :=
  .start { Db.empty with
    devices := [.sample 1]
    software := [⟨5, 1, .str "bash", .str "5.2", .bool false, .null⟩] } (.sample 1)

/-- The ids of the sample have not been drawn before. -/
theorem onePackage_fresh : Fresh Env.sample onePackage := by
  intro k _ r hid hrow
  cases r with
  | software r =>
    obtain rfl : r = ⟨5, 1, .str "bash", .str "5.2", .bool false, .null⟩ := by
      simpa [onePackage, World.start, Db.HasRow] using hrow
    have hnat := congrArg BitVec.toNat hid
    simp only [Row.id, Env.sample, BitVec.toNat_ofNat] at hnat
    rw [show BitVec.toNat (5 : Uuid) = 5 from rfl] at hnat
    omega
  | _ => cases hrow

/-- A malformed id raises before anything is written. -/
theorem handle_atomic_malformed_id :
    onePackage.Clean ∧ Fresh Env.sample onePackage ∧
      ∀ e, (handle Env.sample (clientMessage "command_output" (.obj [("command_id", .str "x")]))
          onePackage).1 = .error e →
        (getDb Env.sample (serveLoop Env.sample 1 7
          [⟨60, some (clientMessage "command_output" (.obj [("command_id", .str "x")]))⟩])
          onePackage).2.committed = onePackage.committed := by
  have hclean : onePackage.Clean := World.start_clean _ _
  refine ⟨hclean, onePackage_fresh, ?_⟩
  exact (handle_atomic_iff hclean onePackage_fresh (by decide) 7 [] _).mpr (fun h => h)

/-- An inventory message without an object for its data raises, and the inventory is gone. -/
theorem software_message_tears :
    ∃ e, (handle Env.sample (clientMessage "software_inventory" .null) onePackage).1 = .error e ∧
      (getDb Env.sample (serveLoop Env.sample 1 7
        [⟨44, some (clientMessage "software_inventory" .null)⟩]) onePackage).2.committed ≠
          onePackage.committed := by
  refine ⟨.attributeError, rfl, fun h => ?_⟩
  have hlen := congrArg (fun db : Db => db.software.length) h
  exact absurd hlen (by decide)

end Server

end Dtsys
