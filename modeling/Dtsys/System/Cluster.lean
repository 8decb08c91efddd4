/-
  SEVERAL SERVER PROCESSES.  The deployment runs two uvicorn workers and a Celery worker; the
  module-level `manager` is a singleton of each PROCESS, so there are as many connection tables as
  processes and one database.

  A device's socket is in the table of the process that accepted it.  `dispatch_command` looks into
  the table of the process that runs it, and no process forwards to another.  So a dispatch reaches
  a connected device exactly when it runs where the device is connected (`dispatch_transparent_iff`);
  the Celery worker accepts no sockets at all, its table is always empty.

  `enter p` is the world of process `p`, and `leave p` gives back what it did; `runIn` runs a request
  between the two.  The request sees its own connections and everybody's database.

  `Transparent` is what a caller expects who knows nothing of processes: a dispatch that passes its checks
  reaches the device's websocket wherever it is.  `dispatch_transparent_iff` says in which processes it does.
-/
import Dtsys.Server.Dispatch

namespace Dtsys

/-- The processes `P` of a deployment: what they share (database, clock, sockets, wire), and the
    `ConnectionManager` of each. -/
structure Cluster (P : Type) where
  shared : World
  tables : P → Manager

namespace Cluster

variable {P : Type}

/-- The world as process `p` sees it. -/
def enter (c : Cluster P) (p : P) : World := { c.shared with manager := c.tables p }

variable [DecidableEq P]

/-- What process `p` leaves behind. -/
def leave (c : Cluster P) (p : P) (w : World) : Cluster P :=
  ⟨w, Function.update c.tables p w.manager⟩

/-- Run something in process `p`. -/
def runIn {α : Type} (c : Cluster P) (p : P) (x : Server α) : Except PyErr α × Cluster P :=
  ((x (c.enter p)).1, c.leave p (x (c.enter p)).2)

omit [DecidableEq P] in
/-- The device has an open websocket in some process: `ws` is one. -/
def Open (c : Cluster P) (d : Uuid) (ws : Socket) : Prop := ∃ q, Server.live (c.enter q) d = some ws

end Cluster

namespace Server

variable {E : Env} {P : Type} [DecidableEq P]

/-- A dispatch in process `p` that passes its checks while the device has an open websocket
    somewhere reaches that websocket, and the command is `sent`. -/
def Transparent (E : Env) (c : Cluster P) (p : P) (d : Uuid) (commandType : String)
    (payload : List (String × Json)) (issuedBy : Option Uuid) (failIfOffline : Bool) : Prop :=
  (∃ ws, c.Open d ws) → Admits E (c.enter p) d commandType payload →
    ∃ cmd ws c', c.runIn p (dispatchCommand E d commandType payload issuedBy failIfOffline) =
        (.ok (cmd, true), c') ∧ c.Open d ws ∧
      c'.shared.wire = c.shared.wire ++ [(ws, .command cmd.id cmd.commandType cmd.payload)] ∧
      cmd.status = .sent ∧ c'.shared.db.commands = c.shared.db.commands ++ [cmd]

/-- **Location transparency** holds of a dispatch exactly when it runs in a process that has the
    device's open websocket in its own table, or no process has one, or it is rejected.

    Each process has a connection table of its own.  Where another process has the websocket, `send_to_device` is
    false and the row ends as `failed` or `pending`, although the device is connected. -/
theorem dispatch_transparent_iff {c : Cluster P} (h : c.shared.Settled) (p : P) (d : Uuid)
    (commandType : String) (payload : List (String × Json)) (issuedBy : Option Uuid)
    (failIfOffline : Bool) :
    Transparent E c p d commandType payload issuedBy failIfOffline ↔
      ((∃ ws, c.Open d ws) → Admits E (c.enter p) d commandType payload →
        (live (c.enter p) d).isSome = true) := by
  have hset : (c.enter p).Settled := ⟨h.pending, h.loaded⟩
  rcases dispatchCommand_run (E := E) hset d commandType payload issuedBy failIfOffline with
    ⟨hadm, hrun⟩ | ⟨hrej, -⟩
  · constructor
    · intro htr hopen _
      obtain ⟨cmd, ws, c', hin, -⟩ := htr hopen hadm
      have hout := congrArg Prod.fst hin
      simp only [Cluster.runIn, hrun] at hout
      exact (Prod.mk.inj (Except.ok.inj hout)).2
    · intro hown hopen hadm'
      obtain ⟨ws, hws⟩ := Option.isSome_iff_exists.mp (hown hopen hadm')
      let row := newCommand E (c.enter p) d commandType payload issuedBy
      obtain ⟨hwire, hcmds⟩ := afterDispatch_live (c := row) hws failIfOffline
      refine ⟨{ row with status := .sent }, ws,
        c.leave p (afterDispatch (c.enter p) row failIfOffline), ?_, ⟨p, hws⟩, hwire, rfl, hcmds⟩
      rw [Cluster.runIn, hrun, hws]
      rfl
  · exact ⟨fun _ _ hadm => absurd hadm hrej, fun _ _ hadm => absurd hadm hrej⟩

/-- Two workers; device 1 is connected to the first one. -/
def twoWorkers : Cluster Bool where
  shared := .start { Db.empty with devices := [.sample 1] } (.sample 1)
  tables := fun p => if p then Manager.empty.register 1 7 ⟨0, "10.0.0.5"⟩ else .empty

theorem twoWorkers_admits (p : Bool) : Admits Env.sample (twoWorkers.enter p) 1 "reboot" [] := by
  cases p <;> exact ⟨by decide, by decide, by decide, rfl⟩

/-- A dispatch in the worker that holds the socket. -/
theorem dispatch_transparent_same_worker :
    twoWorkers.shared.Settled ∧ Transparent Env.sample twoWorkers true 1 "reboot" [] none true := by
  have hset : twoWorkers.shared.Settled := ⟨rfl, rfl⟩
  exact ⟨hset, (dispatch_transparent_iff hset true 1 "reboot" [] none true).mpr fun _ _ => rfl⟩

/-- A dispatch in the other worker: the device is connected, and the command fails. -/
theorem dispatch_fails_other_worker :
    ¬ Transparent Env.sample twoWorkers false 1 "reboot" [] none true := by
  intro htr
  obtain ⟨cmd, ws, c', hin, -⟩ := htr ⟨7, true, rfl⟩ (twoWorkers_admits false)
  have hset : (twoWorkers.enter false).Settled := ⟨rfl, rfl⟩
  rcases dispatchCommand_run (E := Env.sample) hset 1 "reboot" [] none true with
    ⟨-, hrun⟩ | ⟨hrej, -⟩
  · have hout := congrArg Prod.fst hin
    simp only [Cluster.runIn, hrun] at hout
    exact absurd (Prod.mk.inj (Except.ok.inj hout)).2 (by decide)
  · exact hrej (twoWorkers_admits false)

end Server

end Dtsys
