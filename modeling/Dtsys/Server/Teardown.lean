/-
  THE TEAR-DOWN of a connection whose message raised.

  Three functions decide together what stays in the database.  The handler raises somewhere between
  its writes; the receive loop swallows the exception and RETURNS; `get_db` therefore commits
  whatever the session holds.  Only an error of the database itself undoes the message, because then
  the commit fails too.

  * `teardown_committed` — the committed database after the connection: the session's view if a
    flush of it is accepted, else nothing new.
  * `Spoils x w` — `x` raises and leaves something behind.  `Dtsys.Server.Inventories` and
    `Dtsys.Server.Reports` give the exact condition for each handler.
-/
import Dtsys.Server.Router

namespace Dtsys

/-! ## Rows in the database -/

/-- The primary key of a row. -/
def Row.id : Row → Uuid
  | .command r => r.id
  | .alert r => r.id
  | .metric r => r.id
  | .software r => r.id
  | .network r => r.id
  | .sshKey r => r.id
  | .event r => r.id
  | .uptime r => r.id
  | .audit r => r.id

/-- The row is in its table. -/
def Db.HasRow (db : Db) : Row → Prop
  | .command r => r ∈ db.commands
  | .alert r => r ∈ db.alerts
  | .metric r => r ∈ db.metrics
  | .software r => r ∈ db.software
  | .network r => r ∈ db.network
  | .sshKey r => r ∈ db.sshKeys
  | .event r => r ∈ db.events
  | .uptime r => r ∈ db.uptimeEvents
  | .audit r => r ∈ db.auditLog

namespace Db

/-- An INSERT adds its own row. -/
theorem hasRow_insert_iff (db : Db) (r r' : Row) :
    (db.insert r).HasRow r' ↔ db.HasRow r' ∨ r' = r := by
  cases r <;> cases r' <;> simp [HasRow, insert]

theorem hasRow_insertAll_iff : ∀ (rows : List Row) (db : Db) (r : Row),
    (db.insertAll rows).HasRow r ↔ db.HasRow r ∨ r ∈ rows := by
  intro rows
  induction rows with
  | nil =>
    intro db r
    exact ⟨.inl, fun h => h.resolve_right List.not_mem_nil⟩
  | cons r' rows ih =>
    intro db r
    show ((db.insert r').insertAll rows).HasRow r ↔ _
    rw [ih, hasRow_insert_iff, List.mem_cons, or_assoc]

theorem hasRow_insertAll (rows : List Row) (db : Db) (r : Row) (h : db.HasRow r ∨ r ∈ rows) :
    (db.insertAll rows).HasRow r := (hasRow_insertAll_iff rows db r).mpr h

/-- New rows that were not there make a difference. -/
theorem insertAll_ne_iff {base db : Db} {rows : List Row} (hnew : ∀ r ∈ rows, ¬ db.HasRow r) :
    base.insertAll rows ≠ db ↔ base ≠ db ∨ rows ≠ [] := by
  cases rows with
  | nil => simp [insertAll]
  | cons r rows =>
    refine ⟨fun _ => .inr (by simp), fun _ heq => hnew r List.mem_cons_self ?_⟩
    rw [← heq]
    exact hasRow_insertAll (r :: rows) base r (.inr List.mem_cons_self)

end Db

namespace Server

variable {E : Env} {w : World}

/-! ## The tear-down -/

/-- The values `uuid.uuid4` has still to return are no keys of committed rows. -/
def Fresh (E : Env) (w : World) : Prop :=
  ∀ k, w.drawn ≤ k → ∀ r : Row, r.id = E.uuid4 k → ¬ w.committed.HasRow r

/-- `x` raises, and what it leaves behind can be committed and is not what was there before. -/
def Spoils (E : Env) (x : Server Unit) (w : World) : Prop :=
  ∃ e, (x w).1 = .error e ∧ flushAccepted E (x w).2 = true ∧ (x w).2.view ≠ w.committed

/-- A handler that returns has torn nothing. -/
theorem not_spoils_of_returns {x : Server Unit} {w' : World} (h : x w = (.ok (), w')) :
    ¬ Spoils E x w := by
  rintro ⟨e, he, -⟩
  rw [h] at he
  cases he

/-- Nor has one that leaves what the session sees. -/
theorem not_spoils_of_same {x : Server Unit} (hc : w.Clean) (h : (x w).2.view = w.view) :
    ¬ Spoils E x w := by
  rintro ⟨e, -, -, hne⟩
  rw [h, hc.toSettled.view_eq, hc.db] at hne
  exact hne rfl

/-- What the database refuses is rolled back. -/
theorem not_spoils_of_refused {x : Server Unit} {r : Except PyErr Unit} {w' : World}
    (h : x w = (r, w')) (hacc : flushAccepted E w' = false) : ¬ Spoils E x w := by
  rintro ⟨e, -, hacc', -⟩
  rw [h, hacc] at hacc'
  cases hacc'

/-- A row with a fresh id, flushed by a handler that then raises, stays. -/
theorem spoils_of_row {x : Server Unit} {e : PyErr} {w' : World} {r : Row} (hf : Fresh E w)
    (hid : r.id = E.uuid4 w.drawn) (h : x w = (.error e, w')) (hset : w'.Settled)
    (hrow : w'.db.HasRow r) : Spoils E x w := by
  refine ⟨e, by rw [h], by rw [h]; exact flushAccepted_settled hset, ?_⟩
  rw [h, hset.view_eq]
  intro heq
  rw [heq] at hrow
  exact hf w.drawn le_rfl r hid hrow

/-- The committed database once the connection whose message raised has been torn down. -/
theorem teardown_committed {d : Uuid} {ws : Socket} {frame : Incoming} {rest : List Incoming}
    {message : Json} {e : PyErr} {w' : World} (hlen : frame.length ≤ maxWsMessageBytes)
    (hdec : frame.decoded = some message) (hrun : handle E message w = (.error e, w')) :
    (getDb E (serveLoop E d ws (frame :: rest)) w).2.committed =
      if flushAccepted E w' then w'.view else w'.committed := by
  have hrecv : receive E ws message w = (.error e, w') := Act.bind_of_error hrun
  have hloop : receiveLoop E ws (frame :: rest) w = (.error e, w') := by
    rw [receiveLoop, if_neg (Nat.not_lt.mpr hlen), hdec]
    exact Act.bind_of_error hrecv
  have hserve : serveLoop E d ws (frame :: rest) w = managerDisconnect d w' :=
    Act.bind_of_ok (Act.attempt_of_error hloop)
  have hgetDb : getDb E (serveLoop E d ws (frame :: rest)) w = getDb E (managerDisconnect d) w' := by
    unfold getDb
    rw [hserve]
  rw [hgetDb, getDb_disconnect_committed]

/-- `device.last_seen = now; device.status = "online"`. -/
def seen (t : Nat) (d : Device) : Device := { d with lastSeen := some t, status := .online }

end Server

end Dtsys
