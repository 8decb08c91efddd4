/-
  A STORE with transactions at READ COMMITTED.

  There are the committed values, and for every transaction the values it has written and not yet
  committed.  A transaction reads its own writes and otherwise what is COMMITTED, so a key another
  transaction has inserted and not committed is not there (`read_of_no_write`).

  Keys `κ`, values `ν` and transactions `τ` are arbitrary; two transactions never write one key at
  the same time (the row lock), which is for the users of the store to see to.

  1. `write`, `undo` and `rollback` change what a transaction has written, and nothing that is committed
     (`write_committed`, `undo_committed`, `rollback_committed`).
  2. `commit` publishes the writes of one transaction, key by key, and empties them
     (`commit_committed`, `commit_writes`).
  3. `modify` is an UPDATE of one key: it reads what the transaction sees, so a row that was updated
     twice has both updates in it.
-/
import Mathlib.Logic.Function.Basic

namespace Dtsys

/-- What is committed, and what each transaction has written. -/
structure Store (τ κ ν : Type) where
  committed : κ → Option ν
  writes : τ → κ → Option ν

namespace Store

variable {τ κ ν : Type}

/-- Nothing is there. -/
def empty : Store τ κ ν := ⟨fun _ => none, fun _ _ => none⟩

/-- What transaction `t` sees under `k`. -/
def read (s : Store τ κ ν) (t : τ) (k : κ) : Option ν := (s.writes t k).or (s.committed k)

variable [DecidableEq τ] [DecidableEq κ]

/-- A transaction writes. -/
def write (s : Store τ κ ν) (t : τ) (k : κ) (v : ν) : Store τ κ ν :=
  { s with writes := Function.update s.writes t (Function.update (s.writes t) k (some v)) }

/-- `UPDATE … SET`: the value, if `t` sees one, changed by `f`. -/
def modify (s : Store τ κ ν) (t : τ) (k : κ) (f : ν → ν) : Store τ κ ν :=
  match s.read t k with
  | none => s
  | some v => s.write t k (f v)

/-- Take a write back (`ROLLBACK TO SAVEPOINT`). -/
def undo (s : Store τ κ ν) (t : τ) (k : κ) : Store τ κ ν :=
  { s with writes := Function.update s.writes t (Function.update (s.writes t) k none) }

/-- What the transaction has written is dropped. -/
def rollback (s : Store τ κ ν) (t : τ) : Store τ κ ν :=
  { s with writes := Function.update s.writes t fun _ => none }

/-- What the transaction has written is there for all. -/
def commit (s : Store τ κ ν) (t : τ) : Store τ κ ν :=
  { rollback s t with committed := fun k => (s.writes t k).or (s.committed k) }

/-! ## What each operation leaves -/

omit [DecidableEq τ] [DecidableEq κ] in
/-- What others have not committed is not there. -/
theorem read_of_no_write {s : Store τ κ ν} {t : τ} {k : κ} (h : s.writes t k = none) :
    s.read t k = s.committed k := by
  rw [read, h, Option.none_or]

@[simp] theorem write_committed (s : Store τ κ ν) (t : τ) (k : κ) (v : ν) :
    (s.write t k v).committed = s.committed := rfl

@[simp] theorem undo_committed (s : Store τ κ ν) (t : τ) (k : κ) :
    (s.undo t k).committed = s.committed := rfl

omit [DecidableEq κ] in
@[simp] theorem rollback_committed (s : Store τ κ ν) (t : τ) :
    (s.rollback t).committed = s.committed := rfl

omit [DecidableEq κ] in
/-- What is committed: what the transaction has written, and otherwise what was there. -/
theorem commit_committed (s : Store τ κ ν) (t : τ) (k : κ) :
    (s.commit t).committed k = (s.writes t k).or (s.committed k) := rfl

/-- A write is seen by its own transaction. -/
theorem write_writes (s : Store τ κ ν) (t u : τ) (k j : κ) (v : ν) :
    (s.write t k v).writes u j = if u = t ∧ j = k then some v else s.writes u j := by
  rw [write]
  by_cases hu : u = t
  · subst hu
    by_cases hj : j = k
    · subst hj; simp
    · simp [hj]
  · simp [hu]

@[simp] theorem modify_committed (s : Store τ κ ν) (t : τ) (k : κ) (f : ν → ν) :
    (s.modify t k f).committed = s.committed := by
  rw [modify]
  split
  · rfl
  · rfl

/-- So is a change of what it reads. -/
theorem modify_writes (s : Store τ κ ν) (t u : τ) (k j : κ) (f : ν → ν) :
    (s.modify t k f).writes u j =
      if u = t ∧ j = k then (s.read t k).map f else s.writes u j := by
  rw [modify]
  cases hread : s.read t k with
  | some v => exact write_writes s t u k j (f v)
  | none =>
    have hnone : s.writes t k = none := (Option.or_eq_none_iff.mp hread).1
    by_cases huj : u = t ∧ j = k
    · rw [if_pos huj, huj.1, huj.2]
      exact hnone
    · rw [if_neg huj]

/-- A write that is taken back. -/
theorem undo_writes (s : Store τ κ ν) (t u : τ) (k j : κ) :
    (s.undo t k).writes u j = if u = t ∧ j = k then none else s.writes u j := by
  rw [undo]
  by_cases hu : u = t
  · subst hu
    by_cases hj : j = k
    · subst hj; simp
    · simp [hj]
  · simp [hu]

omit [DecidableEq κ] in
/-- After a rollback nothing is left of the transaction. -/
theorem rollback_writes (s : Store τ κ ν) (t u : τ) (j : κ) :
    (s.rollback t).writes u j = if u = t then none else s.writes u j := by
  rw [rollback]
  by_cases hu : u = t
  · subst hu; simp
  · simp [hu]

omit [DecidableEq κ] in
theorem commit_writes (s : Store τ κ ν) (t u : τ) (j : κ) :
    (s.commit t).writes u j = if u = t then none else s.writes u j :=
  rollback_writes s t u j

end Store

end Dtsys
