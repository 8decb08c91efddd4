/-
  UNITS OF WORK: a session reads a row and works on a copy of it, and what it writes are the COLUMNS in which
  the copy is not what was read.

  Others write in between.  Each column of the row is then as it was or as in the copy (`Column.eq_or_eq`), and
  it takes a row that is still as it was read to become the copy (`Column.fresh`).

  `Column write f` says that `f` reads one column of the rows that `write` writes: what is left there is the
  `merge` of that column, whatever happens to the others.  `update` is the statement, on the row with the key
  and on no other (`mem_update`).

  A row as a whole is not a column: two sessions that write different columns leave a row which neither of
  them has seen.
-/
import Mathlib.Logic.Basic

namespace Dtsys

namespace Columns

variable {ρ α κ : Type}

/-- A column after the write. -/
def merge [DecidableEq α] (loaded wanted current : α) : α :=
  if wanted = loaded then current else wanted

/-- `f` reads a column of the rows that `write loaded wanted` writes. -/
def Column [DecidableEq α] (write : ρ → ρ → ρ → ρ) (f : ρ → α) : Prop :=
  ∀ loaded wanted row, f (write loaded wanted row) = merge (f loaded) (f wanted) (f row)

section

variable [DecidableEq α] {write : ρ → ρ → ρ → ρ} {f : ρ → α}

/-- A column is left as it is, or is as wanted. -/
theorem Column.eq_or_eq (h : Column write f) (loaded wanted row : ρ) :
    f (write loaded wanted row) = f row ∨ f (write loaded wanted row) = f wanted := by
  rw [h, merge]
  split
  · exact .inl rfl
  · exact .inr rfl

/-- **A row that is as it was read** becomes the copy. -/
theorem Column.fresh (h : Column write f) {loaded row : ρ} (wanted : ρ) (hrow : f row = f loaded) :
    f (write loaded wanted row) = f wanted := by
  rw [h, merge]
  split
  · rename_i hsame
    rw [hrow, hsame]
  · rfl

/-- What makes no difference to a write makes none to a column. -/
theorem Column.eq_of_write (h : Column write f) {loaded wanted : ρ} (hw : write loaded wanted loaded = loaded) :
    f wanted = f loaded := by
  have hwrite := h loaded wanted loaded
  rw [hw, merge] at hwrite
  split at hwrite
  · assumption
  · exact hwrite.symm

end

variable [DecidableEq κ] {key : ρ → κ} {write : ρ → ρ → ρ → ρ} {rows : List ρ}

/-- The UPDATE of the row that was read. -/
def update (key : ρ → κ) (write : ρ → ρ → ρ → ρ) (loaded wanted : ρ) (rows : List ρ) : List ρ :=
  rows.map fun row => if key row = key loaded then write loaded wanted row else row

theorem mem_update {loaded wanted r : ρ} (h : r ∈ update key write loaded wanted rows) :
    r ∈ rows ∨ ∃ row ∈ rows, key row = key loaded ∧ r = write loaded wanted row := by
  obtain ⟨row, hrow, rfl⟩ := List.mem_map.mp h
  split
  · rename_i hkey
    exact .inr ⟨row, hrow, hkey, rfl⟩
  · exact .inl hrow

end Columns

end Dtsys
