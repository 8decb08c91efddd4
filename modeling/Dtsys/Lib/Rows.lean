/-
  ROWS of a table, each with a KEY: finding a row by its key, and filters that do not notice a write.

  A table is a list of rows, and `key` reads the key of a row.  A filter picks out the rows that
  belong to somebody; it does not notice an update, a deletion or an insertion of rows it leaves out.

  1. By key: `find?` on the key is `none` exactly when no row has it (`find_eq_none`), and where the keys
     are distinct it finds the row it is asked for (`find_of_mem`).
  2. Filters: `filter_update`, `filter_delete`, `filter_insert`, one for each kind of statement.  The
     update has to keep the rows of the filter in it, and the others out of it.

  The isolation results of the server are these three lemmas, applied table by table.
-/
import Mathlib.Logic.Basic

namespace Dtsys

namespace Rows

variable {α κ : Type} [DecidableEq κ] {key : α → κ} {i : κ} {l : List α} {p q : α → Bool} {a : α}

/-! ## By key -/

/-- No row has the key. -/
theorem find_eq_none (h : i ∉ l.map key) : (l.find? fun x => key x == i) = none := by
  rw [List.find?_eq_none]
  intro x hx hid
  exact h (List.mem_map.mpr ⟨x, hx, beq_iff_eq.mp hid⟩)

/-- A row with the key is found. -/
theorem find_of_mem (h : i ∈ l.map key) : ∃ x, (l.find? fun x => key x == i) = some x := by
  obtain ⟨x, hx, rfl⟩ := List.mem_map.mp h
  cases hfind : l.find? fun y => key y == key x with
  | some y => exact ⟨y, rfl⟩
  | none => exact absurd (beq_self_eq_true (key x)) (List.find?_eq_none.mp hfind x hx)

/-- What is found has the key. -/
theorem find_eq_some (h : (l.find? fun x => key x == i) = some a) : a ∈ l ∧ key a = i :=
  ⟨List.mem_of_find?_eq_some h, beq_iff_eq.mp (List.find?_some (p := fun x => key x == i) h)⟩

theorem filter_key_eq_nil (h : i ∉ l.map key) : (l.filter fun x => key x == i) = [] := by
  rw [List.filter_eq_nil_iff]
  exact fun x hx hid => h (List.mem_map.mpr ⟨x, hx, beq_iff_eq.mp hid⟩)

/-- With a primary key, the rows with the key of a row are that row. -/
theorem filter_key (h : (l.map key).Nodup) (ha : a ∈ l) :
    (l.filter fun x => key x == key a) = [a] := by
  induction l with
  | nil => cases ha
  | cons b l ih =>
    rw [List.map_cons, List.nodup_cons] at h
    obtain ⟨hnew, h⟩ := h
    rcases List.mem_cons.mp ha with rfl | ha
    · rw [List.filter_cons_of_pos (p := fun x => key x == key a) (beq_self_eq_true (key a)),
        filter_key_eq_nil hnew]
    · have hne : ¬ (key b == key a) = true := fun hid =>
        hnew (beq_iff_eq.mp hid ▸ List.mem_map_of_mem ha)
      rw [List.filter_cons_of_neg (p := fun x => key x == key a) hne, ih h ha]

/-! ## Filters that do not notice -/

/-- An update of the rows with a key, where the filter leaves out these and what they become. -/
theorem filter_update {t : α} (hold : ∀ a ∈ l, key a = i → p a = false) (hnew : p t = false) :
    (l.map fun a => if key a = i then t else a).filter p = l.filter p := by
  induction l with
  | nil => rfl
  | cons a l ih =>
    have hrest := ih fun b hb => hold b (List.mem_cons_of_mem a hb)
    rw [List.map_cons, List.filter_cons, List.filter_cons, hrest]
    by_cases hkey : key a = i
    · rw [if_pos hkey, hnew, hold a List.mem_cons_self hkey]
      rfl
    · rw [if_neg hkey]

/-- A deletion. -/
theorem filter_delete (h : ∀ a ∈ l, p a = true → q a = true) :
    (l.filter q).filter p = l.filter p := by
  rw [List.filter_filter]
  apply List.filter_congr
  intro a ha
  cases hp : p a with
  | false => rfl
  | true => rw [h a ha hp, Bool.and_self]

/-- An insertion. -/
theorem filter_insert {new : List α} (h : ∀ a ∈ new, p a = false) :
    (l ++ new).filter p = l.filter p := by
  have hnone : new.filter p = [] := List.filter_eq_nil_iff.mpr fun a ha hp => by
    rw [h a ha] at hp
    cases hp
  rw [List.filter_append, hnone, List.append_nil]

end Rows

end Dtsys
