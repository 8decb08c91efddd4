/-
  LOOPS THAT ADD UP: each round computes an item from its element, or raises, and adds the item's share to
  what the loop carries.

  What is carried is an additive monoid, and need not be commutative.

  * `foldlM_round` — the loop computes the items and adds the sum of their shares to what it began with;
  * `run_append` — the loop over two lists adds what the loops over each of them give;
  * `sum_perm` — where the order of a sum does not show, that of the elements does not.

  `Items` is the relation between the elements and their items: it says that every round returns, and
  what.  From it the loop is a sum (`run_eq`), and everything about the order and the cutting of the
  elements is then a fact about sums.  A loop that raises has no items (`exists_items`).
-/
import Mathlib.Algebra.BigOperators.Group.List.Basic
import Mathlib.Algebra.Group.Hom.Defs

namespace Dtsys.AddUp

variable {α β ε M : Type} [AddMonoid M] (item : α → Except ε β) (share : β → M)

/-- One round. -/
def round (s : M) (x : α) : Except ε M := do
  let b ← item x
  return s + share b

/-- The loop, from nothing. -/
def run (l : List α) : Except ε M := l.foldlM (round item share) 0

/-- The items of a list, none of which raises. -/
def Items (l : List α) (bs : List β) : Prop := List.Forall₂ (fun x b => item x = .ok b) l bs

variable {item share} {l l' : List α} {bs bs' : List β}

/-- **The loop is a sum**, of one share for each element; it raises where an item does. -/
theorem foldlM_round (l : List α) (s : M) :
    l.foldlM (round item share) s = (l.mapM item).map fun bs => s + (bs.map share).sum := by
  induction l generalizing s with
  | nil => exact congrArg Except.ok (add_zero s).symm
  | cons x l ih =>
    rw [List.foldlM_cons, List.mapM_cons, round]
    cases item x with
    | error e => rfl
    | ok b =>
      show l.foldlM (round item share) (s + share b) = _
      rw [ih]
      cases l.mapM item with
      | error e => rfl
      | ok bs =>
        have hsum : s + share b + (bs.map share).sum = s + ((b :: bs).map share).sum := by
          rw [List.map_cons, List.sum_cons, add_assoc]
        exact congrArg Except.ok hsum

/-! ## Items -/

/-- All items can be read. -/
theorem Items.mapM (h : Items item l bs) : l.mapM item = .ok bs := by
  induction h with
  | nil => rfl
  | cons hx _ ih =>
    rw [List.mapM_cons, hx, ih]
    rfl

/-- Every element has its item. -/
theorem exists_items (h : ∀ x ∈ l, ∃ b, item x = .ok b) : ∃ bs, Items item l bs := by
  induction l with
  | nil => exact ⟨[], .nil⟩
  | cons x l ih =>
    obtain ⟨b, hb⟩ := h x List.mem_cons_self
    obtain ⟨bs, hbs⟩ := ih fun y hy => h y (List.mem_cons_of_mem x hy)
    exact ⟨b :: bs, .cons hb hbs⟩

/-- An amount is that of an item. -/
theorem Items.exists_of_mem (h : Items item l bs) {b : β} (hb : b ∈ bs) : ∃ x ∈ l, item x = .ok b := by
  induction h with
  | nil => cases hb
  | @cons x b' l bs hx _ ih =>
    rcases List.mem_cons.mp hb with rfl | hb
    · exact ⟨x, List.mem_cons_self, hx⟩
    · obtain ⟨y, hy, hitem⟩ := ih hb
      exact ⟨y, List.mem_cons_of_mem x hy, hitem⟩

theorem Items.append (h : Items item l bs) (h' : Items item l' bs') : Items item (l ++ l') (bs ++ bs') :=
  List.rel_append h h'

/-- The order of the items makes no difference. -/
theorem Items.perm (h : Items item l bs) (hp : l.Perm l') : ∃ bs', Items item l' bs' ∧ bs.Perm bs' := by
  induction hp generalizing bs with
  | nil => exact ⟨bs, h, .refl bs⟩
  | cons x _ ih =>
    cases h with
    | cons hx h =>
      obtain ⟨bs', h', hperm⟩ := ih h
      exact ⟨_ :: bs', .cons hx h', hperm.cons _⟩
  | swap x y l =>
    cases h with
    | cons hy h =>
      cases h with
      | cons hx h => exact ⟨_, .cons hx (.cons hy h), .swap _ _ _⟩
  | trans _ _ ih ih' =>
    obtain ⟨cs, hcs, hperm⟩ := ih h
    obtain ⟨ds, hds, hperm'⟩ := ih' hcs
    exact ⟨ds, hds, hperm.trans hperm'⟩

/-! ## The loop, by its items -/

/-- What the loop adds up. -/
theorem run_eq (h : Items item l bs) : run item share l = .ok (bs.map share).sum := by
  rw [run, foldlM_round, h.mapM]
  exact congrArg Except.ok (zero_add _)

/-- **Two lists**, one behind the other. -/
theorem run_append (h : Items item l bs) (h' : Items item l' bs') :
    run item share (l ++ l') = .ok ((bs.map share).sum + (bs'.map share).sum) := by
  rw [run_eq (h.append h'), List.map_append, List.sum_append]

/-- **In another order** the shares add up to the same, as far as a commutative monoid sees it. -/
theorem sum_perm {N : Type} [AddCommMonoid N] (f : M →+ N) (h : bs.Perm bs') :
    f (bs.map share).sum = f (bs'.map share).sum := by
  rw [map_list_sum, map_list_sum]
  exact ((h.map share).map f).sum_eq

end Dtsys.AddUp
