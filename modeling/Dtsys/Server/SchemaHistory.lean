/-
  THE TABLES of each revision.

  `schemaAt k` is what the first `k` revisions make of no tables, and `AtRevision k` says what a database there
  is: its rows fit, and meet every constraint.  What the other modules need to know of these tables is a
  `Revision` and a `Moves` for each one, and is computed in one pass over the chain (`chain_range`).

  1. `Revision` — the script of the revision makes the next schema of this one and its downgrade makes this
     one again, neither touches what both of them have (`Outside`), and but for a key that the revision names
     no row can stand in the way (`Safe`).
  2. `Moves` — what the two revisions that look at rows need: that the organizations, the members and
     the scoped tables are there, with the columns they are read by.
  3. `Chain` — a `Revision` and a `Moves` from each revision to the next.  It is a decidable statement
     about eleven finite scripts; the kernel evaluates it once, and `revision` and `moves` read off
     what is wanted.

  No row occurs here: whether a database goes through is in `Dtsys.Server.Upgrades`.
-/
import Dtsys.Server.Migrations

namespace Dtsys

namespace Migrations

open Ddl

/-! ## The schema of a revision -/

/-- Takes the first row. -/
instance : Inhabited Host where
  default :=
    { uuid4 := fun k => BitVec.ofNat 128 k
      now := 0
      limit1 := fun _ rows => rows.head?
      limit1_mem := fun h => List.mem_of_head? h
      limit1_isSome := fun h => by
        rw [List.isSome_head?]
        simpa using h }

/-- What `upgrade` does to the tables. -/
def schemaOps : Nat → List (Op Value)
  | 0 => initialSchema
  | 1 => addDeviceTags
  | 2 => addRuntimeSchedulingAndNotifications
  | 3 => addAuditGroups
  | 4 => addMetricIoRates
  | 5 => addNotificationEmailChannel
  | 6 => addInventorySavedCommandsSshAndMaintenance
  | 7 => addAgentVersion
  | 8 => createOrganizations
  | 9 => (addOrgScoping default).map Op.shape
  | 10 => addCompliance
  | _ => []

/-- The tables after some statements. -/
def after (S : Schema) (ops : List (Op Value)) : Schema := (Run.exec schemaStep S ops).getD []

/-- The tables after the first `k` revisions. -/
def schemaAt : Nat → Schema
  | 0 => []
  | k + 1 => after (schemaAt k) (schemaOps k)

/-- The tables are those of revision `k`, and the rows are what such a database can hold. -/
structure AtRevision (k : Nat) (db : Database Value) : Prop where
  schema : db.schema = schemaAt k
  fits : db.Fits
  consistent : db.Consistent

/-- The tables that `addOrgScoping` makes belong to an organization. -/
def scopedTables : List String := ["device_groups", "scheduled_commands", "notification_rules"]

/-- Group names that are not the same in two organizations. -/
def namesKey : Op Value → Bool
  | .createUnique t key => t = "device_groups" ∧ key.columns = ["name"]
  | _ => false

/-- What the `k`-th revision does to the tables, between `S` and `S'`. -/
structure Revision (k : Nat) (S S' : Schema) : Prop where
  up : Run.exec schemaStep S (schemaOps k) = some S'
  down : Run.exec schemaStep S' (downgradeOps k) = some S
  upOutside : ∀ op ∈ schemaOps k, op.Outside S
  downOutside : ∀ op ∈ downgradeOps k, op.Outside S
  upSafe : k ≠ 0 → k ≠ 9 → ∀ op ∈ schemaOps k, op.Safe
  downSafe : ∀ op ∈ downgradeOps k, op.Safe ∨ k = 9 ∧ namesKey op
  within : S.Within S'

instance (k : Nat) (S S' : Schema) : Decidable (Revision k S S') :=
  decidable_of_iff (Run.exec schemaStep S (schemaOps k) = some S' ∧
      Run.exec schemaStep S' (downgradeOps k) = some S ∧
      (∀ op ∈ schemaOps k, op.Outside S) ∧ (∀ op ∈ downgradeOps k, op.Outside S) ∧
      (k ≠ 0 → k ≠ 9 → ∀ op ∈ schemaOps k, op.Safe) ∧
      (∀ op ∈ downgradeOps k, op.Safe ∨ k = 9 ∧ namesKey op) ∧ S.Within S')
    ⟨fun ⟨hup, hdown, hout, hout', hsafe, hsafe', hwithin⟩ => ⟨hup, hdown, hout, hout', hsafe, hsafe', hwithin⟩,
      fun h => ⟨h.up, h.down, h.upOutside, h.downOutside, h.upSafe, h.downSafe, h.within⟩⟩

/-- The tables that `addOrganizations` writes to. -/
structure OrganizationTables (S : Schema) : Prop where
  organizations : S.lookup "organizations" = some organizations
  members : S.lookup "organization_members" = some organizationMembers
  devices : S.Assignable "devices" "org_id" "organizations" "id"
  active : S.Assignable "users" "active_org_id" "organizations" "id"
  users : ∃ d ∈ S.lookup "users", required "id" ∈ d.columns ∧ ["id"] ∈ d.keys ∧ "role" ∈ d.names

instance (S : Schema) : Decidable (OrganizationTables S) :=
  decidable_of_iff (S.lookup "organizations" = some organizations ∧
      S.lookup "organization_members" = some organizationMembers ∧
      S.Assignable "devices" "org_id" "organizations" "id" ∧
      S.Assignable "users" "active_org_id" "organizations" "id" ∧
      ∃ d ∈ S.lookup "users", required "id" ∈ d.columns ∧ ["id"] ∈ d.keys ∧ "role" ∈ d.names)
    ⟨fun ⟨horgs, hmembers, hdevices, hactive, husers⟩ => ⟨horgs, hmembers, hdevices, hactive, husers⟩,
      fun h => ⟨h.organizations, h.members, h.devices, h.active, h.users⟩⟩

/-- Every row belongs to an organization. -/
def Belongs (S : Schema) (t : String) : Prop :=
  ∃ d ∈ S.lookup t, required "org_id" ∈ d.columns ∧ reference "org_id" "organizations" ∈ d.foreignKeys

instance (S : Schema) (t : String) : Decidable (Belongs S t) :=
  inferInstanceAs (Decidable (∃ d ∈ S.lookup t, _))

/-- What the revisions that move rows find in the tables. -/
structure Moves (k : Nat) (S S' : Schema) : Prop where
  organizations : k = 8 → OrganizationTables S'
  groups : k = 9 → ∃ d ∈ S.lookup "device_groups", ["name"] ∈ d.keys ∧ "name" ∈ d.names
  there : k = 9 → ∀ t ∈ scopedTables, S.lookup t ≠ none
  belongs : 9 ≤ k → ∀ t ∈ scopedTables, Belongs S' t
  names : 9 ≤ k → "name" ∈ S'.names "device_groups"
  usersThere : 1 ≤ k → S.lookup "users" ≠ none

instance (k : Nat) (S S' : Schema) : Decidable (Moves k S S') :=
  decidable_of_iff ((k = 8 → OrganizationTables S') ∧
      (k = 9 → ∃ d ∈ S.lookup "device_groups", ["name"] ∈ d.keys ∧ "name" ∈ d.names) ∧
      (k = 9 → ∀ t ∈ scopedTables, S.lookup t ≠ none) ∧
      (9 ≤ k → ∀ t ∈ scopedTables, Belongs S' t) ∧
      (9 ≤ k → "name" ∈ S'.names "device_groups") ∧ (1 ≤ k → S.lookup "users" ≠ none))
    ⟨fun ⟨horgs, hgroups, hthere, hbelongs, hnames, husers⟩ =>
      ⟨horgs, hgroups, hthere, hbelongs, hnames, husers⟩,
      fun h => ⟨h.organizations, h.groups, h.there, h.belongs, h.names, h.usersThere⟩⟩

/-- One revision after the other. -/
def Chain : Schema → List Nat → Prop
  | _, [] => True
  | S, k :: ks =>
    let S' := after S (schemaOps k)
    (Revision k S S' ∧ Moves k S S') ∧ Chain S' ks

instance decidableChain : ∀ S ks, Decidable (Chain S ks)
  | _, [] => inferInstanceAs (Decidable True)
  | S, k :: ks =>
    have := decidableChain (after S (schemaOps k)) ks
    inferInstanceAs (Decidable ((Revision k S _ ∧ Moves k S _) ∧ Chain _ ks))

/-- The schemas of the eleven revisions are reached one from the other, which is computed. -/
theorem chain_range : Chain (schemaAt 0) (List.range' 0 11) := by decide +kernel

/-- Each link of a chain. -/
theorem of_chain : ∀ {n j : Nat}, Chain (schemaAt j) (List.range' j n) → ∀ k, j ≤ k → k < j + n →
    Revision k (schemaAt k) (schemaAt (k + 1)) ∧ Moves k (schemaAt k) (schemaAt (k + 1)) := by
  intro n
  induction n with
  | zero => intro j _ k hjk hk; omega
  | succ n ih =>
    intro j h k hjk hk
    obtain ⟨hj, hrest⟩ := h
    rcases Nat.eq_or_lt_of_le hjk with rfl | hlt
    · exact hj
    · exact ih (j := j + 1) hrest k hlt (by omega)

/-- A revision goes from its schema to the next. -/
theorem revision {k : Nat} (hk : k < 11) : Revision k (schemaAt k) (schemaAt (k + 1)) :=
  (of_chain chain_range k (Nat.zero_le k) (by omega)).1

theorem moves {k : Nat} (hk : k < 11) : Moves k (schemaAt k) (schemaAt (k + 1)) :=
  (of_chain chain_range k (Nat.zero_le k) (by omega)).2

theorem schemaAt_zero : schemaAt 0 = [] := rfl

-- from here on it is known by `revision` and `moves` alone
attribute [irreducible] schemaAt

end Migrations

end Dtsys
