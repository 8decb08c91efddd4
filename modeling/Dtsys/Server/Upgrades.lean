/-
  UPGRADES AND DOWNGRADES, over every database.

  1. **One revision** — `upgrade_iff`, `downgrade_eq`: which databases a revision takes up or down, and what of
     the rows it leaves.  Only two of them look at the rows: `addOrgScoping` needs an organization for the
     groups, schedules and rules that are there, and its `downgrade` needs group names that no two
     organizations share.

  2. **The chain** — `upgradeFrom_iff`, `downgradeTo_eq`; `downgradeTo_upgradeFrom`: going up and back is as if
     nothing had happened.

  3. **The default organization** — `upgrade_assigns`: what an installation from before the organizations
     finds after an upgrade.
-/
import Mathlib.Data.List.Induction
import Mathlib.Data.List.Nodup
import Mathlib.Tactic.IntervalCases
import Dtsys.Server.SchemaHistory

namespace Dtsys

namespace Migrations

open Ddl

variable {E : Host} {k : Nat} {db db' : Database Value}

/-! ## Scripts -/

/-- The revisions other than the two that read the database are lists of operations. -/
theorem upgrade_eq_script (h8 : k ≠ 8) (h9 : k ≠ 9) (hk : k < 11) (db : Database Value) :
    upgrade E k db = Run.exec step db (schemaOps k) := by
  interval_cases k <;> first | contradiction | rfl

theorem schemaOps_scoping : (addOrgScoping E).map Op.shape = schemaOps 9 := rfl

/-- The statements of `addOrgScoping` look like those of `schemaOps`. -/
theorem addOrgScoping_run : Run.exec schemaStep (schemaAt 9) (addOrgScoping E) = some (schemaAt 10) := by
  rw [← exec_shape, schemaOps_scoping]
  exact (revision (by decide)).up

/-- The scoping of the tables adds columns that were not there. -/
theorem addOrgScoping_outside {op : Op Value} (hop : op ∈ addOrgScoping E) : op.Outside (schemaAt 9) := by
  refine outside_shape.mp ((revision (k := 9) (by decide)).upOutside op.shape ?_)
  rw [← schemaOps_scoping (E := E)]
  exact List.mem_map_of_mem hop

/-- Revision 8 has no organizations yet. -/
theorem no_organizations : (schemaAt 8).lookup "organizations" = none ∧
    (schemaAt 8).lookup "organization_members" = none :=
  have hout := (revision (k := 8) (by decide)).upOutside
  ⟨hout (.createTable "organizations" organizations) (.head _),
    hout (.createTable "organization_members" organizationMembers) (.tail _ (.head _))⟩

/-- The columns that `addOrganizations` fills are its own. -/
theorem no_org_columns : "org_id" ∉ (schemaAt 8).names "devices" ∧
    "active_org_id" ∉ (schemaAt 8).names "users" :=
  have hout := (revision (k := 8) (by decide)).upOutside
  ⟨hout (.addColumn "devices" (optional "org_id") none (some ("organizations", "id")))
      (.tail _ (.tail _ (.head _))),
    hout (.addColumn "users" (optional "active_org_id") none (some ("organizations", "id")))
      (.tail _ (.tail _ (.tail _ (.head _))))⟩

/-- `addOrganizations` as one script. -/
theorem addOrganizations_script (h : addOrganizations E db = some db') :
    ∃ ops, Run.exec step db (createOrganizations ++ ops) = some db' ∧
      ∀ op ∈ ops, op.Writes ∧ op.Outside (schemaAt 8) := by
  obtain ⟨db₁, h₁, h⟩ := Option.bind_eq_some_iff.mp h
  obtain ⟨⟨db₂, org⟩, h₂, h⟩ := Option.bind_eq_some_iff.mp h
  obtain ⟨db₃, h₃, h₄⟩ := Option.bind_eq_some_iff.mp h
  obtain ⟨ins, hins, hinsOut⟩ : ∃ ins, Run.exec step db₁ ins = some db₂ ∧
      ∀ op ∈ ins, op.Writes ∧ op.Outside (schemaAt 8) := by
    rw [ensureDefaultOrg] at h₂
    split at h₂
    · obtain ⟨rfl, -⟩ := Prod.mk.inj (Option.some.inj h₂)
      exact ⟨[], rfl, nofun⟩
    · obtain ⟨db₂', hstep, heq⟩ := Option.map_eq_some_iff.mp h₂
      obtain ⟨rfl, -⟩ := Prod.mk.inj heq
      refine ⟨[insertDefaultOrg E], Run.exec_cons_eq.mpr ⟨_, hstep, rfl⟩, fun op hop => ?_⟩
      rw [List.mem_singleton.mp hop]
      exact ⟨trivial, no_organizations.1⟩
  refine ⟨ins ++ ([fillNull "devices" "org_id" (some org), fillNull "users" "active_org_id" (some org)] ++
    (users db₃.data).mapIdx (insertMember E org)),
    Run.exec_append h₁ (Run.exec_append hins (Run.exec_append h₃ h₄)), fun op hop => ?_⟩
  rcases List.mem_append.mp hop with hop | hop
  · exact hinsOut op hop
  rcases List.mem_append.mp hop with hop | hop
  · rcases List.mem_pair.mp hop with rfl | rfl
    · exact ⟨trivial, no_org_columns.1⟩
    · exact ⟨trivial, no_org_columns.2⟩
  · obtain ⟨i, hi, rfl⟩ := List.mem_mapIdx.mp hop
    exact ⟨trivial, no_organizations.2⟩

/-- Every revision is a script that leaves alone what was there. -/
theorem upgrade_script (hk : k < 11) (h : upgrade E k db = some db') :
    ∃ ops, Run.exec step db ops = some db' ∧ (∀ op ∈ ops, op.Outside (schemaAt k)) ∧
      ∀ S, Run.exec schemaStep (schemaAt k) ops = some S → S = schemaAt (k + 1) := by
  by_cases h8 : k = 8
  · subst h8
    obtain ⟨ops, hrun, hops⟩ := addOrganizations_script h
    refine ⟨createOrganizations ++ ops, hrun, fun op hop => ?_, fun S hS => ?_⟩
    · rcases List.mem_append.mp hop with hop | hop
      · exact (revision hk).upOutside op hop
      · exact (hops op hop).2
    · obtain ⟨S₁, hS₁, hS⟩ := Run.exec_append_eq hS
      rw [exec_writes (fun op hop => (hops op hop).1) hS]
      exact Option.some.inj (hS₁.symm.trans (revision hk).up)
  by_cases h9 : k = 9
  · subst h9
    refine ⟨addOrgScoping E, h, fun op hop => addOrgScoping_outside hop, fun S hS => ?_⟩
    exact Option.some.inj (hS.symm.trans addOrgScoping_run)
  · refine ⟨schemaOps k, (upgrade_eq_script h8 h9 hk db).symm.trans h, (revision hk).upOutside, fun S hS => ?_⟩
    exact Option.some.inj (hS.symm.trans (revision hk).up)

/-- **A revision keeps what is there.** -/
theorem upgrade_keeps (hk : k < 11) (hdb : AtRevision k db) (h : upgrade E k db = some db') :
    AtRevision (k + 1) db' ∧ (schemaAt k).project db'.data = db.data := by
  obtain ⟨ops, hrun, hout, hschema⟩ := upgrade_script hk h
  have hS := exec_schema hrun
  rw [hdb.schema] at hS
  refine ⟨⟨hschema _ hS, hdb.fits.exec hrun, hdb.consistent.exec hrun⟩, ?_⟩
  rw [project_exec hout hrun, ← hdb.schema, hdb.fits.project_eq]

/-- There is no table yet, and the first revision creates nothing but tables and indexes. -/
theorem upgrade_initial (hdb : AtRevision 0 db) : upgrade E 0 db = some ⟨schemaAt 1, db.data⟩ := by
  have hup := (revision (k := 0) (by decide)).up
  rw [← hdb.schema] at hup
  have hempty : ∀ t, db.data t = [] := fun t => hdb.fits.tables t (by rw [hdb.schema, schemaAt_zero]; rfl)
  have hcreates : ∀ op ∈ initialSchema, op.Creates := by decide
  exact exec_creates hdb.consistent hempty hup hcreates

/-- The revisions that do not look at the rows. -/
theorem upgrade_plain (hk : k < 11) (h8 : k ≠ 8) (h9 : k ≠ 9) (hdb : AtRevision k db) :
    ∃ db', upgrade E k db = some db' := by
  by_cases h0 : k = 0
  · subst h0
    exact ⟨_, upgrade_initial hdb⟩
  · have hup := (revision hk).up
    rw [← hdb.schema] at hup
    rw [upgrade_eq_script h8 h9 hk]
    obtain ⟨data, hdata⟩ := exec_fine hdb.consistent hup (revision hk).upOutside
      fun op hop data _ => ((revision hk).upSafe h0 h9 op hop).fine data
    exact ⟨_, hdata⟩

/-! ## The default organization -/

/-- Everything belongs to `org`: the devices, the users, and a membership for each user. -/
structure Assigned (org : Value) (db : Database Value) : Prop where
  organizations : (db.data "organizations").map (fun r => (r "id", r "slug")) =
    [(some org, some (.text "default"))]
  devices : ∀ r ∈ db.data "devices", r "org_id" = some org
  users : ∀ r ∈ db.data "users", r "active_org_id" = some org
  members : (db.data "organization_members").map (fun m => (m "org_id", m "user_id", m "role")) =
    (db.data "users").map fun u => (some org, u "id", some (.text (memberRole (u "role"))))

theorem org_tables : OrganizationTables (schemaAt 9) := (moves (k := 8) (by decide)).organizations rfl

/-- A backfill writes the organization in every row, provided it is there. -/
theorem step_fillNull (h : db.Consistent) {t c : String} {org : Value}
    (hassign : db.schema.Assignable t c "organizations" "id")
    (horg : ∃ r ∈ db.data "organizations", r "id" = some org) (hnull : ∀ r ∈ db.data t, r c = none) :
    step db (fillNull t c (some org)) = some ⟨db.schema, Function.update db.data t
      ((db.data t).map fun r => Function.update r c (some org))⟩ := by
  have hvalue : ∀ r ∈ db.data t, (if r c = none then some org else r c) = some org :=
    fun r hr => if_pos (hnull r hr)
  have hstep := step_assign (f := fun _ r => if r c = none then some org else r c) h hassign
    fun r hr _ => by
      rw [hvalue r hr]
      exact horg
  refine hstep.trans ?_
  rw [Op.onData]
  congr 3
  refine List.map_congr_left fun r hr => ?_
  rw [hvalue r hr]

/-- The row of the `i`-th membership. -/
def memberRow (E : Host) (org : Value) (i : Nat) (user : Option Value × Option Value) : Tuple Value :=
  fun c => (memberValues E org i user).lookup c

theorem memberRow_id (org : Value) (i : Nat) (user : Option Value × Option Value) :
    memberRow E org i user "id" = some (.uuid (E.uuid4 (i + 1))) := rfl

theorem memberRow_org (org : Value) (i : Nat) (user : Option Value × Option Value) :
    memberRow E org i user "org_id" = some org := rfl

theorem memberRow_role (org : Value) (i : Nat) (user : Option Value × Option Value) :
    memberRow E org i user "role" = some (.text (memberRole user.2)) := rfl

theorem memberRow_user (org : Value) (i : Nat) (user : Option Value × Option Value) :
    memberRow E org i user "user_id" = user.1 := by
  obtain ⟨id, role⟩ := user
  cases id <;> rfl

/-- The memberships, one for each user. -/
theorem map_memberRow (org : Value) (us : List (Option Value × Option Value)) :
    (us.mapIdx (memberRow E org)).map (fun m => (m "org_id", m "user_id", m "role")) =
      us.map fun u => (some org, u.1, some (.text (memberRole u.2))) := by
  refine List.ext_getElem (by simp) fun i hi hi' => ?_
  rw [List.getElem_map, List.getElem_mapIdx, List.getElem_map, memberRow_org, memberRow_user, memberRow_role]

theorem memberValues_names (org : Value) (i : Nat) (user : Option Value × Option Value) :
    ∀ p ∈ memberValues E org i user, p.1 ∈ organizationMembers.names := by
  have hnames : ∀ c ∈ ["id", "org_id", "role", "joined_at", "user_id"], c ∈ organizationMembers.names := by
    decide
  intro p hp
  refine hnames p.1 ?_
  obtain ⟨id, role⟩ := user
  cases id <;> simp [memberValues] at hp <;> grind

/-- What a membership has to meet. -/
theorem organizationMembers_constraints :
    (∀ x ∈ organizationMembers.columns, x.nullable = false → x.name = "id") ∧
    (∀ key ∈ organizationMembers.keys, key = ["id"] ∨ key = ["org_id", "user_id"]) ∧
    ∀ fk ∈ organizationMembers.foreignKeys,
      fk = reference "org_id" "organizations" ∨ fk = reference "user_id" "users" := by
  decide

/-- **The loop over the users** inserts one membership for each. -/
theorem exec_members (h : db.Consistent)
    (hmembers : db.schema.lookup "organization_members" = some organizationMembers) {org : Value}
    (horg : ∃ r ∈ db.data "organizations", r "id" = some org)
    (hempty : db.data "organization_members" = []) : ∀ {us : List (Option Value × Option Value)},
    (∀ u ∈ us, u.1 ≠ none ∧ ∃ r ∈ db.data "users", r "id" = u.1) → (us.map Prod.fst).Nodup →
    ((List.range us.length).map fun i => E.uuid4 (i + 1)).Nodup →
    Run.exec step db (us.mapIdx (insertMember E org)) = some ⟨db.schema,
      Function.update db.data "organization_members" (us.mapIdx (memberRow E org))⟩ := by
  obtain ⟨hcolumns, hkeys, hfks⟩ := organizationMembers_constraints
  intro us
  induction us using List.reverseRecOn with
  | nil =>
    intro _ _ _
    rw [List.mapIdx_nil, List.mapIdx_nil, ← hempty, Function.update_eq_self]
    rfl
  | append_singleton us u ih =>
    intro hus hdistinct hids
    rw [List.length_append, List.length_singleton, List.range_succ, List.map_append] at hids
    rw [List.map_append] at hdistinct
    obtain ⟨hidsInit, -, hidNew⟩ := List.nodup_append.mp hids
    obtain ⟨hdistinctInit, -, huserNew⟩ := List.nodup_append.mp hdistinct
    have hinit := ih (fun v hv => hus v (List.mem_append_left _ hv)) hdistinctInit hidsInit
    rw [List.mapIdx_concat, List.mapIdx_concat, Run.exec_concat, hinit]
    obtain ⟨hsome, huser⟩ := hus u (List.mem_append_right _ (List.mem_singleton_self u))
    -- No row before this one has its id or its user.
    have hrows : ∀ r ∈ us.mapIdx (memberRow E org), r "id" ≠ memberRow E org us.length u "id" ∧
        r "user_id" ≠ memberRow E org us.length u "user_id" := by
      intro r hr
      obtain ⟨i, hi, rfl⟩ := List.mem_mapIdx.mp hr
      rw [memberRow_id, memberRow_id, memberRow_user, memberRow_user]
      refine ⟨fun heq => ?_, fun heq => ?_⟩
      · have hid : E.uuid4 (i + 1) = E.uuid4 (us.length + 1) := Value.uuid.inj (Option.some.inj heq)
        exact hidNew _ (List.mem_map_of_mem (List.mem_range.mpr hi)) _ (List.mem_singleton_self _) hid
      · exact huserNew _ (List.mem_map_of_mem (List.getElem_mem hi)) _ (List.mem_singleton_self _) heq
    have hne : ∀ t, t ≠ "organization_members" → Function.update db.data "organization_members"
        (us.mapIdx (memberRow E org)) t = db.data t := fun t ht => Function.update_of_ne ht ..
    -- What an INSERT has to meet: the columns that must be set, the keys, the references, no conflict.
    refine (step_insert (h.exec hinit) hmembers (memberValues_names (E := E) org us.length u) ?_ ?_ ?_ ?_).trans ?_
    · intro x hx hnull
      rw [hcolumns x hx hnull]
      exact nofun
    · intro key hkey r hr hall
      dsimp only at hr
      rw [Function.update_self] at hr
      rcases hkeys key hkey with rfl | rfl
      · exact (hrows r hr).1 (hall "id" (.head _)).2
      · exact (hrows r hr).2 (hall "user_id" (.tail _ (.head _))).2
    · intro fk hfk _
      dsimp only
      rcases hfks fk hfk with rfl | rfl
      · rw [show (reference "org_id" "organizations").table = "organizations" from rfl, hne _ (by decide)]
        exact horg
      · rw [show (reference "user_id" "users").table = "users" from rfl, hne _ (by decide)]
        obtain ⟨r, hr, hid⟩ := huser
        exact ⟨r, hr, hid.trans (memberRow_user (E := E) org us.length u).symm⟩
    · rw [conflicts, Bool.and_eq_false_iff]
      right
      dsimp only
      rw [Function.update_self, List.any_eq_false]
      intro r hr hall
      have hagree := List.all_eq_true.mp hall "user_id" (.tail _ (.head _))
      exact (hrows r hr).2 (of_decide_eq_true hagree).2.symm
    · dsimp only
      rw [Function.update_self, Function.update_idem]
      rfl

/-- The rows after the new tables and columns are there. -/
theorem createOrganizations_data (data : Data Value) {data₁ : Data Value}
    (h : data₁ = createOrganizations.foldl Op.onData data) :
    data₁ "organizations" = [] ∧ data₁ "organization_members" = [] ∧
      (∀ r ∈ data₁ "devices", r "org_id" = none) ∧ (∀ r ∈ data₁ "users", r "active_org_id" = none) ∧
      (data₁ "users").length = (data "users").length := by
  subst h
  simp [createOrganizations, Op.onData, optional]

/-- What the default organization has to meet. -/
theorem organizations_constraints :
    (∀ p ∈ ["id", "name", "slug", "created_at"], p ∈ organizations.names) ∧
    (∀ x ∈ organizations.columns, x.nullable = false → x.name ∈ ["id", "name", "slug"]) ∧
    ∀ fk ∈ organizations.foreignKeys, fk.column = "owner_id" := by
  decide

/-- The row of the default organization. -/
def defaultOrgRow (E : Host) : Tuple Value := fun c => (defaultOrgValues E).lookup c

/-- Where there is no organization yet. -/
theorem ensureDefaultOrg_new (h : db.Consistent)
    (horgs : db.schema.lookup "organizations" = some organizations) (hempty : db.data "organizations" = []) :
    let db' : Database Value := ⟨db.schema, Function.update db.data "organizations" [defaultOrgRow E]⟩
    ensureDefaultOrg E db = some (db', .uuid (E.uuid4 0)) ∧ db'.Consistent := by
  intro db'
  obtain ⟨hnames, hnull, hfks⟩ := organizations_constraints
  have hstep : step db (insertDefaultOrg E) = some db' := by
    refine (step_insert h horgs ?_ ?_ ?_ ?_ rfl).trans ?_
    · intro p hp
      refine hnames p.1 ?_
      simp only [defaultOrgValues, List.mem_cons, List.not_mem_nil, or_false] at hp
      rcases hp with rfl | rfl | rfl | rfl <;> simp
    · intro x hx hx'
      have hname := hnull x hx hx'
      simp only [List.mem_cons, List.not_mem_nil, or_false] at hname
      rcases hname with hname | hname | hname <;> rw [hname] <;> exact nofun
    · intro key _ r hr
      rw [hempty] at hr
      cases hr
    · intro fk hfk hne
      rw [hfks fk hfk] at hne
      exact absurd rfl hne
    · rw [hempty]
      rfl
  have hnone : defaultOrg db.data = none := by
    rw [defaultOrg, hempty]
    rfl
  refine ⟨?_, (step_eq_some.mp hstep).2.2⟩
  rw [ensureDefaultOrg, hnone, hstep]
  rfl

/-- The loop over the users, for the users that are there. -/
theorem exec_members_users (h : db.Consistent) (hS : db.schema = schemaAt 9) {org : Value}
    (horg : ∃ r ∈ db.data "organizations", r "id" = some org)
    (hempty : db.data "organization_members" = [])
    (hids : ((List.range (db.data "users").length).map fun i => E.uuid4 (i + 1)).Nodup) :
    Run.exec step db ((users db.data).mapIdx (insertMember E org)) = some ⟨db.schema,
      Function.update db.data "organization_members" ((users db.data).mapIdx (memberRow E org))⟩ := by
  obtain ⟨d, hd, hid, hkey, -⟩ := org_tables.users
  rw [← hS] at hd
  have hok := each_iff.mp h.2 "users" d hd
  have hnull : ∀ r ∈ db.data "users", r "id" ≠ none := hok.notNull (required "id") hid rfl
  refine exec_members h (hS ▸ org_tables.members) horg hempty ?_ ?_ ?_
  · intro u hu
    obtain ⟨r, hr, rfl⟩ := List.mem_map.mp hu
    exact ⟨hnull r hr, r, hr, rfl⟩
  · rw [users, List.map_map, List.Nodup, List.pairwise_map]
    refine (hok.unique ["id"] hkey).imp_of_mem fun hr _ hno heq => hno fun c hc => ?_
    rw [List.mem_singleton.mp hc]
    exact ⟨hnull _ hr, heq⟩
  · rw [users, List.length_map]
    exact hids

/-- **Everything that is there gets the default organization.** -/
theorem addOrganizations_assigns (hdb : AtRevision 8 db)
    (hids : ((List.range ((db.data "users").length + 1)).map E.uuid4).Nodup) :
    ∃ db', addOrganizations E db = some db' ∧ Assigned (.uuid (E.uuid4 0)) db' := by
  have hrev := revision (k := 8) (by decide)
  have hup := hrev.up
  rw [← hdb.schema] at hup
  obtain ⟨data₁, h₁⟩ := exec_fine hdb.consistent hup hrev.upOutside
    fun op hop data _ => (hrev.upSafe (by decide) (by decide) op hop).fine data
  obtain ⟨horgs, hmembers, hdevices, husers, hlength⟩ :=
    createOrganizations_data db.data (show data₁ = _ from exec_data h₁)
  obtain ⟨h₂, hcons₂⟩ := ensureDefaultOrg_new (E := E) (hdb.consistent.exec h₁) org_tables.organizations horgs
  have horg : ∃ r ∈ Function.update data₁ "organizations" [defaultOrgRow E] "organizations",
      r "id" = some (.uuid (E.uuid4 0)) := by
    rw [Function.update_self]
    exact ⟨_, List.mem_singleton_self _, rfl⟩
  have h₃ := step_fillNull hcons₂ org_tables.devices horg (by simpa using hdevices)
  have hcons₃ := (step_eq_some.mp h₃).2.2
  have h₄ := step_fillNull hcons₃ org_tables.active (by simpa using horg) (by simpa using husers)
  have hcons₄ := (step_eq_some.mp h₄).2.2
  have hfresh : ((List.range (data₁ "users").length).map fun i => E.uuid4 (i + 1)).Nodup := by
    rw [hlength]
    rw [List.range_succ_eq_map, List.map_cons, List.map_map] at hids
    exact (List.nodup_cons.mp hids).2
  have h₅ := @exec_members_users E _ hcons₄ rfl (.uuid (E.uuid4 0)) (by simpa using horg)
    (by simpa using hmembers) (by simpa using hfresh)
  refine ⟨_, Option.bind_eq_some_iff.mpr ⟨_, h₁, Option.bind_eq_some_iff.mpr ⟨_, h₂,
    Option.bind_eq_some_iff.mpr ⟨_, Run.exec_cons_eq.mpr ⟨_, h₃, Run.exec_cons_eq.mpr ⟨_, h₄, rfl⟩⟩, h₅⟩⟩⟩, ?_⟩
  constructor
  · have hslug : defaultOrgRow E "slug" = some (.text "default") := rfl
    have hid : defaultOrgRow E "id" = some (.uuid (E.uuid4 0)) := rfl
    simp [hslug, hid]
  · simp
  · simp
  · simp [map_memberRow, users]

/-! ## Groups, schedules and rules -/

/-- `(SELECT id FROM organizations LIMIT 1)`. -/
def someOrg (E : Host) (k : Nat) (data : Data Value) : Option Value :=
  (E.limit1 k (data "organizations")).bind fun org => org "id"

/-- The scoping of a table is a backfill. -/
theorem scopeTable_eq_backfill (t : String) :
    scopeTable E k t = backfill t "org_id" "organizations" "id" (someOrg E k) := rfl

theorem no_scope_column {t : String} (ht : t ∈ scopedTables) : "org_id" ∉ (schemaAt 9).names t := by
  have hout := (revision (k := 9) (by decide)).upOutside
    (.addColumn t (optional "org_id") none (some ("organizations", "id")))
  refine hout ?_
  simp only [scopedTables, List.mem_cons, List.not_mem_nil, or_false] at ht
  rcases ht with rfl | rfl | rfl <;> simp [schemaOps, addOrgScoping, scopeTable, Op.shape]

/-- An organization is found if there is one. -/
theorem someOrg_ne_none (hdb : AtRevision 9 db) {data : Data Value}
    (hseen : (schemaAt 9).project data = db.data) :
    (someOrg E k data ≠ none ↔ db.data "organizations" ≠ []) ∧
      (someOrg E k data ≠ none → ∃ r ∈ data "organizations", r "id" = someOrg E k data) := by
  have horgs := org_tables.organizations
  have hmap : (data "organizations").map (Tuple.only organizations.names) = db.data "organizations" := by
    rw [← project_of_lookup horgs, hseen]
  have hok := each_iff.mp hdb.consistent.2 "organizations" organizations (hdb.schema ▸ horgs)
  have hid : ∀ r ∈ data "organizations", r "id" ≠ none := by
    intro r hr
    have hrow : Tuple.only organizations.names r "id" = r "id" := if_pos (by decide)
    rw [← hrow]
    exact hok.notNull (required "id") (by decide) rfl _ (hmap ▸ List.mem_map_of_mem hr)
  have hthere : someOrg E k data ≠ none → ∃ r ∈ data "organizations", r "id" = someOrg E k data := by
    intro hsome
    rw [someOrg] at hsome ⊢
    cases hlimit : E.limit1 k (data "organizations") with
    | none => rw [hlimit] at hsome; exact absurd rfl hsome
    | some r => exact ⟨r, E.limit1_mem hlimit, rfl⟩
  refine ⟨⟨fun hsome hnil => ?_, fun hne => ?_⟩, hthere⟩
  · obtain ⟨r, hr, -⟩ := hthere hsome
    rw [← hmap, List.map_eq_nil_iff] at hnil
    rw [hnil] at hr
    cases hr
  · rw [← hmap, Ne, List.map_eq_nil_iff] at hne
    obtain ⟨r, hr⟩ := Option.isSome_iff_exists.mp (E.limit1_isSome (k := k) hne)
    rw [someOrg, hr]
    exact hid r (E.limit1_mem hr)

/-- **`scopeTable`** needs an organization if there is a row. -/
theorem goes_scopeTable (E : Host) (k : Nat) (hdb : AtRevision 9 db) {t : String} (ht : t ∈ scopedTables) :
    Goes db (scopeTable E k t) (db.data "organizations" ≠ [] ∨ db.data t = []) := by
  have hne : "organizations" ≠ t := by
    rintro rfl
    simp [scopedTables] at ht
  obtain ⟨d, hd⟩ := Option.ne_none_iff_exists'.mp ((moves (k := 9) (by decide)).there rfl t ht)
  refine ⟨fun op hop => ?_, fun {mid S} hmid hseen hS => ?_⟩
  · rw [hdb.schema]
    simp only [scopeTable, List.mem_cons, List.not_mem_nil, or_false] at hop
    rcases hop with rfl | rfl | rfl
    · exact no_scope_column ht
    · exact no_scope_column ht
    · trivial
  · rw [hdb.schema] at hseen
    obtain ⟨hfound, hthere⟩ := someOrg_ne_none (E := E) (k := k) hdb hseen
    have hnil : mid.data t = [] ↔ db.data t = [] := by
      rw [← hseen, project_of_lookup hd, List.map_eq_nil_iff]
    rw [scopeTable_eq_backfill] at hS ⊢
    rw [← hfound, ← hnil]
    refine exec_backfill hmid hne hS (fun data hdata => ?_) hthere
    rw [someOrg, someOrg, hdata]

/-- Whether group names are distinct can be seen before the organizations have groups of their own. -/
theorem distinct_names {data data₁ : Data Value} (h : (schemaAt 9).project data₁ = (schemaAt 9).project data) :
    Distinct ["name"] (data "device_groups") ↔ Distinct ["name"] (data₁ "device_groups") := by
  obtain ⟨d, hd, -, hname⟩ := (moves (k := 9) (by decide)).groups rfl
  have hscope : ∀ c ∈ ["name"], c ∈ d.names := fun c hc => List.mem_singleton.mp hc ▸ hname
  rw [← distinct_only hscope, ← project_of_lookup hd, ← h, project_of_lookup hd, distinct_only hscope]

/-- Names are distinct there. -/
theorem group_names (hdb : AtRevision 9 db) : Distinct ["name"] (db.data "device_groups") := by
  obtain ⟨d, hd, hkey, -⟩ := (moves (k := 9) (by decide)).groups rfl
  exact (each_iff.mp hdb.consistent.2 "device_groups" d (hdb.schema ▸ hd)).unique ["name"] hkey

/-- The other statements of `addOrgScoping`. -/
theorem goes_plain (hdb : AtRevision 9 db) {ops : List (Op Value)}
    (hin : ops ⊆ addOrgScoping default)
    (hsafe : ∀ op ∈ ops, op.Safe ∨
      op = .createUnique "device_groups" ⟨"uq_device_group_org_name", ["org_id", "name"]⟩) :
    Goes db ops True := by
  refine goes_fine (fun op hop => hdb.schema ▸ addOrgScoping_outside (hin hop)) fun op hop data hseen => ?_
  rcases hsafe op hop with hsafe | rfl
  · exact hsafe.fine data
  · -- names were distinct before
    refine distinct_mono (by simp) ((distinct_names ?_).mp (group_names hdb))
    rw [← hdb.schema, hseen, hdb.fits.project_eq]

/-- What `addOrgScoping` needs. -/
def Assigns (data : Data Value) : Prop :=
  data "organizations" ≠ [] ∨ ∀ t ∈ scopedTables, data t = []

instance (data : Data Value) : Decidable (Assigns data) :=
  decidable_of_iff ((data "organizations").isEmpty = false ∨ ∀ t ∈ scopedTables, (data t).isEmpty = true) (by
    simp [Assigns])

/-- The names of groups are the one constraint that rows may break. -/
theorem groupNamesPerOrg_safe : ∀ op ∈ groupNamesPerOrg, op.Safe ∨
    op = .createUnique "device_groups" ⟨"uq_device_group_org_name", ["org_id", "name"]⟩ := by
  intro op hop
  simp only [groupNamesPerOrg, List.mem_cons, List.not_mem_nil, or_false] at hop
  rcases hop with rfl | rfl | rfl
  · exact .inl trivial
  · exact .inr rfl
  · exact .inl rfl

/-- **`addOrgScoping`** needs an organization if there is a group, a schedule or a rule. -/
theorem addOrgScoping_iff (hdb : AtRevision 9 db) :
    (∃ db', Run.exec step db (addOrgScoping E) = some db') ↔ Assigns db.data := by
  have hindex : ∀ name t : String, ∀ op ∈ [createIndex name t "org_id"], op.Safe ∨
      op = .createUnique "device_groups" ⟨"uq_device_group_org_name", ["org_id", "name"]⟩ := by
    intro name t op hop
    rw [List.mem_singleton.mp hop]
    exact .inl rfl
  have hpush : ∀ op ∈ createPushTokens, op.Safe := by decide
  have hgroups : groupNamesPerOrg ⊆ addOrgScoping default := fun op hop => by simp [addOrgScoping, hop]
  have hgoes := ((((((@goes_plain db hdb createPushTokens ?_ fun op hop => .inl (hpush op hop)).append
    (goes_scopeTable E 0 hdb (t := "device_groups") ?_)).append
    (goes_plain hdb hgroups groupNamesPerOrg_safe)).append
    (goes_scopeTable E 1 hdb (t := "scheduled_commands") ?_)).append
    (goes_plain hdb ?_ (hindex "ix_scheduled_commands_org_id" "scheduled_commands"))).append
    (goes_scopeTable E 2 hdb (t := "notification_rules") ?_)).append
    (goes_plain hdb ?_ (hindex "ix_notification_rules_org_id" "notification_rules"))
  · have hrun : Run.exec schemaStep db.schema (addOrgScoping E) = some (schemaAt 10) := by
      rw [hdb.schema]
      exact addOrgScoping_run
    have hiff := hgoes.exec hdb.consistent hdb.fits hrun
    refine Iff.trans hiff ?_
    simp [Assigns, scopedTables, or_and_left, and_assoc]
  all_goals simp [addOrgScoping, scopedTables]

/-! ## Up -/

/-- **Which databases a revision takes up.** -/
theorem upgrade_iff (hk : k < 11) (hdb : AtRevision k db)
    (hids : k = 8 → ((List.range ((db.data "users").length + 1)).map E.uuid4).Nodup) :
    (∃ db', upgrade E k db = some db') ↔ (k = 9 → Assigns db.data) := by
  by_cases h9 : k = 9
  · subst h9
    exact (addOrgScoping_iff hdb).trans ⟨fun h _ => h, fun h => h rfl⟩
  · refine iff_of_true ?_ fun h => absurd h h9
    by_cases h8 : k = 8
    · subst h8
      obtain ⟨db', hup, -⟩ := addOrganizations_assigns hdb (hids rfl)
      exact ⟨db', hup⟩
    · exact upgrade_plain hk h8 h9 hdb

/-- No upgrade loses a user. -/
theorem upgrade_users (hk : k < 11) (hdb : AtRevision k db) (h : upgrade E k db = some db') :
    (db'.data "users").length = (db.data "users").length := by
  rcases Nat.eq_zero_or_pos k with rfl | hpos
  · rw [upgrade_initial hdb] at h
    rw [← Option.some.inj h]
  · obtain ⟨d, hd⟩ := Option.ne_none_iff_exists'.mp ((moves hk).usersThere hpos)
    rw [← (upgrade_keeps hk hdb h).2, project_of_lookup hd, List.length_map]

/-- **Upgrades keep** every row and every column that was there. -/
theorem upgradeFrom_keeps : ∀ {n k : Nat} {db : Database Value}, k + n ≤ 11 → AtRevision k db →
    upgradeFrom E k n db = some db' →
    AtRevision (k + n) db' ∧ (schemaAt k).project db'.data = db.data := by
  intro n
  induction n with
  | zero =>
    intro k db _ hdb h
    obtain rfl := Option.some.inj h
    exact ⟨hdb, hdb.schema ▸ hdb.fits.project_eq⟩
  | succ n ih =>
    intro k db hk hdb h
    obtain ⟨db₁, hup, hrest⟩ := Option.bind_eq_some_iff.mp h
    obtain ⟨hdb₁, hseen₁⟩ := upgrade_keeps (by omega) hdb hup
    obtain ⟨hdb', hseen⟩ := ih (by omega) hdb₁ hrest
    refine ⟨by rwa [Nat.add_right_comm] at hdb', ?_⟩
    rw [← hseen₁, ← hseen, project_project (revision (by omega)).within]

/-- The ids that are drawn for the default organization and the memberships. -/
def FreshIds (E : Host) (data : Data Value) : Prop :=
  ((List.range ((data "users").length + 1)).map E.uuid4).Nodup

/-- **Upgrades go through** exactly when no group name is shared where revision 9 runs. -/
theorem upgradeFrom_goes : ∀ {n k : Nat} {db : Database Value}, k + n ≤ 11 → AtRevision k db →
    (k ≤ 8 → 8 < k + n → FreshIds E db.data) →
    ((∃ db', upgradeFrom E k n db = some db') ↔ (k = 9 → n ≠ 0 → Assigns db.data)) := by
  intro n
  induction n with
  | zero => exact fun _ _ _ => iff_of_true ⟨_, rfl⟩ fun _ h => absurd rfl h
  | succ n ih =>
    intro k db hk hdb hids
    have hone := upgrade_iff (E := E) (by omega) hdb fun h8 => hids (by omega) (by omega)
    have hnext : ∀ db₁, upgrade E k db = some db₁ → ∃ db', upgradeFrom E (k + 1) n db₁ = some db' := by
      intro db₁ hup
      refine (ih (by omega) (upgrade_keeps (by omega) hdb hup).1 fun hle hlt => ?_).mpr fun h9 hn => ?_
      · rw [FreshIds, upgrade_users (by omega) hdb hup]
        exact hids (by omega) (by omega)
      · -- the revision before has just inserted an organization
        obtain rfl : k = 8 := by omega
        obtain ⟨db₁', hup', hassigned⟩ := addOrganizations_assigns hdb (hids (by omega) (by omega))
        obtain rfl := Option.some.inj (hup.symm.trans hup')
        left
        intro hnil
        have horgs := hassigned.organizations
        rw [hnil] at horgs
        cases horgs
    have hcond : (k = 9 → n + 1 ≠ 0 → Assigns db.data) ↔ (k = 9 → Assigns db.data) :=
      ⟨fun h h9 => h h9 (Nat.succ_ne_zero n), fun h h9 _ => h h9⟩
    rw [hcond, ← hone]
    constructor
    · rintro ⟨db', h⟩
      obtain ⟨db₁, hup, -⟩ := Option.bind_eq_some_iff.mp h
      exact ⟨db₁, hup⟩
    · rintro ⟨db₁, hup⟩
      obtain ⟨db', hrest⟩ := hnext db₁ hup
      exact ⟨db', Option.bind_eq_some_iff.mpr ⟨db₁, hup, hrest⟩⟩

/-- An administrator. -/
def adminValues : List (String × Value) := [("id", .uuid 1#128), ("username", .text "admin"),
  ("password_hash", .text ""), ("role", .text "admin"), ("is_active", .boolean true), ("created_at", .timestamp 0)]

/-- The values of a device. -/
def laptopValues : List (String × Value) := [("id", .uuid 2#128), ("hostname", .text "laptop"),
  ("os_type", .text "linux"), ("api_key_hash", .text ""), ("enrolled_at", .timestamp 0), ("status", .text "online"),
  ("is_revoked", .boolean false)]

/-- The rows of an installation with an administrator and a device. -/
def installationData : Data Value := fun t =>
  if t = "users" then [fun c => adminValues.lookup c]
  else if t = "devices" then [fun c => laptopValues.lookup c] else []

/-- A database of the first revision. -/
def installation : Database Value := ⟨schemaAt 1, installationData⟩

theorem installationData_written :
    installationData = Written.data [("users", [adminValues]), ("devices", [laptopValues])] := by
  funext t
  rw [installationData, Written.data, List.lookup_cons]
  by_cases husers : t = "users"
  · rw [if_pos husers, husers]
    rfl
  · rw [if_neg husers, beq_false_of_ne husers, List.lookup_cons]
    by_cases hdevices : t = "devices"
    · rw [if_pos hdevices, hdevices]
      rfl
    · rw [if_neg hdevices, beq_false_of_ne hdevices]
      rfl

theorem installation_at : AtRevision 1 installation := by
  refine ⟨rfl, ?_, by decide +kernel⟩
  rw [installation, installationData_written]
  exact fits_written (by decide +kernel)

theorem installation_fresh : FreshIds default installation.data := by
  rw [FreshIds, show (installation.data "users").length = 1 from rfl]
  decide

/-- **Which databases the pending revisions take up**, and what is there afterwards.

    By induction over the revisions.  Each keeps the rows that fit (`upgradeFrom_keeps`) and goes through
    (`upgradeFrom_goes`), but for the one that needs an organization. -/
theorem upgradeFrom_iff {n : Nat} (hk : k + n ≤ 11) (hdb : AtRevision k db)
    (hids : k ≤ 8 → 8 < k + n → FreshIds E db.data) :
    (∃ db', upgradeFrom E k n db = some db' ∧ AtRevision (k + n) db' ∧
      (schemaAt k).project db'.data = db.data) ↔ (k = 9 → n ≠ 0 → Assigns db.data) := by
  rw [← upgradeFrom_goes hk hdb hids]
  constructor
  · exact fun ⟨db', h, _⟩ => ⟨db', h⟩
  · exact fun ⟨db', h⟩ => ⟨db', h, upgradeFrom_keeps hk hdb h⟩

theorem upgradeFrom_iff_installation : ∃ db', upgradeFrom default 1 10 installation = some db' ∧
    AtRevision 11 db' ∧ (schemaAt 1).project db'.data = installationData :=
  (upgradeFrom_iff (by decide) installation_at fun _ _ => installation_fresh).mpr fun h => absurd h (by decide)

theorem installation_upgrades : ∃ db', upgradeFrom default 1 10 installation = some db' :=
  (upgradeFrom_goes (by decide) installation_at fun _ _ => installation_fresh).mpr fun h =>
    absurd h (by decide)

/-! ## Down -/

/-- The names that are to be distinct again are seen by the schema before. -/
theorem downgrade_fine (hk : k < 11) (hdistinct : k = 9 → Distinct ["name"] (db.data "device_groups")) :
    ∀ op ∈ downgradeOps k, ∀ data, (schemaAt k).project data = (schemaAt k).project db.data →
      op.Fine data := by
  intro op hop data hseen
  rcases (revision hk).downSafe op hop with hsafe | ⟨rfl, hnames⟩
  · exact hsafe.fine data
  · cases op with
    | createUnique t key =>
      obtain ⟨rfl, hcolumns⟩ : t = "device_groups" ∧ key.columns = ["name"] := by simpa [namesKey] using hnames
      show Distinct key.columns (data "device_groups")
      rw [hcolumns]
      exact (distinct_names hseen).mp (hdistinct rfl)
    | _ => cases hnames

/-- **Which databases a revision takes down**, and what is left of them. -/
theorem downgrade_eq (hk : k < 11) (hdb : AtRevision (k + 1) db) :
    downgrade k db = if k = 9 → Distinct ["name"] (db.data "device_groups") then
      some (db.restrict (schemaAt k)) else none := by
  have hrev := revision hk
  have hdown := hrev.down
  rw [← hdb.schema] at hdown
  split
  · exact exec_restrict hdb.consistent hdb.fits hdown hrev.downOutside (downgrade_fine hk ‹_›)
  · rename_i hnot
    obtain ⟨rfl, hdup⟩ := Classical.not_imp.mp hnot
    rw [← Option.not_isSome_iff_eq_none, Option.isSome_iff_exists]
    rintro ⟨db', hrun⟩
    -- the names would be distinct afterwards, and nothing has changed them
    have hschema := Option.some.inj ((exec_schema hrun).symm.trans hdown)
    have hdb' : AtRevision 9 db' := ⟨hschema, hdb.fits.exec hrun, hdb.consistent.exec hrun⟩
    exact hdup ((distinct_names (project_exec hrev.downOutside hrun)).mpr (group_names hdb'))

/-- A downgrade that drops what it added. -/
theorem downgrade_restrict (hdb : AtRevision (k + 1) db)
    (hdown : downgrade k db = some (db.restrict (schemaAt k))) : AtRevision k (db.restrict (schemaAt k)) :=
  ⟨rfl, hdb.fits.exec hdown, hdb.consistent.exec hdown⟩

/-- A later schema holds an earlier one. -/
theorem schemaAt_within : ∀ {n : Nat}, k + n ≤ 11 → (schemaAt k).Within (schemaAt (k + n)) := by
  intro n
  induction n with
  | zero => exact fun _ => within_refl _
  | succ n ih => exact fun hk => (ih (by omega)).trans (revision (by omega)).within

/-- Whether group names are distinct, after a revision that leaves the groups. -/
theorem distinct_restrict {m : Nat} (hm : 9 ≤ m) (hm' : m ≤ 11) :
    Distinct ["name"] ((db.restrict (schemaAt m)).data "device_groups") ↔
      Distinct ["name"] (db.data "device_groups") := by
  refine @distinct_names (db.restrict (schemaAt m)).data db.data ?_
  have hwithin := schemaAt_within (k := 9) (n := m - 9) (by omega)
  rw [show 9 + (m - 9) = m from Nat.add_sub_cancel' hm] at hwithin
  exact (project_project hwithin db.data).symm

/-- **Going down**: through, unless two organizations have groups of one name; and then exactly what the schema
    there has columns for is left.

    `Database.restrict` forgets tables and columns.  The one revision whose downgrade can fail puts back the key on
    the names of groups. -/
theorem downgradeTo_eq : ∀ {n : Nat} {db : Database Value}, k + n ≤ 11 → AtRevision (k + n) db →
    downgradeTo k n db = if k ≤ 9 → 9 < k + n → Distinct ["name"] (db.data "device_groups") then
      some (db.restrict (schemaAt k)) else none := by
  intro n
  induction n with
  | zero =>
    intro db hk hdb
    rw [if_pos fun h h' => absurd h' (by omega)]
    rw [downgradeTo, Database.restrict, ← show db.schema = schemaAt k from hdb.schema, hdb.fits.project_eq]
  | succ n ih =>
    intro db hk hdb
    have hone := downgrade_eq (k := k + n) (by omega) hdb
    rw [downgradeTo, hone]
    by_cases hdistinct : k + n = 9 → Distinct ["name"] (db.data "device_groups")
    · rw [if_pos hdistinct] at hone ⊢
      have hrest := ih (by omega) (downgrade_restrict hdb hone)
      rw [Option.bind_some, hrest]
      have hrestrict : (db.restrict (schemaAt (k + n))).restrict (schemaAt k) = db.restrict (schemaAt k) := by
        rw [Database.restrict, Database.restrict, Database.restrict, project_project (schemaAt_within (by omega))]
      rw [hrestrict]
      refine if_congr ?_ rfl rfl
      by_cases h9 : k + n = 9
      · exact ⟨fun _ _ _ => hdistinct h9, fun _ _ hlt => absurd hlt (by omega)⟩
      · by_cases hlt : 9 < k + n
        · rw [distinct_restrict (by omega) (by omega)]
          exact ⟨fun h hle _ => h hle hlt, fun h hle _ => h hle (by omega)⟩
        · exact ⟨fun _ _ hlt' => absurd hlt' (by omega), fun _ _ hlt' => absurd hlt' hlt⟩
    · rw [if_neg hdistinct, Option.bind_none, if_neg]
      obtain ⟨h9, hdup⟩ := Classical.not_imp.mp hdistinct
      exact fun h => hdup (h (by omega) (by omega))

/-- Two organizations with a group each, and a device in one of the groups. -/
def twoOrganizations : Written Value := [
  ("organizations", [[("id", .uuid 1#128), ("name", .text "Acme"), ("slug", .text "acme")],
    [("id", .uuid 2#128), ("name", .text "Beta"), ("slug", .text "beta")]]),
  ("devices", [laptopDevice ++ [("org_id", .uuid 1#128)]]),
  ("device_groups", [labGroup ++ [("org_id", .uuid 1#128)], opsGroup ++ [("org_id", .uuid 2#128)]]),
  ("device_group_memberships", [membership])]
where
  laptopDevice : List (String × Value) :=
    laptopValues ++ [("tags", .array []), ("maintenance_mode", .boolean false)]
  labGroup : List (String × Value) := [("id", .uuid 3#128), ("name", .text "lab"), ("color", .text "#fff"),
    ("created_at", .timestamp 0)]
  opsGroup : List (String × Value) := [("id", .uuid 4#128), ("name", .text "ops"), ("color", .text "#000"),
    ("created_at", .timestamp 0)]
  membership : List (String × Value) := [("id", .uuid 5#128), ("group_id", .uuid 3#128), ("device_id", .uuid 2#128)]

/-- What was there before there were organizations: the device and the groups. -/
def noOrganizations : Written Value := [
  ("devices", [twoOrganizations.laptopDevice]),
  ("device_groups", [twoOrganizations.labGroup, twoOrganizations.opsGroup]),
  ("device_group_memberships", [twoOrganizations.membership])]

theorem twoOrganizations_at : AtRevision 11 ⟨schemaAt 11, twoOrganizations.data⟩ := by
  have hnames : ∀ p ∈ twoOrganizations, ∀ row ∈ p.2,
      (schemaAt 11).lookup p.1 ≠ none ∧ ∀ x ∈ row, x.1 ∈ (schemaAt 11).names p.1 := by
    decide +kernel
  exact ⟨rfl, fits_written hnames, by decide +kernel⟩

theorem downgradeTo_eq_organizations :
    downgradeTo 8 3 ⟨schemaAt 11, twoOrganizations.data⟩ = some ⟨schemaAt 8, noOrganizations.data⟩ := by
  have hleft : twoOrganizations.project (schemaAt 8) = noOrganizations := by decide +kernel
  have hnames : Distinct ["name"] (twoOrganizations.data "device_groups") := by decide +kernel
  refine (downgradeTo_eq (k := 8) (n := 3) (by decide) twoOrganizations_at).trans ?_
  rw [if_pos fun _ _ => hnames, Database.restrict, project_written, hleft]

/-! ## Up and down again -/

/-- Upgrades one after the other. -/
theorem upgradeFrom_add (m n : Nat) : ∀ {k : Nat} {db : Database Value},
    upgradeFrom E k (m + n) db = (upgradeFrom E k m db).bind (upgradeFrom E (k + m) n) := by
  induction m with
  | zero =>
    intro k db
    rw [Nat.zero_add]
    rfl
  | succ m ih =>
    intro k db
    rw [Nat.add_right_comm, upgradeFrom, upgradeFrom, Option.bind_assoc]
    refine congrArg _ (funext fun db₁ => ?_)
    rw [ih, Nat.add_right_comm k 1 m]
    rfl

/-- Group names are distinct where `addOrgScoping` was just run, or will be. -/
theorem upgradeFrom_names {n : Nat} (hk : k ≤ 9) (hn : 9 < k + n) (hn' : k + n ≤ 11) (hdb : AtRevision k db)
    (h : upgradeFrom E k n db = some db') : Distinct ["name"] (db'.data "device_groups") := by
  rw [show n = (9 - k) + (k + n - 9) by omega, upgradeFrom_add] at h
  obtain ⟨db₉, h₉, hrest⟩ := Option.bind_eq_some_iff.mp h
  have hdb₉ := (upgradeFrom_keeps (by omega) hdb h₉).1
  rw [Nat.add_sub_cancel' hk] at hdb₉ hrest
  obtain ⟨-, hseen⟩ := upgradeFrom_keeps (by omega) hdb₉ hrest
  refine (distinct_names ?_).mpr (group_names hdb₉)
  rw [hseen, ← hdb₉.schema, hdb₉.fits.project_eq]

/-- **Going back** from an upgrade leaves exactly what was there before it.

    The upgrades keep what the old schema has columns for (X1's invariant), and the downgrades leave just that. -/
theorem downgradeTo_upgradeFrom {n : Nat} (hk : k + n ≤ 11) (hdb : AtRevision k db)
    (h : upgradeFrom E k n db = some db') : downgradeTo k n db' = some db := by
  obtain ⟨hdb', hseen⟩ := upgradeFrom_keeps hk hdb h
  rw [downgradeTo_eq hk hdb', if_pos fun hle hlt => upgradeFrom_names hle hlt hk hdb h, Database.restrict, hseen,
    ← hdb.schema]

theorem downgradeTo_upgradeFrom_installation : ∃ db, upgradeFrom default 1 10 installation = some db ∧
    downgradeTo 1 10 db = some installation := by
  obtain ⟨db, h⟩ := installation_upgrades
  exact ⟨db, h, downgradeTo_upgradeFrom (by decide) installation_at h⟩

/-! ## An installation from before the organizations -/

/-- No upgrade loses a user. -/
theorem upgradeFrom_users : ∀ {n k : Nat} {db : Database Value}, k + n ≤ 11 → AtRevision k db →
    upgradeFrom E k n db = some db' → (db'.data "users").length = (db.data "users").length := by
  intro n
  induction n with
  | zero =>
    intro k db _ _ h
    rw [Option.some.inj h]
  | succ n ih =>
    intro k db hk hdb h
    obtain ⟨db₁, hup, hrest⟩ := Option.bind_eq_some_iff.mp h
    rw [ih (by omega) (upgrade_keeps (by omega) hdb hup).1 hrest, upgrade_users (by omega) hdb hup]

/-- What a device is assigned to does not depend on columns that came later. -/
theorem Assigned.of_project {org : Value} (h : Assigned org db)
    (hseen : (schemaAt 9).project db'.data = (schemaAt 9).project db.data) : Assigned org db' := by
  obtain ⟨users, husers, hid, -, hrole⟩ := org_tables.users
  obtain ⟨devices, hdevices, hdevice⟩ := lookup_of_names org_tables.devices.1
  have hactive := org_tables.active.1
  rw [names_of_lookup husers] at hactive
  have honly : ∀ {d : TableDef} {c : String} (r : Tuple Value), c ∈ d.names → Tuple.only d.names r c = r c :=
    fun r hc => if_pos hc
  constructor
  · refine (map_of_project hseen org_tables.organizations fun r => ?_).trans h.organizations
    rw [honly r (by decide), honly r (by decide)]
  · intro r hr
    obtain ⟨r₀, hr₀, hsame⟩ := mem_of_project_eq hseen hdevices hr
    rw [← hsame _ hdevice]
    exact h.devices r₀ hr₀
  · intro r hr
    obtain ⟨r₀, hr₀, hsame⟩ := mem_of_project_eq hseen husers hr
    rw [← hsame _ hactive]
    exact h.users r₀ hr₀
  · refine (map_of_project hseen org_tables.members fun r => ?_).trans (h.members.trans ?_)
    · rw [honly r (by decide), honly r (by decide), honly r (by decide)]
    · refine (map_of_project hseen husers fun r => ?_).symm
      have hname : "id" ∈ users.names := List.mem_map_of_mem (f := ColumnDef.name) hid
      rw [honly r hname, honly r hrole]

/-- Rows that have to refer to an organization refer to the only one. -/
theorem Assigned.belongs {org : Value} (h : Assigned org db) (hk : 9 ≤ k) (hk' : k < 11)
    (hdb : AtRevision (k + 1) db) : ∀ t ∈ scopedTables, ∀ r ∈ db.data t, r "org_id" = some org := by
  intro t ht r hr
  obtain ⟨d, hd, hnull, hfk⟩ := (moves hk').belongs hk t ht
  rw [← hdb.schema] at hd
  have hok := each_iff.mp hdb.consistent.2 t d hd
  have hsome := hok.notNull (required "org_id") hnull rfl r hr
  obtain ⟨o, ho, hid⟩ := hok.references (reference "org_id" "organizations") hfk r hr hsome
  rw [show r "org_id" = o "id" from hid.symm]
  have hmem : (o "id", o "slug") ∈ (db.data "organizations").map fun r => (r "id", r "slug") :=
    List.mem_map_of_mem (f := fun r : Tuple Value => (r "id", r "slug")) ho
  rw [h.organizations] at hmem
  exact congrArg Prod.fst (List.mem_singleton.mp hmem)

/-- **An upgrade over the organizations** puts everything that was there into one.

    The proof takes the upgrades up to the revision of the organizations, that one and the rest apart
    (`upgradeFrom_add`).  What that one leaves is `Assigned`, and the rest leaves every column alone that is there
    (`upgradeFrom_keeps`). -/
theorem upgrade_assigns {n : Nat} (hk : k ≤ 8) (hn : 8 < k + n) (hn' : k + n ≤ 11) (hdb : AtRevision k db)
    (hids : FreshIds E db.data) : ∃ db' org, upgradeFrom E k n db = some db' ∧ Assigned org db' ∧
      (9 < k + n → ∀ t ∈ scopedTables, ∀ r ∈ db'.data t, r "org_id" = some org) := by
  obtain ⟨db', h⟩ := (upgradeFrom_goes hn' hdb fun _ _ => hids).mpr fun h9 => absurd h9 (by omega)
  have hat := (upgradeFrom_keeps hn' hdb h).1
  have hsplit := h
  rw [show n = (8 - k) + (1 + (k + n - 9)) by omega, upgradeFrom_add] at hsplit
  obtain ⟨db₈, h₈, hsplit⟩ := Option.bind_eq_some_iff.mp hsplit
  have hdb₈ := (upgradeFrom_keeps (by omega) hdb h₈).1
  have husers := upgradeFrom_users (by omega) hdb h₈
  rw [Nat.add_sub_cancel' hk] at hdb₈ hsplit
  rw [upgradeFrom_add] at hsplit
  obtain ⟨db₉, h₉, hrest⟩ := Option.bind_eq_some_iff.mp hsplit
  obtain ⟨_, hup, heq⟩ := Option.bind_eq_some_iff.mp h₉
  obtain rfl := Option.some.inj heq
  obtain ⟨db₉', hup', hassigned⟩ := addOrganizations_assigns (E := E) hdb₈ (by rw [husers]; exact hids)
  obtain rfl := Option.some.inj (hup'.symm.trans hup)
  have hdb₉ := (upgrade_keeps (by decide) hdb₈ hup).1
  have hseen := (upgradeFrom_keeps (by omega) hdb₉ hrest).2
  have hall : Assigned (.uuid (E.uuid4 0)) db' := by
    refine hassigned.of_project ?_
    rw [hseen, ← hdb₉.schema, hdb₉.fits.project_eq]
  refine ⟨db', .uuid (E.uuid4 0), h, hall, fun hlt => ?_⟩
  refine hall.belongs (k := k + n - 1) (by omega) (by omega) ?_
  rwa [Nat.sub_add_cancel (by omega)]

theorem upgrade_assigns_installation : ∃ db' org, upgradeFrom default 1 10 installation = some db' ∧
    Assigned org db' ∧ ∀ t ∈ scopedTables, ∀ r ∈ db'.data t, r "org_id" = some org := by
  obtain ⟨db', org, h, hassigned, hscoped⟩ := upgrade_assigns (k := 1) (n := 10) (by decide) (by decide)
    (by decide) installation_at installation_fresh
  exact ⟨db', org, h, hassigned, hscoped (by decide)⟩

end Migrations

end Dtsys
