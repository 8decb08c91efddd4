/-
  WHICH STATEMENTS GO THROUGH.

  A statement of `Dtsys.Lib.Ddl` fails if a constraint is violated after it.  To know that it does not, only the
  rows that it writes or newly constrains have to be looked at, because constraints look at nothing that
  their schema does not see (`TableOk.of_project`):

  1. **Tables** — `consistent_after`: a statement that adds or removes something goes through if the rows meet
     what it asks of them (`Op.Fine`), and no foreign key is left without its column.

  2. **Scripts** — `exec_fine`: a script goes through if what it asks of the rows is seen by a schema that it
     leaves alone.  `exec_restrict`: what is left after going back is what the schema in the end sees.

  3. **Rows** — `step_update`, `step_assign`, `step_insert`; `exec_backfill`.
-/
import Dtsys.Lib.Ddl

namespace Dtsys

namespace Ddl

variable {ν : Type}

/-! ## What constraints look at -/

/-- A row that is seen as before was there before. -/
theorem mem_of_project_eq {S : Schema} {data data' : Data ν} (h : S.project data' = S.project data)
    {t : String} {d : TableDef} (hd : S.lookup t = some d) {r : Tuple ν} (hr : r ∈ data' t) :
    ∃ r₀ ∈ data t, ∀ c ∈ d.names, r₀ c = r c := by
  have hmem : Tuple.only d.names r ∈ S.project data t := by
    rw [← h, project_of_lookup hd]
    exact List.mem_map_of_mem hr
  rw [project_of_lookup hd] at hmem
  obtain ⟨r₀, hr₀, heq⟩ := List.mem_map.mp hmem
  refine ⟨r₀, hr₀, fun c hc => ?_⟩
  have happ := congrFun heq c
  rwa [Tuple.only, Tuple.only, if_pos hc, if_pos hc] at happ

/-- The keys of a table are seen by its columns. -/
theorem distinct_only {k names : List String} (hk : ∀ c ∈ k, c ∈ names) {rows : List (Tuple ν)} :
    Distinct k (rows.map (Tuple.only names)) ↔ Distinct k rows := by
  rw [Distinct, Distinct, List.pairwise_map]
  have hrow : ∀ r : Tuple ν, ∀ c ∈ k, Tuple.only names r c = r c := fun r c hc => if_pos (hk c hc)
  have hagree : ∀ r r' : Tuple ν,
      (∀ c ∈ k, Tuple.only names r c ≠ none ∧ Tuple.only names r c = Tuple.only names r' c) ↔
        ∀ c ∈ k, r c ≠ none ∧ r c = r' c := by
    intro r r'
    refine forall_congr' fun c => forall_congr' fun hc => ?_
    rw [hrow r c hc, hrow r' c hc]
  constructor
  · exact fun h => h.imp fun hne hall => hne ((hagree _ _).mpr hall)
  · exact fun h => h.imp fun hne hall => hne ((hagree _ _).mp hall)

/-- Rows that differ in some columns differ in more. -/
theorem distinct_mono {k k' : List String} (hk : ∀ c ∈ k, c ∈ k') {rows : List (Tuple ν)}
    (h : Distinct k rows) : Distinct k' rows :=
  h.imp fun hno hall => hno fun c hc => hall c (hk c hc)

/-- **Constraints look at nothing that their schema does not see.** -/
theorem TableOk.of_project {S : Schema} (hS : S.Closed) {data data' : Data ν}
    (h : S.project data' = S.project data) {t : String} {d : TableDef} (hd : S.lookup t = some d)
    (hok : TableOk data t d) : TableOk data' t d := by
  obtain ⟨hscoped, hrefs⟩ := each_iff.mp hS t d hd
  constructor
  · intro c hc hnull r hr
    obtain ⟨r₀, hr₀, hsame⟩ := mem_of_project_eq h hd hr
    rw [← hsame c.name (List.mem_map_of_mem hc)]
    exact hok.notNull c hc hnull r₀ hr₀
  · intro k hk
    have hrows : (data' t).map (Tuple.only d.names) = (data t).map (Tuple.only d.names) := by
      rw [← project_of_lookup hd, ← project_of_lookup hd, h]
    rw [← distinct_only (hscoped.keys k hk), hrows, distinct_only (hscoped.keys k hk)]
    exact hok.unique k hk
  · intro fk hfk r hr hnull
    obtain ⟨r₀, hr₀, hsame⟩ := mem_of_project_eq h hd hr
    have hcol := hsame fk.column (hscoped.foreignKeys fk hfk)
    obtain ⟨r₁, hr₁, href⟩ := hok.references fk hfk r₀ hr₀ (hcol ▸ hnull)
    obtain ⟨e, he, hname⟩ := lookup_of_names (hrefs fk hfk)
    obtain ⟨r₂, hr₂, hsame₂⟩ := mem_of_project_eq h.symm he hr₁
    exact ⟨r₂, hr₂, by rw [hsame₂ fk.ref hname, href, hcol]⟩

/-- No new constraints. -/
structure TableDef.Weaker (d' d : TableDef) : Prop where
  notNull : ∀ c ∈ d'.columns, c.nullable = false → c ∈ d.columns
  keys : ∀ k ∈ d'.keys, k ∈ d.keys
  foreignKeys : ∀ fk ∈ d'.foreignKeys, fk ∈ d.foreignKeys

theorem TableOk.weaken {data : Data ν} {t : String} {d d' : TableDef} (h : TableOk data t d)
    (hw : d'.Weaker d) : TableOk data t d' :=
  ⟨fun c hc hnull => h.notNull c (hw.notNull c hc hnull) hnull, fun k hk => h.unique k (hw.keys k hk),
    fun fk hfk => h.references fk (hw.foreignKeys fk hfk)⟩

theorem mem_keys {d : TableDef} {k : List String} : k ∈ d.keys ↔ k = d.primaryKey ∨
    (∃ u ∈ d.uniques, u.columns = k) ∨ ∃ ix ∈ d.indexes, ix.unique = true ∧ ix.columns = k := by
  simp only [TableDef.keys, List.mem_cons, List.mem_append, List.mem_map, List.mem_filter, and_assoc]

theorem weaker_refl (d : TableDef) : d.Weaker d :=
  ⟨fun _ hc _ => hc, fun _ hk => hk, fun _ hfk => hfk⟩

/-- A table without a column asks for less. -/
theorem weaker_without (d : TableDef) (c : String) : (d.without c).Weaker d := by
  refine ⟨fun x hx _ => (List.mem_filter.mp hx).1, fun k hk => ?_,
    fun fk hfk => (List.mem_filter.mp hfk).1⟩
  rcases mem_keys.mp hk with hk | ⟨u, hu, hk⟩ | ⟨ix, hix, hk⟩
  · exact mem_keys.mpr (.inl hk)
  · exact mem_keys.mpr (.inr (.inl ⟨u, (List.mem_filter.mp hu).1, hk⟩))
  · exact mem_keys.mpr (.inr (.inr ⟨ix, (List.mem_filter.mp hix).1, hk⟩))

/-- What the rows have to meet for a change of the tables; of `UPDATE` and `INSERT` nothing is said
    here. -/
def Op.Fine (data : Data ν) : Op ν → Prop
  | .addColumn t c v fk => (v = none → c.nullable = true ∨ data t = []) ∧ (fk = none ∨ v = none)
  | .createIndex t ix => ix.unique = true → Distinct ix.columns (data t)
  | .createUnique t k => Distinct k.columns (data t)
  | .setNotNull t c => ∀ r ∈ data t, r c ≠ none
  | .createTable .. | .dropTable _ | .dropColumn .. | .dropIndex _ | .dropUnique .. => True
  | .update .. | .insert .. => False

/-- A statement that goes through whatever the rows are. -/
def Op.Safe : Op ν → Prop
  | .addColumn _ c v fk => (v.isNone → c.nullable = true) ∧ (fk = none ∨ v.isNone)
  | .createIndex _ ix => ix.unique = false
  | .createTable .. | .dropTable _ | .dropColumn .. | .dropIndex _ | .dropUnique .. => True
  | .createUnique .. | .setNotNull .. | .update .. | .insert .. => False

instance : ∀ op : Op ν, Decidable op.Safe
  | .addColumn .. => inferInstanceAs (Decidable (_ ∧ _))
  | .createIndex .. => inferInstanceAs (Decidable (_ = false))
  | .createTable .. | .dropTable _ | .dropColumn .. | .dropIndex _ | .dropUnique .. =>
    inferInstanceAs (Decidable True)
  | .createUnique .. | .setNotNull .. | .update .. | .insert .. => inferInstanceAs (Decidable False)

/-- A statement that is safe can be done on any rows. -/
theorem Op.Safe.fine {op : Op ν} (h : op.Safe) (data : Data ν) : op.Fine data := by
  cases op with
  | addColumn t c v fk =>
    exact ⟨fun hv => .inl (h.1 (by rw [hv]; rfl)), h.2.imp id Option.isNone_iff_eq_none.mp⟩
  | createIndex t ix =>
    intro hun
    rw [show ix.unique = false from h] at hun
    cases hun
  | createTable t d => trivial
  | dropTable t => trivial
  | dropColumn t c => trivial
  | dropIndex name => trivial
  | dropUnique t name => trivial
  | createUnique t k => cases h
  | setNotNull t c => cases h
  | update t c f => cases h
  | insert t row conflict => cases h

/-- A statement that creates a table or an index. -/
def Op.Creates : Op ν → Prop
  | .createTable .. | .createIndex .. => True
  | _ => False

instance : ∀ op : Op ν, Decidable op.Creates
  | .createTable .. | .createIndex .. => inferInstanceAs (Decidable True)
  | .dropTable _ | .addColumn .. | .dropColumn .. | .dropIndex _ | .createUnique .. | .dropUnique ..
  | .setNotNull .. | .update .. | .insert .. => inferInstanceAs (Decidable False)

variable {S' : Schema} {db : Database ν}

/-- The table that `ALTER TABLE` is about is to be looked at again. -/
theorem Database.Consistent.alter (h : db.Consistent) {t : String} {f : TableDef → Option TableDef}
    (hS : db.schema.alter t f = some S') (hclosed : S'.Closed) {data : Data ν}
    (hother : ∀ u d, u ≠ t → db.schema.lookup u = some d → TableOk data u d)
    (htable : ∀ d d', db.schema.lookup t = some d → TableOk db.data t d → f d = some d' →
      TableOk data t d') : (Database.mk S' data).Consistent := by
  obtain ⟨d, d', hd, hd', hlook⟩ := lookup_alter hS
  refine ⟨hclosed, each_iff.mpr fun u e hu => ?_⟩
  rw [hlook] at hu
  split at hu
  · subst u
    obtain rfl := Option.some.inj hu
    exact htable d d' hd (each_iff.mp h.2 t d hd) hd'
  · exact hother u e ‹_› hu

/-- Rows may be hidden from the schema, and constraints lifted. -/
theorem Database.Consistent.narrow (h : db.Consistent) (hclosed : S'.Closed) {data : Data ν}
    (hdata : S'.project data = S'.project db.data)
    (hweaker : ∀ t d', S'.lookup t = some d' → ∃ d, db.schema.lookup t = some d ∧ d'.Weaker d) :
    (Database.mk S' data).Consistent := by
  refine ⟨hclosed, each_iff.mpr fun t d' hd' => ?_⟩
  obtain ⟨d, hd, hw⟩ := hweaker t d' hd'
  exact ((each_iff.mp h.2 t d hd).weaken hw).of_project hclosed hdata hd'

section

variable [DecidableEq ν] {op : Op ν}

/-- **A change of the tables goes through** if the rows meet what it asks of them, and every foreign key
    still refers to something. -/
theorem consistent_after (h : db.Consistent) (hS : op.onSchema db.schema = some S')
    (hclosed : S'.Closed) (hfine : op.Fine db.data) :
    (Database.mk S' (op.onData db.data)).Consistent := by
  have hsame : ∀ u d, db.schema.lookup u = some d → TableOk db.data u d := each_iff.mp h.2
  cases op with
  | createTable t d =>
    rw [Op.onSchema] at hS
    split at hS
    · rename_i hfree
      obtain rfl := Option.some.inj hS
      refine ⟨hclosed, each_iff.mpr fun u e hu => ?_⟩
      rw [lookup_create] at hu
      by_cases hut : u = t
      · have hnil : Op.onData db.data (.createTable t d) u = [] := by
          rw [hut]
          exact Function.update_self ..
        have hnone : ∀ r, r ∉ Op.onData db.data (.createTable t d) u := by
          intro r
          rw [hnil]
          exact List.not_mem_nil
        refine ⟨fun _ _ _ r hr => absurd hr (hnone r), fun k _ => ?_,
          fun _ _ r hr => absurd hr (hnone r)⟩
        show Distinct k (Op.onData db.data (.createTable t d) u)
        rw [hnil]
        exact List.Pairwise.nil
      · rw [if_neg hut, Option.or_none] at hu
        exact (hsame u e hu).of_project h.1 (project_missing hfree.1 []) hu
    · cases hS
  | dropTable t =>
    rw [Op.onSchema] at hS
    split at hS
    · cases hS
    · obtain rfl := Option.some.inj hS
      refine h.narrow hclosed (project_missing ?_ []) fun u d' hd' => ?_
      · rw [lookup_filter, if_pos rfl]
      · rw [lookup_filter] at hd'
        split at hd'
        · cases hd'
        · exact ⟨d', hd', weaker_refl d'⟩
  | addColumn t c v fk =>
    obtain ⟨hvalue, hfk⟩ := hfine
    obtain ⟨d, d', hd, hd', hlook⟩ := lookup_alter hS
    have hnew : c.name ∉ d.names := by
      intro hin
      rw [if_pos hin] at hd'
      cases hd'
    rw [if_neg hnew] at hd'
    -- the old constraints do not look at the new column
    have hold : ∀ u e, db.schema.lookup u = some e →
        TableOk (Op.onData db.data (.addColumn t c v fk)) u e := fun u e he =>
      (hsame u e he).of_project h.1 (project_hidden (names_of_lookup hd ▸ hnew) fun _ => v) he
    have hrows : ∀ r ∈ Op.onData db.data (.addColumn t c v fk) t, r c.name = v ∧ db.data t ≠ [] := by
      intro r hr
      rw [Op.onData, Function.update_self] at hr
      obtain ⟨r₀, hr₀, rfl⟩ := List.mem_map.mp hr
      exact ⟨Function.update_self .., List.ne_nil_of_mem hr₀⟩
    refine h.alter hS hclosed (fun u e _ he => hold u e he) fun d₁ d₂ hd₁ _ hd₂ => ?_
    obtain rfl := Option.some.inj (hd.symm.trans hd₁)
    rw [if_neg hnew] at hd₂
    obtain rfl := Option.some.inj hd₂
    have hok := hold t d hd
    constructor
    · intro x hx hnull r hr
      rcases List.mem_append.mp hx with hx | hx
      · exact hok.notNull x hx hnull r hr
      · obtain rfl := List.mem_singleton.mp hx
        obtain ⟨hr, hne⟩ := hrows r hr
        rw [hr]
        intro hv
        rcases hvalue hv with htrue | hempty
        · rw [hnull] at htrue
          cases htrue
        · exact hne hempty
    · exact hok.unique
    · intro fk' hfk' r hr hnull
      rcases List.mem_append.mp hfk' with hfk' | hfk'
      · exact hok.references fk' hfk' r hr hnull
      · obtain ⟨x, hx, rfl⟩ := List.mem_map.mp hfk'
        rw [(hrows r hr).1] at hnull
        rcases hfk with rfl | hv
        · cases hx
        · exact absurd hv hnull
  | dropColumn t c =>
    obtain ⟨d, d', hd, hd', hlook⟩ := lookup_alter hS
    have hc : c ∈ d.names := by
      by_contra hno
      rw [if_neg hno] at hd'
      cases hd'
    rw [if_pos hc] at hd'
    obtain rfl := Option.some.inj hd'
    refine h.narrow hclosed (project_hidden ?_ fun _ => none) fun u e he => ?_
    · have hnames : S'.names t = (d.without c).names :=
        names_of_lookup (by rw [hlook, if_pos rfl])
      rw [hnames]
      intro hin
      obtain ⟨x, hx, hname⟩ := List.mem_map.mp hin
      exact (of_decide_eq_true (List.mem_filter.mp hx).2) hname
    · rw [hlook] at he
      split at he
      · subst u
        obtain rfl := Option.some.inj he
        exact ⟨d, hd, weaker_without d c⟩
      · exact ⟨e, he, weaker_refl e⟩
  | createIndex t ix =>
    refine h.alter hS hclosed (fun u e _ he => hsame u e he) fun d d' hd hok hd' => ?_
    split at hd'
    · obtain rfl := Option.some.inj hd'
      refine ⟨hok.notNull, fun k hk => ?_, hok.references⟩
      rcases mem_keys.mp hk with hk | hk | ⟨x, hx, hun, rfl⟩
      · exact hok.unique k (mem_keys.mpr (.inl hk))
      · exact hok.unique k (mem_keys.mpr (.inr (.inl hk)))
      · rcases List.mem_append.mp hx with hx | hx
        · exact hok.unique x.columns (mem_keys.mpr (.inr (.inr ⟨x, hx, hun, rfl⟩)))
        · obtain rfl := List.mem_singleton.mp hx
          exact hfine hun
    · cases hd'
  | createUnique t k =>
    refine h.alter hS hclosed (fun u e _ he => hsame u e he) fun d d' hd hok hd' => ?_
    split at hd'
    · obtain rfl := Option.some.inj hd'
      refine ⟨hok.notNull, fun k' hk' => ?_, hok.references⟩
      rcases mem_keys.mp hk' with hk' | ⟨u, hu, rfl⟩ | hk'
      · exact hok.unique k' (mem_keys.mpr (.inl hk'))
      · rcases List.mem_append.mp hu with hu | hu
        · exact hok.unique u.columns (mem_keys.mpr (.inr (.inl ⟨u, hu, rfl⟩)))
        · obtain rfl := List.mem_singleton.mp hu
          exact hfine
      · exact hok.unique k' (mem_keys.mpr (.inr (.inr hk')))
    · cases hd'
  | setNotNull t c =>
    refine h.alter hS hclosed (fun u e _ he => hsame u e he) fun d d' hd hok hd' => ?_
    split at hd'
    · obtain rfl := Option.some.inj hd'
      refine ⟨fun x hx hnull r hr => ?_, hok.unique, hok.references⟩
      obtain ⟨y, hy, rfl⟩ := List.mem_map.mp hx
      by_cases hname : y.name = c
      · rw [if_pos hname]
        exact hfine r hr
      · rw [if_neg hname] at hnull ⊢
        exact hok.notNull y hy hnull r hr
    · cases hd'
  | dropUnique t name =>
    refine h.alter hS hclosed (fun u e _ he => hsame u e he) fun d d' hd hok hd' => ?_
    split at hd'
    · obtain rfl := Option.some.inj hd'
      refine hok.weaken ⟨fun _ hc _ => hc, fun k hk => ?_, fun _ hfk => hfk⟩
      rcases mem_keys.mp hk with hk | ⟨u, hu, hk⟩ | hk
      · exact mem_keys.mpr (.inl hk)
      · exact mem_keys.mpr (.inr (.inl ⟨u, (List.mem_filter.mp hu).1, hk⟩))
      · exact mem_keys.mpr (.inr (.inr hk))
    · cases hd'
  | dropIndex name =>
    rw [Op.onSchema] at hS
    split at hS
    · obtain rfl := Option.some.inj hS
      refine ⟨hclosed, each_iff.mpr fun u e hu => ?_⟩
      rw [lookup_map fun _ d => { d with indexes := d.indexes.filter fun ix => ix.name ≠ name }] at hu
      obtain ⟨d, hd, rfl⟩ := Option.map_eq_some_iff.mp hu
      refine (hsame u d hd).weaken ⟨fun _ hc _ => hc, fun k hk => ?_, fun _ hfk => hfk⟩
      rcases mem_keys.mp hk with hk | hk | ⟨ix, hix, hk⟩
      · exact mem_keys.mpr (.inl hk)
      · exact mem_keys.mpr (.inr (.inl hk))
      · exact mem_keys.mpr (.inr (.inr ⟨ix, (List.mem_filter.mp hix).1, hk⟩))
    · cases hS
  | update t c f => cases hfine
  | insert t row conflict => cases hfine

end

/-- The tables after a statement, if every foreign key still refers to something. -/
def schemaStep (S : Schema) (op : Op ν) : Option Schema :=
  (op.onSchema S).bind fun S' => if S'.Closed then some S' else none

/-- A statement without the values that it computes. -/
def Op.shape : Op ν → Op ν
  | .update t c _ => .update t c fun _ _ => none
  | op => op

theorem outside_shape {S : Schema} {op : Op ν} : op.shape.Outside S ↔ op.Outside S := by
  cases op <;> exact Iff.rfl

/-- The shape of a statement does to the tables what the statement does. -/
theorem schemaStep_shape {S : Schema} {op : Op ν} : schemaStep S op.shape = schemaStep S op := by
  cases op <;> rfl

/-- And so does that of a script. -/
theorem exec_shape : ∀ {ops : List (Op ν)} {S : Schema},
    Run.exec schemaStep S (ops.map Op.shape) = Run.exec schemaStep S ops := by
  intro ops
  induction ops with
  | nil => exact rfl
  | cons op ops ih =>
    intro S
    show (schemaStep S op.shape).bind _ = (schemaStep S op).bind _
    rw [schemaStep_shape]
    exact congrArg _ (funext fun _ => ih)

/-- A statement that writes rows only. -/
def Op.Writes : Op ν → Prop
  | .update .. | .insert .. => True
  | _ => False

/-- A statement that writes rows changes no table. -/
theorem schemaStep_writes {S S' : Schema} {op : Op ν} (hop : op.Writes)
    (h : schemaStep S op = some S') : S' = S := by
  obtain ⟨S₁, hS₁, h⟩ := Option.bind_eq_some_iff.mp h
  have hsame : S₁ = S := by
    cases op with
    | update t c f =>
      rw [Op.onSchema] at hS₁
      split at hS₁
      · exact (Option.some.inj hS₁).symm
      · cases hS₁
    | insert t row conflict =>
      rw [Op.onSchema] at hS₁
      split at hS₁
      · exact (Option.some.inj hS₁).symm
      · cases hS₁
    | _ => cases hop
  split at h
  · exact (Option.some.inj h).symm.trans hsame
  · cases h

/-- Nor does a script of such statements. -/
theorem exec_writes : ∀ {ops : List (Op ν)} {S S' : Schema}, (∀ op ∈ ops, op.Writes) →
    Run.exec schemaStep S ops = some S' → S' = S := by
  intro ops
  induction ops with
  | nil =>
    intro S S' _ h
    rw [Run.exec_nil] at h
    exact (Option.some.inj h).symm
  | cons op ops ih =>
    intro S S' hops h
    obtain ⟨S₁, hstep, hrest⟩ := Run.exec_cons_eq.mp h
    rw [ih (fun o ho => hops o (List.mem_cons_of_mem op ho)) hrest,
      schemaStep_writes (hops op List.mem_cons_self) hstep]

/-- A column that no key looks at and no foreign key refers to, and that only refers to `u`. -/
def Schema.Assignable (S : Schema) (t c u ref : String) : Prop :=
  c ∈ S.names t ∧ S.Each fun s d =>
    (s = t → (∀ k ∈ d.keys, c ∉ k) ∧ (∀ x ∈ d.columns, x.name = c → x.nullable = true) ∧
      ∀ fk ∈ d.foreignKeys, fk.column = c → fk.table = u ∧ fk.ref = ref) ∧
    ∀ fk ∈ d.foreignKeys, fk.table = t → fk.ref ≠ c

instance (S : Schema) (t c u ref : String) : Decidable (S.Assignable t c u ref) :=
  inferInstanceAs (Decidable (_ ∧ S.Each _))

/-- Where a column that refers to `u` was just added. -/
theorem assignable_added {S : Schema} (hS : S.Closed) {t c u ref : String} {v : Option ν} {S₁ : Schema}
    (hadd : (Op.addColumn t ⟨c, true⟩ v (some (u, ref))).onSchema S = some S₁) (hne : u ≠ t) :
    S₁.Assignable t c u ref := by
  obtain ⟨d, d', hd, hd', hlook⟩ := lookup_alter hadd
  have hnew : c ∉ d.names := by
    intro hin
    rw [if_pos hin] at hd'
    cases hd'
  rw [if_neg hnew] at hd'
  obtain rfl := Option.some.inj hd'
  -- nothing that was there before knows of the column
  have hold : ∀ s e, S.lookup s = some e → ∀ fk ∈ e.foreignKeys, fk.table = t → fk.ref ≠ c := by
    rintro s e he fk hfk htable rfl
    have href := (each_iff.mp hS s e he).2 fk hfk
    rw [htable, names_of_lookup hd] at href
    exact hnew href
  obtain ⟨hscoped, -⟩ := each_iff.mp hS t d hd
  have hlookt := hlook t
  rw [if_pos rfl] at hlookt
  refine ⟨?_, each_iff.mpr fun s e he => ?_⟩
  · rw [names_of_lookup hlookt]
    exact List.mem_map_of_mem (List.mem_append_right _ (List.mem_singleton_self _))
  · rw [hlook] at he
    split at he
    · obtain rfl := Option.some.inj he
      subst s
      refine ⟨fun _ => ⟨fun k hk hc => hnew (hscoped.keys k hk c hc), fun x hx hxc => ?_,
        fun fk hfk hcol => ?_⟩, fun fk hfk htable => ?_⟩
      · rcases List.mem_append.mp hx with hx | hx
        · exact absurd (hxc ▸ List.mem_map_of_mem hx) hnew
        · rw [List.mem_singleton.mp hx]
      · rcases List.mem_append.mp hfk with hfk | hfk
        · exact absurd (hcol ▸ hscoped.foreignKeys fk hfk) hnew
        · obtain rfl := List.mem_singleton.mp hfk
          exact ⟨rfl, rfl⟩
      · rcases List.mem_append.mp hfk with hfk | hfk
        · exact hold t d hd fk hfk htable
        · obtain rfl := List.mem_singleton.mp hfk
          exact absurd htable hne
    · rename_i hst
      exact ⟨fun h => absurd h hst, hold s e he⟩

section

variable [DecidableEq ν] {S : Schema} {db db' : Database ν} {op : Op ν}

/-- A statement that is fine goes through. -/
theorem step_fine (h : db.Consistent) (hS : schemaStep db.schema op = some S)
    (hfine : op.Fine db.data) : step db op = some ⟨S, op.onData db.data⟩ := by
  obtain ⟨S', hop, hclosed⟩ := Option.bind_eq_some_iff.mp hS
  split at hclosed
  · obtain rfl := Option.some.inj hclosed
    exact step_eq_some.mpr ⟨hop, rfl, consistent_after h hop ‹_› hfine⟩
  · cases hclosed

theorem Database.Consistent.exec (h : db.Consistent) {ops : List (Op ν)}
    (hs : Run.exec step db ops = some db') : db'.Consistent :=
  Run.exec_inv (fun _ _ _ _ hstep _ => (step_eq_some.mp hstep).2.2) (Run.guarded_true ops db) hs h

/-- A script changes the schema in the same way whatever the rows are. -/
theorem exec_schema : ∀ {ops : List (Op ν)} {db : Database ν}, Run.exec step db ops = some db' →
    Run.exec schemaStep db.schema ops = some db'.schema := by
  intro ops
  induction ops with
  | nil =>
    intro db h
    rw [Run.exec_nil] at h ⊢
    rw [Option.some.inj h]
  | cons op ops ih =>
    intro db h
    obtain ⟨db₁, hstep, hrest⟩ := Run.exec_cons_eq.mp h
    obtain ⟨hS, -, hcons⟩ := step_eq_some.mp hstep
    refine Run.exec_cons_eq.mpr ⟨db₁.schema, ?_, ih hrest⟩
    rw [schemaStep, hS]
    exact if_pos hcons.1

/-- The rows after a script. -/
theorem exec_data : ∀ {ops : List (Op ν)} {db : Database ν}, Run.exec step db ops = some db' →
    db'.data = ops.foldl Op.onData db.data := by
  intro ops
  induction ops with
  | nil =>
    intro db h
    rw [Run.exec_nil] at h
    rw [← Option.some.inj h]
    rfl
  | cons op ops ih =>
    intro db h
    obtain ⟨db₁, hstep, hrest⟩ := Run.exec_cons_eq.mp h
    rw [ih hrest, (step_eq_some.mp hstep).2.1]
    rfl

/-- **A script goes through** if what it asks of the rows can be seen by a schema it is outside of. -/
theorem exec_fine {T : Schema} : ∀ {ops : List (Op ν)} {db : Database ν}, db.Consistent →
    Run.exec schemaStep db.schema ops = some S → (∀ op ∈ ops, op.Outside T) →
    (∀ op ∈ ops, ∀ data, T.project data = T.project db.data → op.Fine data) →
    ∃ data, Run.exec step db ops = some ⟨S, data⟩ := by
  intro ops
  induction ops with
  | nil =>
    intro db _ hS _ _
    rw [Run.exec_nil] at hS
    obtain rfl := Option.some.inj hS
    exact ⟨db.data, rfl⟩
  | cons op ops ih =>
    intro db h hS hout hfine
    obtain ⟨S₁, hstep, hrest⟩ := Run.exec_cons_eq.mp hS
    have hdb := step_fine h hstep (hfine op List.mem_cons_self _ rfl)
    have hseen := project_onData (hout op List.mem_cons_self) db.data
    have hcons : (Database.mk S₁ (op.onData db.data)).Consistent := (step_eq_some.mp hdb).2.2
    obtain ⟨data, hdata⟩ := ih hcons hrest
      (fun o ho => hout o (List.mem_cons_of_mem op ho))
      fun o ho data hdata => hfine o (List.mem_cons_of_mem op ho) data (hdata.trans hseen)
    exact ⟨data, Run.exec_cons_eq.mpr ⟨_, hdb, hdata⟩⟩

/-- A script that creates tables and their constraints, where there is no row yet. -/
theorem exec_creates : ∀ {ops : List (Op ν)} {db : Database ν}, db.Consistent → (∀ t, db.data t = []) →
    Run.exec schemaStep db.schema ops = some S → (∀ op ∈ ops, op.Creates) →
    Run.exec step db ops = some ⟨S, db.data⟩ := by
  intro ops
  induction ops with
  | nil =>
    intro db _ _ hS _
    rw [Run.exec_nil] at hS
    obtain rfl := Option.some.inj hS
    rfl
  | cons op ops ih =>
    intro db h hempty hS hops
    obtain ⟨S₁, hstep, hrest⟩ := Run.exec_cons_eq.mp hS
    have hop := hops op List.mem_cons_self
    have hfine : op.Fine db.data := by
      cases op with
      | createTable t d => trivial
      | createIndex t ix =>
        intro _
        rw [hempty]
        exact List.Pairwise.nil
      | _ => cases hop
    have hdata : op.onData db.data = db.data := by
      cases op with
      | createTable t d =>
        show Function.update db.data t [] = db.data
        rw [← hempty t, Function.update_eq_self]
      | createIndex t ix => rfl
      | _ => cases hop
    have hdb := step_fine h hstep hfine
    rw [hdata] at hdb
    have hcons : (Database.mk S₁ db.data).Consistent := (step_eq_some.mp hdb).2.2
    have hih := ih hcons hempty hrest fun o ho => hops o (List.mem_cons_of_mem op ho)
    exact Run.exec_cons_eq.mpr ⟨_, hdb, hih⟩

/-- What a script outside the schema it ends in leaves. -/
theorem exec_eq_restrict (hfits : db.Fits) {ops : List (Op ν)}
    (hs : Run.exec step db ops = some db') (hout : ∀ op ∈ ops, op.Outside db'.schema) :
    db' = db.restrict db'.schema := by
  have hproject := project_exec hout hs
  rw [(hfits.exec hs).project_eq] at hproject
  obtain ⟨S, data⟩ := db'
  dsimp only at hproject ⊢
  rw [hproject]
  rfl

/-- **Going back**: a script that writes nothing the schema it ends in sees ends with what that sees. -/
theorem exec_restrict (h : db.Consistent) (hfits : db.Fits) {ops : List (Op ν)}
    (hS : Run.exec schemaStep db.schema ops = some S) (hout : ∀ op ∈ ops, op.Outside S)
    (hfine : ∀ op ∈ ops, ∀ data, S.project data = S.project db.data → op.Fine data) :
    Run.exec step db ops = some (db.restrict S) := by
  obtain ⟨data, hdata⟩ := exec_fine h hS hout hfine
  rw [hdata, exec_eq_restrict hfits hdata hout]

/-! ## Rows that are written -/

/-- **An `UPDATE`** of a column that no key and no foreign key of another table looks at. -/
theorem step_update (h : db.Consistent) {t c : String} {f : Data ν → Tuple ν → Option ν}
    {d : TableDef} (hd : db.schema.lookup t = some d) (hc : c ∈ d.names)
    (hkeys : ∀ k ∈ d.keys, c ∉ k)
    (hrefs : ∀ u e, db.schema.lookup u = some e → ∀ fk ∈ e.foreignKeys, fk.table = t → fk.ref ≠ c)
    (hnull : ∀ x ∈ d.columns, x.name = c → x.nullable = false → ∀ r ∈ db.data t, f db.data r ≠ none)
    (hfk : ∀ fk ∈ d.foreignKeys, fk.column = c → ∀ r ∈ db.data t, f db.data r ≠ none →
      ∃ r' ∈ db.data fk.table, r' fk.ref = f db.data r) :
    step db (.update t c f) = some ⟨db.schema, (Op.update t c f).onData db.data⟩ := by
  have hschema : (Op.update t c f).onSchema db.schema = some db.schema :=
    if_pos (names_of_lookup hd ▸ hc)
  refine step_eq_some.mpr ⟨hschema, rfl, h.1, each_iff.mpr fun u e he => ?_⟩
  have hok := each_iff.mp h.2 u e he
  show TableOk ((Op.update t c f).onData db.data) u e
  -- every row is still there, in the columns that others refer to
  have hthere : ∀ fk ∈ e.foreignKeys, ∀ r' ∈ db.data fk.table,
      ∃ r ∈ (Op.update t c f).onData db.data fk.table, r fk.ref = r' fk.ref := by
    intro fk hfk r' hr'
    by_cases htable : fk.table = t
    · rw [htable] at hr' ⊢
      refine ⟨Function.update r' c (f db.data r'), ?_, ?_⟩
      · rw [Op.onData, Function.update_self]
        exact List.mem_map_of_mem hr'
      · rw [Function.update_of_ne (hrefs u e he fk hfk htable)]
    · refine ⟨r', ?_, rfl⟩
      rw [Op.onData, Function.update_of_ne htable]
      exact hr'
  by_cases hu : u = t
  · subst hu
    obtain rfl := Option.some.inj (hd.symm.trans he)
    have hrows : (Op.update u c f).onData db.data u =
        (db.data u).map fun r => Function.update r c (f db.data r) := by
      rw [Op.onData, Function.update_self]
    constructor
    · intro x hx hx' r hr
      rw [hrows] at hr
      obtain ⟨r, hmem, rfl⟩ := List.mem_map.mp hr
      by_cases hname : x.name = c
      · rw [hname, Function.update_self]
        exact hnull x hx hname hx' r hmem
      · rw [Function.update_of_ne hname]
        exact hok.notNull x hx hx' r hmem
    · intro k hk
      have hne : ∀ x ∈ k, x ≠ c := by
        rintro x hx rfl
        exact hkeys k hk hx
      show Distinct k ((Op.update u c f).onData db.data u)
      rw [hrows, Distinct, List.pairwise_map]
      refine (hok.unique k hk).imp fun hno hall => hno fun x hx => ?_
      have hagree := hall x hx
      rwa [Function.update_of_ne (hne x hx), Function.update_of_ne (hne x hx)] at hagree
    · intro fk hmem _ hr hne
      rw [hrows] at hr
      obtain ⟨r, hin, rfl⟩ := List.mem_map.mp hr
      by_cases hcol : fk.column = c
      · rw [hcol, Function.update_self] at hne ⊢
        obtain ⟨r', hr', href⟩ := hfk fk hmem hcol r hin hne
        obtain ⟨r₂, hr₂, hsame⟩ := hthere fk hmem r' hr'
        exact ⟨r₂, hr₂, hsame.trans href⟩
      · rw [Function.update_of_ne hcol] at hne ⊢
        obtain ⟨r', hr', href⟩ := hok.references fk hmem r hin hne
        obtain ⟨r₂, hr₂, hsame⟩ := hthere fk hmem r' hr'
        exact ⟨r₂, hr₂, hsame.trans href⟩
  · have hrows : (Op.update t c f).onData db.data u = db.data u := Function.update_of_ne hu ..
    refine ⟨?_, ?_, ?_⟩
    · intro x hx hx' r hr
      rw [hrows] at hr
      exact hok.notNull x hx hx' r hr
    · intro k hk
      show Distinct k ((Op.update t c f).onData db.data u)
      rw [hrows]
      exact hok.unique k hk
    · intro fk hmem r hr hne
      rw [hrows] at hr
      obtain ⟨r', hr', href⟩ := hok.references fk hmem r hr hne
      obtain ⟨r₂, hr₂, hsame⟩ := hthere fk hmem r' hr'
      exact ⟨r₂, hr₂, hsame.trans href⟩

/-- An `UPDATE` that makes rows refer to rows that are there. -/
theorem step_assign (h : db.Consistent) {t c u ref : String} {f : Data ν → Tuple ν → Option ν}
    (hfree : db.schema.Assignable t c u ref)
    (hthere : ∀ r ∈ db.data t, f db.data r ≠ none → ∃ r' ∈ db.data u, r' ref = f db.data r) :
    step db (.update t c f) = some ⟨db.schema, (Op.update t c f).onData db.data⟩ := by
  obtain ⟨hc, heach⟩ := hfree
  obtain ⟨d, hd, hname⟩ := lookup_of_names hc
  obtain ⟨hkeys, hnull, hfk⟩ := (each_iff.mp heach t d hd).1 rfl
  refine step_update h hd hname hkeys (fun s e he fk hmem => (each_iff.mp heach s e he).2 fk hmem) ?_ ?_
  · intro x hx hxc hx'
    rw [hnull x hx hxc] at hx'
    cases hx'
  · intro fk hmem hcol r hr hne
    obtain ⟨htable, href⟩ := hfk fk hmem hcol
    rw [htable, href]
    exact hthere r hr hne

/-- **`SET NOT NULL`** goes through if and only if there is no NULL. -/
theorem step_setNotNull (h : db.Consistent) {t c : String}
    (hS : schemaStep db.schema (.setNotNull t c : Op ν) = some S) :
    (∃ db', step db (.setNotNull t c) = some db') ↔ ∀ r ∈ db.data t, r c ≠ none := by
  constructor
  · rintro ⟨db', hstep⟩ r hr
    obtain ⟨hschema, hdata, hcons⟩ := step_eq_some.mp hstep
    obtain ⟨d, d', hd, hd', hlook⟩ := lookup_alter hschema
    have hc : c ∈ d.names := by
      by_contra hno
      rw [if_neg hno] at hd'
      cases hd'
    rw [if_pos hc] at hd'
    obtain ⟨x, hx, hname⟩ := List.mem_map.mp hc
    obtain rfl := Option.some.inj hd'
    have hok := each_iff.mp hcons.2 t _ (by rw [hlook, if_pos rfl])
    rw [hdata] at hok
    exact hok.notNull ⟨c, false⟩ (List.mem_map.mpr ⟨x, hx, if_pos hname⟩) rfl r hr
  · exact fun hfine => ⟨_, step_fine h hS hfine⟩

/-- `SET c = v WHERE c IS NULL`. -/
def fill (t c : String) (pick : Data ν → Option ν) : Op ν :=
  .update t c fun data r => if r c = none then pick data else r c

/-- A column that is filled, and then has to be. -/
theorem exec_fill (h : db.Consistent) {t c u ref : String} {pick : Data ν → Option ν}
    (hassign : db.schema.Assignable t c u ref) (hnull : ∀ r ∈ db.data t, r c = none)
    (hS : Run.exec schemaStep db.schema [fill t c pick, .setNotNull t c] = some S)
    (hthere : pick db.data ≠ none → ∃ r ∈ db.data u, r ref = pick db.data) :
    (∃ db', Run.exec step db [fill t c pick, .setNotNull t c] = some db') ↔
      pick db.data ≠ none ∨ db.data t = [] := by
  obtain ⟨S₁, hupdate, hS⟩ := Run.exec_cons_eq.mp hS
  obtain ⟨S₂, hset, -⟩ := Run.exec_cons_eq.mp hS
  have hwrites : (fill t c pick).Writes := trivial
  rw [schemaStep_writes hwrites hupdate] at hset
  -- every row of the table gets the same value
  have hvalue : ∀ r ∈ db.data t, (if r c = none then pick db.data else r c) = pick db.data :=
    fun r hr => if_pos (hnull r hr)
  have hstep := step_assign (f := fun data r => if r c = none then pick data else r c) h hassign
    fun r hr hsome => by
      rw [hvalue r hr] at hsome ⊢
      exact hthere hsome
  have hfilled : (∀ r ∈ (fill t c pick).onData db.data t, r c ≠ none) ↔
      pick db.data ≠ none ∨ db.data t = [] := by
    rw [fill, Op.onData, Function.update_self, List.forall_mem_map]
    constructor
    · intro hall
      refine or_iff_not_imp_right.mpr fun hnil => ?_
      obtain ⟨r, hr⟩ := List.exists_mem_of_ne_nil _ hnil
      have hsome := hall r hr
      rwa [Function.update_self, hvalue r hr] at hsome
    · intro hpos r hr
      rw [Function.update_self, hvalue r hr]
      exact hpos.resolve_right (List.ne_nil_of_mem hr)
  refine Iff.trans ?_ ((step_setNotNull (step_eq_some.mp hstep).2.2 hset).trans hfilled)
  constructor
  · rintro ⟨db', hrun⟩
    obtain ⟨db₁, h₁, hrun⟩ := Run.exec_cons_eq.mp hrun
    obtain rfl := Option.some.inj (h₁.symm.trans hstep)
    obtain ⟨db₂, h₂, -⟩ := Run.exec_cons_eq.mp hrun
    exact ⟨db₂, h₂⟩
  · rintro ⟨db₂, h₂⟩
    exact ⟨db₂, Run.exec_cons_eq.mpr ⟨_, hstep, Run.exec_cons_eq.mpr ⟨_, h₂, rfl⟩⟩⟩

/-- A new column that is filled from another table. -/
def backfill (t c u ref : String) (pick : Data ν → Option ν) : List (Op ν) :=
  .addColumn t ⟨c, true⟩ none (some (u, ref)) :: [fill t c pick, .setNotNull t c]

/-- **A backfill** goes through if and only if there is something to fill in, or no row to fill. -/
theorem exec_backfill (h : db.Consistent) {t c u ref : String} {pick : Data ν → Option ν} (hne : u ≠ t)
    (hS : Run.exec schemaStep db.schema (backfill t c u ref pick) = some S)
    (hpick : ∀ data, data u = db.data u → pick data = pick db.data)
    (hthere : pick db.data ≠ none → ∃ r ∈ db.data u, r ref = pick db.data) :
    (∃ db', Run.exec step db (backfill t c u ref pick) = some db') ↔
      pick db.data ≠ none ∨ db.data t = [] := by
  obtain ⟨S₁, hadd, hS⟩ := Run.exec_cons_eq.mp hS
  have hstep := step_fine h hadd ⟨fun _ => .inl rfl, .inr rfl⟩
  have hassign := assignable_added h.1 (step_eq_some.mp hstep).1 hne
  have hrows : (Op.addColumn t ⟨c, true⟩ none (some (u, ref))).onData db.data t =
      (db.data t).map fun r => Function.update r c none := Function.update_self ..
  have hother : (Op.addColumn t ⟨c, true⟩ none (some (u, ref))).onData db.data u = db.data u :=
    Function.update_of_ne hne ..
  have hnull : ∀ r ∈ (Op.addColumn t ⟨c, true⟩ none (some (u, ref))).onData db.data t, r c = none := by
    intro r hr
    rw [hrows] at hr
    obtain ⟨r, -, rfl⟩ := List.mem_map.mp hr
    exact Function.update_self ..
  have hthere' : pick ((Op.addColumn t ⟨c, true⟩ none (some (u, ref))).onData db.data) ≠ none →
      ∃ r ∈ (Op.addColumn t ⟨c, true⟩ none (some (u, ref))).onData db.data u,
        r ref = pick ((Op.addColumn t ⟨c, true⟩ none (some (u, ref))).onData db.data) := by
    rw [hpick _ hother, hother]
    exact hthere
  have hfill := exec_fill (step_eq_some.mp hstep).2.2 hassign hnull hS hthere'
  dsimp only at hfill
  rw [hpick _ hother, hrows, List.map_eq_nil_iff] at hfill
  rw [← hfill]
  constructor
  · rintro ⟨db', hrun⟩
    obtain ⟨db₁, h₁, hrun⟩ := Run.exec_cons_eq.mp hrun
    obtain rfl := Option.some.inj (h₁.symm.trans hstep)
    exact ⟨db', hrun⟩
  · rintro ⟨db', hrun⟩
    exact ⟨db', Run.exec_cons_eq.mpr ⟨_, hstep, hrun⟩⟩

/-- **An `INSERT`** of a row that meets the constraints. -/
theorem step_insert (h : db.Consistent) {t : String} {row : List (String × ν)}
    {conflict : List String} {d : TableDef} (hd : db.schema.lookup t = some d)
    (hrow : ∀ p ∈ row, p.1 ∈ d.names)
    (hnull : ∀ x ∈ d.columns, x.nullable = false → row.lookup x.name ≠ none)
    (hkeys : ∀ k ∈ d.keys, ∀ r ∈ db.data t, ¬ ∀ c ∈ k, r c ≠ none ∧ r c = row.lookup c)
    (hfk : ∀ fk ∈ d.foreignKeys, row.lookup fk.column ≠ none →
      ∃ r ∈ db.data fk.table, r fk.ref = row.lookup fk.column)
    (hno : conflicts conflict (fun c => row.lookup c) (db.data t) = false) :
    step db (.insert t row conflict) = some ⟨db.schema,
      Function.update db.data t (db.data t ++ [fun c => row.lookup c])⟩ := by
  have hschema : (Op.insert t row conflict).onSchema db.schema = some db.schema := by
    refine if_pos ⟨?_, fun p hp => names_of_lookup hd ▸ hrow p hp⟩
    rw [hd]
    exact nofun
  have hdata : (Op.insert t row conflict).onData db.data =
      Function.update db.data t (db.data t ++ [fun c => row.lookup c]) := by
    rw [Op.onData, if_neg (by rw [hno]; exact nofun)]
  refine step_eq_some.mpr ⟨hschema, hdata.symm, h.1, each_iff.mpr fun u e he => ?_⟩
  have hok := each_iff.mp h.2 u e he
  -- References stay good: no row goes away.
  have hmore : ∀ s, ∀ r ∈ db.data s,
      r ∈ Function.update db.data t (db.data t ++ [fun c => row.lookup c]) s := by
    intro s r hr
    by_cases hs : s = t
    · rw [hs] at hr ⊢
      rw [Function.update_self]
      exact List.mem_append_left _ hr
    · rwa [Function.update_of_ne hs]
  show TableOk (Function.update db.data t (db.data t ++ [fun c => row.lookup c])) u e
  -- The other tables have their rows; in the table itself the new row is last.
  by_cases hu : u = t
  · subst hu
    obtain rfl := Option.some.inj (hd.symm.trans he)
    constructor
    · intro x hx hx' r hr
      rw [Function.update_self] at hr
      rcases List.mem_append.mp hr with hr | hr
      · exact hok.notNull x hx hx' r hr
      · rw [List.mem_singleton.mp hr]
        exact hnull x hx hx'
    · intro k hk
      rw [Function.update_self, Distinct, List.pairwise_append]
      refine ⟨hok.unique k hk, List.pairwise_singleton .., fun r hr r' hr' => ?_⟩
      rw [List.mem_singleton.mp hr']
      exact hkeys k hk r hr
    · intro fk hmem r hr hne
      rw [Function.update_self] at hr
      rcases List.mem_append.mp hr with hr | hr
      · obtain ⟨r', hr', href⟩ := hok.references fk hmem r hr hne
        exact ⟨r', hmore _ r' hr', href⟩
      · rw [List.mem_singleton.mp hr] at hne ⊢
        obtain ⟨r', hr', href⟩ := hfk fk hmem hne
        exact ⟨r', hmore _ r' hr', href⟩
  · refine ⟨?_, ?_, ?_⟩
    · intro x hx hx' r hr
      rw [Function.update_of_ne hu] at hr
      exact hok.notNull x hx hx' r hr
    · intro k hk
      rw [Function.update_of_ne hu]
      exact hok.unique k hk
    · intro fk hmem r hr hne
      rw [Function.update_of_ne hu] at hr
      obtain ⟨r', hr', href⟩ := hok.references fk hmem r hr hne
      exact ⟨r', hmore _ r' hr', href⟩

/-! ## When a script goes through -/

/-- From every database that shows what `db` shows, the script goes through if and only if `c`. -/
structure Goes (db : Database ν) (ops : List (Op ν)) (c : Prop) : Prop where
  outside : ∀ op ∈ ops, op.Outside db.schema
  iff : ∀ {mid : Database ν} {S : Schema}, mid.Consistent → db.schema.project mid.data = db.data →
    Run.exec schemaStep mid.schema ops = some S → ((∃ mid', Run.exec step mid ops = some mid') ↔ c)

/-- A script of fine statements goes through. -/
theorem goes_fine {ops : List (Op ν)} (hout : ∀ op ∈ ops, op.Outside db.schema)
    (hfine : ∀ op ∈ ops, ∀ data, db.schema.project data = db.data → op.Fine data) : Goes db ops True := by
  refine ⟨hout, fun {mid S} hmid hseen hS => iff_of_true ?_ trivial⟩
  obtain ⟨data, hdata⟩ := exec_fine hmid hS hout
    fun op hop data hdata => hfine op hop data (hdata.trans hseen)
  exact ⟨_, hdata⟩

theorem Goes.append {ops₁ ops₂ : List (Op ν)} {c₁ c₂ : Prop} (h₁ : Goes db ops₁ c₁)
    (h₂ : Goes db ops₂ c₂) : Goes db (ops₁ ++ ops₂) (c₁ ∧ c₂) := by
  refine ⟨fun op hop => (List.mem_append.mp hop).elim (h₁.outside op) (h₂.outside op),
    fun {mid S} hmid hseen hS => ?_⟩
  obtain ⟨S₁, hS₁, hS₂⟩ := Run.exec_append_eq hS
  have hsecond : ∀ {mid₁}, Run.exec step mid ops₁ = some mid₁ →
      ((∃ mid', Run.exec step mid₁ ops₂ = some mid') ↔ c₂) := by
    intro mid₁ hrun
    refine h₂.iff (S := S) (hmid.exec hrun) ((project_exec h₁.outside hrun).trans hseen) ?_
    rwa [Option.some.inj ((exec_schema hrun).symm.trans hS₁)]
  rw [← h₁.iff hmid hseen hS₁]
  constructor
  · rintro ⟨mid', hrun⟩
    obtain ⟨mid₁, hrun₁, hrun₂⟩ := Run.exec_append_eq hrun
    exact ⟨⟨mid₁, hrun₁⟩, (hsecond hrun₁).mp ⟨mid', hrun₂⟩⟩
  · rintro ⟨⟨mid₁, hrun₁⟩, hc₂⟩
    obtain ⟨mid', hrun₂⟩ := (hsecond hrun₁).mpr hc₂
    exact ⟨mid', Run.exec_append hrun₁ hrun₂⟩

/-- **A script goes through** if and only if its condition holds. -/
theorem Goes.exec {ops : List (Op ν)} {c : Prop} (h : Goes db ops c) (hcons : db.Consistent)
    (hfits : db.Fits) (hS : Run.exec schemaStep db.schema ops = some S) :
    (∃ db', Run.exec step db ops = some db') ↔ c :=
  h.iff hcons hfits.project_eq hS

end

end Ddl

end Dtsys
