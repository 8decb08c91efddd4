/-
  DATA DEFINITION: the statements that change the tables of a relational database, with rows in them.

  1. **Databases** — a `Schema` says which tables there are, with their columns and constraints; the rows
     are kept beside it.  A row says for every name what it holds there, `none` is NULL.

  2. **Statements** — `Op`.  A statement that names something which is not there, or is there already, fails;
     and so does one after which a constraint is violated (`Consistent`), or a foreign key left without the
     column it refers to (`Schema.Closed`).  `Run.exec step` runs a script.

  3. **What a schema sees** — `Schema.project S` keeps of the rows only what `S` has columns for.  A statement
     that is `Outside S` changes nothing that `S` sees (`project_exec`): a script that adds to `S` keeps
     what was there, and one that goes back to `S` keeps exactly that.

  Types and defaults of columns are left out: no statement here looks at them.
-/
import Mathlib.Logic.Function.Basic
import Dtsys.Lib.Run

namespace Dtsys

namespace Ddl

variable {ν : Type}

/-! ## Databases -/

/-- A column, and whether it may hold NULL. -/
structure ColumnDef where
  name : String
  nullable : Bool
  deriving DecidableEq

/-- `column REFERENCES table (ref)`. -/
structure ForeignKey where
  column : String
  table : String
  ref : String
  deriving DecidableEq

/-- A UNIQUE constraint. -/
structure Unique where
  name : String
  columns : List String
  deriving DecidableEq

/-- An index, which may be a unique one. -/
structure Index where
  name : String
  columns : List String
  unique : Bool
  deriving DecidableEq

/-- A table with its constraints and indexes. -/
structure TableDef where
  columns : List ColumnDef
  primaryKey : List String
  uniques : List Unique
  foreignKeys : List ForeignKey
  indexes : List Index
  deriving DecidableEq

/-- The tables by their names. -/
abbrev Schema := List (String × TableDef)

/-- A row: what it holds under a name, `none` being NULL. -/
abbrev Tuple (ν : Type) := String → Option ν

/-- The rows of each table. -/
abbrev Data (ν : Type) := String → List (Tuple ν)

/-- The tables, and the rows in them. -/
structure Database (ν : Type) where
  schema : Schema
  data : Data ν

/-- The names of the columns. -/
def TableDef.names (d : TableDef) : List String := d.columns.map ColumnDef.name

/-- The lists of columns in which no two rows agree. -/
def TableDef.keys (d : TableDef) : List (List String) :=
  d.primaryKey :: (d.uniques.map Unique.columns ++
    (d.indexes.filter Index.unique).map Index.columns)

/-- The columns of a table; none if it is not there. -/
def Schema.names (S : Schema) (t : String) : List String := (S.lookup t).elim [] TableDef.names

/-- Names that are taken by an index. -/
def Schema.indexNames (S : Schema) : List String :=
  S.flatMap fun p => p.2.indexes.map Index.name ++ p.2.uniques.map Unique.name

/-! ## What has to hold -/

/-- No two rows agree in these columns; NULL agrees with nothing. -/
def Distinct (k : List String) (rows : List (Tuple ν)) : Prop :=
  rows.Pairwise fun r r' => ¬ ∀ c ∈ k, r c ≠ none ∧ r c = r' c

/-- The constraints of a table. -/
structure TableOk (data : Data ν) (t : String) (d : TableDef) : Prop where
  notNull : ∀ c ∈ d.columns, c.nullable = false → ∀ r ∈ data t, r c.name ≠ none
  unique : ∀ k ∈ d.keys, Distinct k (data t)
  references : ∀ fk ∈ d.foreignKeys, ∀ r ∈ data t, r fk.column ≠ none →
    ∃ r' ∈ data fk.table, r' fk.ref = r fk.column

/-- Constraints name columns of their table. -/
structure TableDef.Scoped (d : TableDef) : Prop where
  keys : ∀ k ∈ d.keys, ∀ c ∈ k, c ∈ d.names
  foreignKeys : ∀ fk ∈ d.foreignKeys, fk.column ∈ d.names

/-- What holds of each table. -/
def Schema.Each (P : String → TableDef → Prop) (S : Schema) : Prop :=
  ∀ t ∈ S.map Prod.fst, ∀ d ∈ S.lookup t, P t d

/-- Every foreign key refers to a column that is there. -/
def Schema.Closed (S : Schema) : Prop :=
  S.Each fun _ d => d.Scoped ∧ ∀ fk ∈ d.foreignKeys, fk.ref ∈ S.names fk.table

/-- Every reference is to a column that is there, and every constraint is met. -/
def Database.Consistent (db : Database ν) : Prop := db.schema.Closed ∧ db.schema.Each (TableOk db.data)

section

variable [DecidableEq ν]

instance (k : List String) (rows : List (Tuple ν)) : Decidable (Distinct k rows) :=
  inferInstanceAs (Decidable (rows.Pairwise _))

instance (data : Data ν) (t : String) (d : TableDef) : Decidable (TableOk data t d) :=
  decidable_of_iff ((∀ c ∈ d.columns, c.nullable = false → ∀ r ∈ data t, r c.name ≠ none) ∧
      (∀ k ∈ d.keys, Distinct k (data t)) ∧
      ∀ fk ∈ d.foreignKeys, ∀ r ∈ data t, r fk.column ≠ none →
        ∃ r' ∈ data fk.table, r' fk.ref = r fk.column)
    ⟨fun h => ⟨h.1, h.2.1, h.2.2⟩, fun h => ⟨h.notNull, h.unique, h.references⟩⟩

instance (d : TableDef) : Decidable d.Scoped :=
  decidable_of_iff ((∀ k ∈ d.keys, ∀ c ∈ k, c ∈ d.names) ∧
      ∀ fk ∈ d.foreignKeys, fk.column ∈ d.names)
    ⟨fun h => ⟨h.1, h.2⟩, fun h => ⟨h.keys, h.foreignKeys⟩⟩

instance (P : String → TableDef → Prop) [∀ t d, Decidable (P t d)] (S : Schema) :
    Decidable (S.Each P) :=
  inferInstanceAs (Decidable (∀ t ∈ S.map Prod.fst, ∀ d ∈ S.lookup t, P t d))

instance (S : Schema) : Decidable S.Closed := inferInstanceAs (Decidable (S.Each _))

instance (db : Database ν) : Decidable db.Consistent := inferInstanceAs (Decidable (_ ∧ _))

end

/-! ## Statements -/

/-- The statements of a script. -/
inductive Op (ν : Type)
  | createTable (t : String) (d : TableDef)
  | dropTable (t : String)
  /-- the rows that are there get `v`; `fk` is the table and column a `REFERENCES` names -/
  | addColumn (t : String) (c : ColumnDef) (v : Option ν) (fk : Option (String × String))
  | dropColumn (t c : String)
  | createIndex (t : String) (ix : Index)
  | dropIndex (name : String)
  | createUnique (t : String) (k : Unique)
  | dropUnique (t name : String)
  | setNotNull (t c : String)
  /-- `UPDATE t SET c = …`; the new value may depend on the row and on what else is there -/
  | update (t c : String) (f : Data ν → Tuple ν → Option ν)
  /-- `INSERT`, which does nothing where it would conflict in these columns -/
  | insert (t : String) (row : List (String × ν)) (conflict : List String)

/-- Without a column, and without the constraints that name it. -/
def TableDef.without (d : TableDef) (c : String) : TableDef where
  columns := d.columns.filter fun x => x.name ≠ c
  primaryKey := d.primaryKey
  uniques := d.uniques.filter fun k => c ∉ k.columns
  foreignKeys := d.foreignKeys.filter fun fk => fk.column ≠ c
  indexes := d.indexes.filter fun ix => c ∉ ix.columns

/-- `ALTER TABLE`: a table that is there is changed. -/
def Schema.alter (S : Schema) (t : String) (f : TableDef → Option TableDef) : Option Schema :=
  (S.lookup t).bind fun d => (f d).map fun d' => S.map fun p => if p.1 = t then (t, d') else p

/-- The tables after a statement. -/
def Op.onSchema (S : Schema) : Op ν → Option Schema
  | .createTable t d =>
    if S.lookup t = none ∧ ∀ n ∈ Schema.indexNames [(t, d)], n ∉ S.indexNames then
      some (S ++ [(t, d)])
    else none
  | .dropTable t => if S.lookup t = none then none else some (S.filter fun p => p.1 ≠ t)
  | .addColumn t c _ fk => S.alter t fun d =>
    if c.name ∈ d.names then none
    else some { d with
      columns := d.columns ++ [c]
      foreignKeys := d.foreignKeys ++ fk.toList.map fun x => ⟨c.name, x.1, x.2⟩ }
  | .dropColumn t c => S.alter t fun d => if c ∈ d.names then some (d.without c) else none
  | .createIndex t ix => S.alter t fun d =>
    if ix.name ∉ S.indexNames ∧ ∀ c ∈ ix.columns, c ∈ d.names then
      some { d with indexes := d.indexes ++ [ix] }
    else none
  | .dropIndex name =>
    if S.any fun p => p.2.indexes.any fun ix => ix.name = name then
      some (S.map fun p =>
        (p.1, { p.2 with indexes := p.2.indexes.filter fun ix => ix.name ≠ name }))
    else none
  | .createUnique t k => S.alter t fun d =>
    if k.name ∉ S.indexNames ∧ ∀ c ∈ k.columns, c ∈ d.names then
      some { d with uniques := d.uniques ++ [k] }
    else none
  | .dropUnique t name => S.alter t fun d =>
    if d.uniques.any fun k => k.name = name then
      some { d with uniques := d.uniques.filter fun k => k.name ≠ name }
    else none
  | .setNotNull t c => S.alter t fun d =>
    if c ∈ d.names then
      some { d with columns := d.columns.map fun x => if x.name = c then ⟨c, false⟩ else x }
    else none
  | .update t c _ => if c ∈ S.names t then some S else none
  | .insert t row _ =>
    if S.lookup t ≠ none ∧ ∀ p ∈ row, p.1 ∈ S.names t then some S else none

section

variable [DecidableEq ν]

/-- Whether a row agrees with one that is there; never, if there are no columns to compare. -/
def conflicts (columns : List String) (r : Tuple ν) (rows : List (Tuple ν)) : Bool :=
  !columns.isEmpty && rows.any fun r' => columns.all fun c => decide (r c ≠ none ∧ r c = r' c)

/-- The rows after a statement. -/
def Op.onData (data : Data ν) : Op ν → Data ν
  | .createTable t _ | .dropTable t => Function.update data t []
  | .addColumn t c v _ =>
    Function.update data t ((data t).map fun r => Function.update r c.name v)
  | .dropColumn t c => Function.update data t ((data t).map fun r => Function.update r c none)
  | .update t c f => Function.update data t ((data t).map fun r => Function.update r c (f data r))
  | .insert t row conflict =>
    let r : Tuple ν := fun c => row.lookup c
    Function.update data t (if conflicts conflict r (data t) then data t else data t ++ [r])
  | .createIndex .. | .dropIndex _ | .createUnique .. | .dropUnique .. | .setNotNull .. => data

/-- A statement; none that violates a constraint is carried out. -/
def step (db : Database ν) (op : Op ν) : Option (Database ν) :=
  (op.onSchema db.schema).bind fun S =>
    let db' : Database ν := ⟨S, op.onData db.data⟩
    if db'.Consistent then some db' else none

/-- What a statement has done. -/
theorem step_eq_some {db db' : Database ν} {op : Op ν} : step db op = some db' ↔
    op.onSchema db.schema = some db'.schema ∧ db'.data = op.onData db.data ∧ db'.Consistent := by
  rw [step]
  constructor
  · intro h
    obtain ⟨S, hS, h⟩ := Option.bind_eq_some_iff.mp h
    dsimp only at h
    split at h
    · obtain rfl := Option.some.inj h
      exact ⟨hS, rfl, ‹_›⟩
    · cases h
  · rintro ⟨hS, hdata, hcons⟩
    obtain ⟨S, data⟩ := db'
    dsimp only at hS hdata
    subst hdata
    rw [hS]
    exact if_pos hcons

end

/-! ## Lookups -/

/-- A property of each table is one of each that is found. -/
theorem each_iff {P : String → TableDef → Prop} {S : Schema} :
    S.Each P ↔ ∀ t d, S.lookup t = some d → P t d := by
  constructor
  · intro h t d hlook
    refine h t ?_ d hlook
    obtain ⟨l₁, l₂, rfl, -⟩ := List.lookup_eq_some_iff.mp hlook
    simp
  · exact fun h t _ d hd => h t d hd

theorem names_of_lookup {S : Schema} {t : String} {d : TableDef} (h : S.lookup t = some d) :
    S.names t = d.names := by
  rw [Schema.names, h]
  rfl

/-- A column is one of a table. -/
theorem lookup_of_names {S : Schema} {t c : String} (h : c ∈ S.names t) :
    ∃ d, S.lookup t = some d ∧ c ∈ d.names := by
  rw [Schema.names] at h
  cases hlook : S.lookup t with
  | none => rw [hlook] at h; cases h
  | some d => rw [hlook] at h; exact ⟨d, rfl, h⟩

/-- The tables are changed, and keep their names. -/
theorem lookup_map (f : String → TableDef → TableDef) (t : String) : ∀ S : Schema,
    (S.map fun p => (p.1, f p.1 p.2)).lookup t = (S.lookup t).map (f t) := by
  intro S
  induction S with
  | nil => rfl
  | cons p S ih =>
    rw [List.map_cons, List.lookup_cons, List.lookup_cons, ih]
    cases heq : t == p.1 with
    | true => rw [eq_of_beq heq]; rfl
    | false => rfl

theorem lookup_filter (t u : String) : ∀ S : Schema,
    (S.filter fun p => p.1 ≠ t).lookup u = if u = t then none else S.lookup u := by
  intro S
  induction S with
  | nil => simp
  | cons p S ih =>
    rw [List.filter_cons, List.lookup_cons]
    by_cases hp : p.1 = t
    · rw [if_neg (by simpa using hp), ih]
      by_cases hu : u = t
      · rw [if_pos hu, if_pos hu]
      · have hne : (u == p.1) = false := beq_eq_false_iff_ne.mpr fun h => hu (h.trans hp)
        rw [if_neg hu, if_neg hu, hne]
    · rw [if_pos (by simpa using hp), List.lookup_cons, ih]
      cases heq : u == p.1 with
      | false => rfl
      | true =>
        obtain rfl := eq_of_beq heq
        exact (if_neg hp).symm

/-- `ALTER TABLE` changes one table. -/
theorem lookup_alter {S S' : Schema} {t : String} {f : TableDef → Option TableDef}
    (h : S.alter t f = some S') : ∃ d d', S.lookup t = some d ∧ f d = some d' ∧
      ∀ u, S'.lookup u = if u = t then some d' else S.lookup u := by
  obtain ⟨d, hd, h⟩ := Option.bind_eq_some_iff.mp h
  obtain ⟨d', hd', rfl⟩ := Option.map_eq_some_iff.mp h
  refine ⟨d, d', hd, hd', fun u => ?_⟩
  have hmap : (S.map fun p => if p.1 = t then (t, d') else p) =
      S.map fun p => (p.1, (fun n x => if n = t then d' else x) p.1 p.2) := by
    refine List.map_congr_left fun p _ => ?_
    by_cases hp : p.1 = t
    · rw [if_pos hp]
      simp [hp]
    · simp [hp]
  rw [hmap]
  refine (lookup_map (fun n x => if n = t then d' else x) u S).trans ?_
  by_cases hu : u = t
  · rw [hu, hd]
    simp
  · simp [hu]

theorem lookup_create (S : Schema) (t u : String) (d : TableDef) :
    (S ++ [(t, d)]).lookup u = (S.lookup u).or (if u = t then some d else none) := by
  rw [List.lookup_append, List.lookup_cons, List.lookup_nil]
  by_cases hu : u = t
  · rw [if_pos hu, beq_iff_eq.mpr hu]
  · rw [if_neg hu, beq_eq_false_iff_ne.mpr hu]

/-! ## What a schema sees -/

/-- A row in these columns only. -/
def Tuple.only (names : List String) (r : Tuple ν) : Tuple ν := fun c => if c ∈ names then r c else none

/-- The rows in the columns of a schema. -/
def Schema.project (S : Schema) (data : Data ν) : Data ν := fun t =>
  (S.lookup t).elim [] fun d => (data t).map (Tuple.only d.names)

/-- The database with these tables only, and of their rows what there are columns for. -/
def Database.restrict (S : Schema) (db : Database ν) : Database ν := ⟨S, S.project db.data⟩

/-- Rows hold nothing but what there are columns for. -/
structure Database.Fits (db : Database ν) : Prop where
  tables : ∀ t, db.schema.lookup t = none → db.data t = []
  columns : ∀ t d, db.schema.lookup t = some d → ∀ r ∈ db.data t, ∀ c, c ∉ d.names → r c = none

theorem only_eq_self {names : List String} {r : Tuple ν} (h : ∀ c, c ∉ names → r c = none) :
    Tuple.only names r = r := by
  funext c
  rw [Tuple.only]
  split
  · rfl
  · exact (h c ‹_›).symm

/-- A database that fits is seen as a whole. -/
theorem Database.Fits.project_eq {db : Database ν} (h : db.Fits) : db.schema.project db.data = db.data := by
  funext t
  rw [Schema.project]
  cases hlook : db.schema.lookup t with
  | none => exact (h.tables t hlook).symm
  | some d =>
    have hself : ∀ r ∈ db.data t, Tuple.only d.names r = id r :=
      fun r hr => only_eq_self (h.columns t d hlook r hr)
    exact (List.map_congr_left hself).trans (List.map_id _)

/-- What a schema sees of a table that it has. -/
theorem project_of_lookup {S : Schema} {data : Data ν} {t : String} {d : TableDef}
    (h : S.lookup t = some d) : S.project data t = (data t).map (Tuple.only d.names) := by
  rw [Schema.project, h]
  rfl

/-- What is read from columns of `S` alone. -/
theorem map_of_project {α : Type} {S : Schema} {data data' : Data ν}
    (h : S.project data' = S.project data) {t : String} {d : TableDef} (hd : S.lookup t = some d)
    {f : Tuple ν → α} (hf : ∀ r, f (Tuple.only d.names r) = f r) : (data' t).map f = (data t).map f := by
  have hmap : ∀ rows : List (Tuple ν), (rows.map (Tuple.only d.names)).map f = rows.map f := by
    intro rows
    rw [List.map_map]
    exact List.map_congr_left fun r _ => hf r
  rw [← hmap, ← project_of_lookup hd, h, project_of_lookup hd, hmap]

/-- What `S` sees of a table it does not have. -/
theorem project_missing {S : Schema} {data : Data ν} {t : String} (h : S.lookup t = none)
    (rows : List (Tuple ν)) : S.project (Function.update data t rows) = S.project data := by
  funext u
  by_cases hu : u = t
  · rw [Schema.project, Schema.project, hu, h]
    rfl
  · rw [Schema.project, Schema.project, Function.update_of_ne hu]

/-- What `S` sees of a column it does not have. -/
theorem project_hidden {S : Schema} {data : Data ν} {t c : String} (h : c ∉ S.names t)
    (v : Tuple ν → Option ν) :
    S.project (Function.update data t ((data t).map fun r => Function.update r c (v r))) =
      S.project data := by
  funext u
  by_cases hu : u = t
  · subst hu
    cases hlook : S.lookup u with
    | none => rw [Schema.project, Schema.project, hlook]; rfl
    | some d =>
      rw [names_of_lookup hlook] at h
      rw [project_of_lookup hlook, project_of_lookup hlook, Function.update_self, List.map_map]
      refine List.map_congr_left fun r _ => ?_
      funext x
      show (if x ∈ d.names then Function.update r c (v r) x else none) = if x ∈ d.names then r x else none
      split
      · rw [Function.update_of_ne]
        rintro rfl
        exact h ‹_›
      · rfl
  · rw [Schema.project, Schema.project, Function.update_of_ne hu]

/-- A statement that writes nothing that `S` sees. -/
def Op.Outside (S : Schema) : Op ν → Prop
  | .createTable t _ | .dropTable t | .insert t _ _ => S.lookup t = none
  | .addColumn t c _ _ => c.name ∉ S.names t
  | .dropColumn t c | .update t c _ => c ∉ S.names t
  | .createIndex .. | .dropIndex _ | .createUnique .. | .dropUnique .. | .setNotNull .. => True

instance (S : Schema) : ∀ op : Op ν, Decidable (op.Outside S)
  | .createTable .. | .dropTable _ | .insert .. => inferInstanceAs (Decidable (_ = none))
  | .addColumn .. | .dropColumn .. | .update .. => inferInstanceAs (Decidable (_ ∉ _))
  | .createIndex .. | .dropIndex _ | .createUnique .. | .dropUnique .. | .setNotNull .. =>
    inferInstanceAs (Decidable True)

/-- Every column of `T` is one of `S`. -/
def Schema.Within (T S : Schema) : Prop := T.Each fun t d => S.lookup t ≠ none ∧ ∀ c ∈ d.names, c ∈ S.names t

instance (T S : Schema) : Decidable (T.Within S) := inferInstanceAs (Decidable (T.Each _))

theorem within_refl (S : Schema) : S.Within S := by
  refine each_iff.mpr fun t d hd => ⟨by rw [hd]; exact nofun, fun c hc => ?_⟩
  rwa [names_of_lookup hd]

/-- A schema within one that is within a third. -/
theorem Schema.Within.trans {T S R : Schema} (hTS : T.Within S) (hSR : S.Within R) : T.Within R := by
  refine each_iff.mpr fun t d hd => ?_
  obtain ⟨hthere, hnames⟩ := each_iff.mp hTS t d hd
  obtain ⟨e, he⟩ := Option.ne_none_iff_exists'.mp hthere
  obtain ⟨hthere', hnames'⟩ := each_iff.mp hSR t e he
  rw [names_of_lookup he] at hnames
  exact ⟨hthere', fun c hc => hnames' c (hnames c hc)⟩

/-- What `T` sees of what `S` sees. -/
theorem project_project {T S : Schema} (h : T.Within S) (data : Data ν) :
    T.project (S.project data) = T.project data := by
  funext t
  cases hT : T.lookup t with
  | none =>
    show (T.lookup t).elim [] _ = (T.lookup t).elim [] _
    rw [hT]
    rfl
  | some d =>
    obtain ⟨hthere, hnames⟩ := each_iff.mp h t d hT
    obtain ⟨e, hS⟩ := Option.ne_none_iff_exists'.mp hthere
    rw [names_of_lookup hS] at hnames
    rw [project_of_lookup hT, project_of_lookup hT, project_of_lookup hS, List.map_map]
    refine List.map_congr_left fun r _ => ?_
    funext c
    show (if c ∈ d.names then if c ∈ e.names then r c else none else none) =
      if c ∈ d.names then r c else none
    split
    · exact if_pos (hnames c ‹_›)
    · rfl

/-- The table that `ALTER TABLE` is about is to fit again. -/
theorem Database.Fits.alter {db : Database ν} (h : db.Fits) {S' : Schema} {t : String}
    {f : TableDef → Option TableDef} (hS : db.schema.alter t f = some S') {rows : List (Tuple ν)}
    (hrows : ∀ d d', db.schema.lookup t = some d → f d = some d' →
      ∀ r ∈ rows, ∀ c, c ∉ d'.names → r c = none) :
    (Database.mk S' (Function.update db.data t rows)).Fits := by
  obtain ⟨d, d', hd, hd', hlook⟩ := lookup_alter hS
  constructor
  · intro u hu
    dsimp only at hu ⊢
    rw [hlook] at hu
    split at hu
    · cases hu
    · rw [Function.update_of_ne ‹_›]
      exact h.tables u hu
  · intro u e hu r hr
    dsimp only at hu hr
    rw [hlook] at hu
    split at hu
    · subst u
      rw [Function.update_self] at hr
      obtain rfl := Option.some.inj hu
      exact hrows d d' hd hd' r hr
    · rw [Function.update_of_ne ‹_›] at hr
      exact h.columns u e hu r hr

/-- Constraints do not change what fits. -/
theorem Database.Fits.constrain {db : Database ν} (h : db.Fits) {S' : Schema} {t : String}
    {f : TableDef → Option TableDef} (hS : db.schema.alter t f = some S')
    (hnames : ∀ d d', f d = some d' → d'.names = d.names) : (Database.mk S' db.data).Fits := by
  have hfits : (Database.mk S' (Function.update db.data t (db.data t))).Fits :=
    h.alter hS fun d d' hd hd' r hr c hc => h.columns t d hd r hr c (hnames d d' hd' ▸ hc)
  rwa [Function.update_eq_self] at hfits

section

variable [DecidableEq ν] {S : Schema} {db db' : Database ν} {op : Op ν}

/-- **A statement outside** of a schema changes nothing that it sees. -/
theorem project_onData (h : op.Outside S) (data : Data ν) :
    S.project (op.onData data) = S.project data := by
  cases op with
  | createTable t d => exact project_missing h _
  | dropTable t => exact project_missing h _
  | addColumn t c v fk => exact project_hidden h _
  | dropColumn t c => exact project_hidden h _
  | update t c f => exact project_hidden h _
  | insert t row conflict => exact project_missing h _
  | createIndex t ix => rfl
  | dropIndex name => rfl
  | createUnique t k => rfl
  | dropUnique t name => rfl
  | setNotNull t c => rfl

/-- **A script outside `S`** changes nothing that `S` sees. -/
theorem project_exec : ∀ {ops : List (Op ν)} {db : Database ν}, (∀ op ∈ ops, op.Outside S) →
    Run.exec step db ops = some db' → S.project db'.data = S.project db.data := by
  intro ops
  induction ops with
  | nil =>
    intro db _ h
    rw [Run.exec_nil] at h
    rw [Option.some.inj h]
  | cons op ops ih =>
    intro db hout h
    obtain ⟨db₁, hstep, hrest⟩ := Run.exec_cons_eq.mp h
    rw [ih (fun o ho => hout o (List.mem_cons_of_mem op ho)) hrest, (step_eq_some.mp hstep).2.1,
      project_onData (hout op List.mem_cons_self)]

/-- Rows fit after every statement. -/
theorem Database.Fits.step (h : db.Fits) (hs : step db op = some db') : db'.Fits := by
  obtain ⟨hS, hdata, -⟩ := step_eq_some.mp hs
  obtain ⟨S', data'⟩ := db'
  dsimp only at hS hdata
  subst hdata
  cases op with
  -- A new table and a dropped one have no rows; every other table keeps its definition and its rows.
  | createTable t d =>
    rw [Op.onSchema] at hS
    split at hS
    · obtain rfl := Option.some.inj hS
      constructor
      · intro u hu
        rw [lookup_create, Option.or_eq_none_iff] at hu
        have hne : u ≠ t := by
          rintro rfl
          simp at hu
        show Function.update db.data t [] u = []
        rw [Function.update_of_ne hne]
        exact h.tables u hu.1
      · intro u e hu r hr
        replace hr : r ∈ Function.update db.data t [] u := hr
        by_cases hne : u = t
        · rw [hne, Function.update_self] at hr
          cases hr
        · rw [Function.update_of_ne hne] at hr
          rw [lookup_create, if_neg hne, Option.or_none] at hu
          exact h.columns u e hu r hr
    · cases hS
  | dropTable t =>
    rw [Op.onSchema] at hS
    split at hS
    · cases hS
    · obtain rfl := Option.some.inj hS
      constructor
      · intro u hu
        show Function.update db.data t [] u = []
        by_cases hne : u = t
        · rw [hne, Function.update_self]
        · rw [lookup_filter, if_neg hne] at hu
          rw [Function.update_of_ne hne]
          exact h.tables u hu
      · intro u e hu r hr
        replace hr : r ∈ Function.update db.data t [] u := hr
        by_cases hne : u = t
        · rw [hne, Function.update_self] at hr
          cases hr
        · rw [Function.update_of_ne hne] at hr
          rw [lookup_filter, if_neg hne] at hu
          exact h.columns u e hu r hr
  -- Only the table itself changes, its definition and its rows together.
  | addColumn t c v fk =>
    refine h.alter hS fun d d' hd hd' _ hr x hx => ?_
    obtain ⟨r, hmem, rfl⟩ := List.mem_map.mp hr
    split at hd'
    · cases hd'
    · obtain rfl := Option.some.inj hd'
      rw [TableDef.names, List.map_append, List.mem_append, not_or] at hx
      rw [Function.update_of_ne fun he => hx.2 (List.mem_singleton.mpr he)]
      exact h.columns t d hd r hmem x hx.1
  | dropColumn t c =>
    refine h.alter hS fun d d' hd hd' _ hr x hx => ?_
    obtain ⟨r, hmem, rfl⟩ := List.mem_map.mp hr
    split at hd'
    · obtain rfl := Option.some.inj hd'
      by_cases he : x = c
      · rw [he, Function.update_self]
      · rw [Function.update_of_ne he]
        refine h.columns t d hd r hmem x fun hin => hx ?_
        obtain ⟨y, hy, rfl⟩ := List.mem_map.mp hin
        exact List.mem_map_of_mem (List.mem_filter.mpr ⟨hy, by simpa using he⟩)
    · cases hd'
  -- Constraints leave the names of the columns and the rows alone.
  | createIndex t ix =>
    refine h.constrain hS fun d d' hd' => ?_
    split at hd'
    · obtain rfl := Option.some.inj hd'
      rfl
    · cases hd'
  | createUnique t k =>
    refine h.constrain hS fun d d' hd' => ?_
    split at hd'
    · obtain rfl := Option.some.inj hd'
      rfl
    · cases hd'
  | dropUnique t name =>
    refine h.constrain hS fun d d' hd' => ?_
    split at hd'
    · obtain rfl := Option.some.inj hd'
      rfl
    · cases hd'
  | setNotNull t c =>
    refine h.constrain hS fun d d' hd' => ?_
    split at hd'
    · obtain rfl := Option.some.inj hd'
      rw [TableDef.names, List.map_map]
      refine List.map_congr_left fun x _ => ?_
      by_cases hx : x.name = c
      · simp [hx]
      · simp [hx]
    · cases hd'
  | dropIndex name =>
    rw [Op.onSchema] at hS
    split at hS
    · obtain rfl := Option.some.inj hS
      constructor
      · intro u hu
        rw [lookup_map fun _ d => { d with indexes := d.indexes.filter fun ix => ix.name ≠ name },
          Option.map_eq_none_iff] at hu
        exact h.tables u hu
      · intro u e hu r hr
        rw [lookup_map fun _ d => { d with indexes := d.indexes.filter fun ix => ix.name ≠ name }] at hu
        obtain ⟨d, hd, rfl⟩ := Option.map_eq_some_iff.mp hu
        exact h.columns u d hd r hr
    · cases hS
  -- Data statements: the schema stays, and what is written goes into columns of the table.
  | update t c f =>
    rw [Op.onSchema] at hS
    split at hS
    · obtain rfl := Option.some.inj hS
      obtain ⟨d, hd, hc⟩ := lookup_of_names ‹_›
      constructor
      · intro u hu
        show Function.update db.data t _ u = []
        rw [Function.update_of_ne]
        · exact h.tables u hu
        · rintro rfl
          rw [hd] at hu
          cases hu
      · intro u e hu r hr x hx
        replace hr : r ∈ Function.update db.data t _ u := hr
        by_cases hne : u = t
        · subst hne
          rw [Function.update_self] at hr
          obtain ⟨r, hmem, rfl⟩ := List.mem_map.mp hr
          obtain rfl := Option.some.inj (hd.symm.trans hu)
          have hne : x ≠ c := by
            rintro rfl
            exact hx hc
          rw [Function.update_of_ne hne]
          exact h.columns u d hd r hmem x hx
        · rw [Function.update_of_ne hne] at hr
          exact h.columns u e hu r hr x hx
    · cases hS
  | insert t row conflict =>
    rw [Op.onSchema] at hS
    split at hS
    · rename_i hrow
      obtain rfl := Option.some.inj hS
      constructor
      · intro u hu
        show Function.update db.data t _ u = []
        rw [Function.update_of_ne]
        · exact h.tables u hu
        · rintro rfl
          exact hrow.1 hu
      · intro u e hu r hr x hx
        replace hr : r ∈ Function.update db.data t _ u := hr
        by_cases hne : u = t
        · subst hne
          rw [Function.update_self] at hr
          split at hr
          · exact h.columns u e hu r hr x hx
          · rcases List.mem_append.mp hr with hr | hr
            · exact h.columns u e hu r hr x hx
            · rw [List.mem_singleton.mp hr]
              refine List.lookup_eq_none_iff.mpr fun p hp => ?_
              rw [bne_iff_ne]
              rintro rfl
              exact hx (names_of_lookup hu ▸ hrow.2 p hp)
        · rw [Function.update_of_ne hne] at hr
          exact h.columns u e hu r hr x hx
    · cases hS

theorem Database.Fits.exec (h : db.Fits) {ops : List (Op ν)} (hs : Run.exec Ddl.step db ops = some db') :
    db'.Fits :=
  Run.exec_inv (fun _ _ _ _ hstep hfits => Database.Fits.step hfits hstep) (Run.guarded_true ops db) hs h

end

/-! ## Rows that are written out -/

/-- Tables with the values of their rows. -/
abbrev Written (ν : Type) := List (String × List (List (String × ν)))

/-- The rows, as tables hold them. -/
def Written.data (tables : Written ν) : Data ν := fun t =>
  ((tables.lookup t).getD []).map fun row c => row.lookup c

/-- Only what the schema has columns for. -/
def Written.project (S : Schema) (tables : Written ν) : Written ν :=
  (tables.filter fun p => (S.lookup p.1).isSome).map fun p =>
    (p.1, p.2.map fun row => row.filter fun x => S.names p.1 |>.contains x.1)

/-- The values of a row in some columns. -/
theorem lookup_columns (names : List String) (c : String) : ∀ row : List (String × ν),
    (row.filter fun x => names.contains x.1).lookup c = if c ∈ names then row.lookup c else none := by
  intro row
  induction row with
  | nil =>
    split
    · rfl
    · rfl
  | cons x row ih =>
    rw [List.filter_cons, List.lookup_cons]
    by_cases hx : names.contains x.1 = true
    · rw [if_pos hx, List.lookup_cons, ih]
      by_cases hc : c = x.1
      · have hmem : c ∈ names := hc ▸ List.contains_iff_mem.mp hx
        rw [if_pos hmem, if_pos hmem, hc, beq_self_eq_true]
      · rw [beq_false_of_ne hc]
    · rw [if_neg hx, ih]
      by_cases hc : c = x.1
      · have hnot : c ∉ names := fun hmem => hx (List.contains_iff_mem.mpr (hc ▸ hmem))
        rw [if_neg hnot, if_neg hnot]
      · rw [beq_false_of_ne hc]

/-- **What a schema sees** of rows that are written out. -/
theorem project_written (S : Schema) (tables : Written ν) : S.project tables.data = (tables.project S).data := by
  funext t
  induction tables with
  | nil =>
    rw [Schema.project]
    cases S.lookup t with
    | none => rfl
    | some d => rfl
  | cons p tables ih =>
    have hrest : ∀ {u}, t ≠ u → ∀ rows (rest : Written ν), Written.data ((u, rows) :: rest) t = rest.data t := by
      intro u hu rows rest
      rw [Written.data, List.lookup_cons, beq_false_of_ne hu, Written.data]
    rw [Schema.project] at ih ⊢
    obtain ⟨u, rows⟩ := p
    by_cases hu : t = u
    · subst hu
      cases hlook : S.lookup t with
      | none =>
        rw [hlook] at ih
        rw [Written.project, List.filter_cons, if_neg (by simp [hlook])]
        exact ih
      | some d =>
        rw [Written.project, List.filter_cons, if_pos (by simp [hlook])]
        simp only [Written.data, List.map_cons, List.lookup_cons_self, Option.getD_some, Option.elim_some,
          List.map_map]
        refine List.map_congr_left fun row _ => ?_
        funext c
        dsimp only [Function.comp]
        rw [lookup_columns, names_of_lookup hlook, Tuple.only]
    · rw [hrest hu]
      rw [Written.project, List.filter_cons]
      split
      · rw [List.map_cons, hrest hu]
        exact ih
      · exact ih

/-- Rows whose values are all in columns of the schema. -/
theorem fits_written {S : Schema} {tables : Written ν}
    (h : ∀ p ∈ tables, ∀ row ∈ p.2, S.lookup p.1 ≠ none ∧ ∀ x ∈ row, x.1 ∈ S.names p.1) :
    (Database.mk S tables.data).Fits := by
  have hrow : ∀ {t r}, r ∈ tables.data t → ∃ row : List (String × ν), r = (fun c => row.lookup c) ∧
      S.lookup t ≠ none ∧ ∀ x ∈ row, x.1 ∈ S.names t := by
    intro t r hr
    obtain ⟨row, hmem, rfl⟩ := List.mem_map.mp hr
    cases hlook : tables.lookup t with
    | none =>
      rw [hlook] at hmem
      cases hmem
    | some rows =>
      rw [hlook] at hmem
      obtain ⟨l₁, l₂, rfl, -⟩ := List.lookup_eq_some_iff.mp hlook
      exact ⟨row, rfl, h (t, rows) (by simp) row hmem⟩
  constructor
  · intro t ht
    refine List.eq_nil_iff_forall_not_mem.mpr fun r hr => ?_
    obtain ⟨-, -, hthere, -⟩ := hrow hr
    exact hthere ht
  · intro t d hd r hr c hc
    obtain ⟨row, rfl, -, hnames⟩ := hrow hr
    refine List.lookup_eq_none_iff.mpr fun x hx => ?_
    rw [bne_iff_ne]
    rintro rfl
    exact hc (names_of_lookup hd ▸ hnames x hx)

end Ddl

end Dtsys
