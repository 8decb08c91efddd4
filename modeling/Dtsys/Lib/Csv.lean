/-
  COMMA-SEPARATED VALUES (RFC 4180), over any alphabet that has a quote, a comma and the two line ends.

  A record is fields between commas, a file is records between line breaks, and the last record may end with
  one.  A field is bare, and then has none of the four symbols, or it is in quotes, and then every quote of
  it is written twice.  A line break is CR LF, or LF alone.

  * `parse` — the reader, symbol by symbol; no text that is not of this form is accepted.
  * `render`, `renderLines` — a writer that chooses for each field whether it is quoted (`Cell`).
  * `parse_render`, `parse_renderLines` — what was written is read back, whatever the fields contain.
-/
import Mathlib.Data.List.Basic

namespace Dtsys.Csv

/-- The four symbols that mean something. -/
structure Alphabet (α : Type) where
  quote : α
  comma : α
  lf : α
  cr : α
  distinct : [quote, comma, lf, cr].Nodup

variable {α : Type} (A : Alphabet α)

theorem Alphabet.comma_ne_quote : A.comma ≠ A.quote := by
  have h := A.distinct
  grind

theorem Alphabet.lf_ne_quote : A.lf ≠ A.quote := by
  have h := A.distinct
  grind

theorem Alphabet.lf_ne_comma : A.lf ≠ A.comma := by
  have h := A.distinct
  grind

theorem Alphabet.cr_ne_quote : A.cr ≠ A.quote := by
  have h := A.distinct
  grind

theorem Alphabet.cr_ne_comma : A.cr ≠ A.comma := by
  have h := A.distinct
  grind

theorem Alphabet.cr_ne_lf : A.cr ≠ A.lf := by
  have h := A.distinct
  grind

variable [DecidableEq α]

/-! ## Reading -/

/-- Where the reader is: before a field, in a bare field, between quotes, behind a quote that ends the field
    unless another one follows, behind a CR. -/
inductive Place
  | start
  | bare
  | quoted
  | closed
  | ending
  deriving DecidableEq

/-- What has been read: of the field, of the record, and the records that are complete. -/
structure Reader (α : Type) where
  place : Place
  field : List α
  record : List (List α)
  records : List (List (List α))

namespace Reader

variable (r : Reader α)

/-- One more symbol of the field. -/
def push (place : Place) (x : α) : Reader α := ⟨place, r.field ++ [x], r.record, r.records⟩

/-- The field is complete. -/
def endField : Reader α := ⟨.start, [], r.record ++ [r.field], r.records⟩

/-- The record is complete. -/
def endRecord : Reader α := ⟨.start, [], [], r.records ++ [r.record ++ [r.field]]⟩

/-- A symbol after which the field may go on with `more`. -/
def next (x : α) (more : Option (Reader α)) : Option (Reader α) :=
  if x = A.comma then some r.endField
  else if x = A.lf then some r.endRecord
  else if x = A.cr then some { r with place := .ending }
  else more

/-- One symbol. -/
def step (x : α) : Option (Reader α) :=
  match r.place with
  | .start => if x = A.quote then some { r with place := .quoted } else r.next A x (some (r.push .bare x))
  | .bare => if x = A.quote then none else r.next A x (some (r.push .bare x))
  | .quoted => if x = A.quote then some { r with place := .closed } else some (r.push .quoted x)
  | .closed => if x = A.quote then some (r.push .quoted x) else r.next A x none
  | .ending => if x = A.lf then some r.endRecord else none

/-- The end of the text; a line break before it begins no record. -/
def finish : Option (List (List (List α))) :=
  match r.place with
  | .quoted => none
  | .ending => none
  | .start => some (if r.record = [] ∧ r.records ≠ [] then r.records else r.endRecord.records)
  | .bare => some r.endRecord.records
  | .closed => some r.endRecord.records

/-- Some symbols. -/
def feed : Reader α → List α → Option (Reader α)
  | r, [] => some r
  | r, x :: text => (r.step A x).bind fun r => feed r text

/-- Nothing has been read. -/
def begin : Reader α := ⟨.start, [], [], []⟩

end Reader

/-- The records of a text. -/
def parse (text : List α) : Option (List (List (List α))) :=
  (Reader.begin.feed A text).bind Reader.finish

/-! ## Writing -/

/-- A field as it is written. -/
inductive Cell (α : Type)
  | quoted (value : List α)
  | bare (value : List α)

/-- A quote is written twice. -/
def escaped (value : List α) : List α :=
  value.flatMap fun x => if x = A.quote then [A.quote, A.quote] else [x]

/-- How the cell is written. -/
def Cell.text : Cell α → List α
  | .quoted value => A.quote :: escaped A value ++ [A.quote]
  | .bare value => value

omit [DecidableEq α] in
/-- What the cell stands for. -/
def Cell.value : Cell α → List α
  | .quoted value => value
  | .bare value => value

/-- A field that is not quoted has none of the four symbols. -/
def Cell.Lawful : Cell α → Prop
  | .quoted _ => True
  | .bare value => ∀ x ∈ value, x ∉ [A.quote, A.comma, A.lf, A.cr]

/-- The cells of a record, with commas between them. -/
def renderRow (row : List (Cell α)) : List α := [A.comma].intercalate (row.map (Cell.text A))

/-- The records, with line feeds between them. -/
def render (rows : List (List (Cell α))) : List α := [A.lf].intercalate (rows.map (renderRow A))

/-- Every record ends with CR LF. -/
def renderLines (rows : List (List (Cell α))) : List α :=
  rows.flatMap fun row => renderRow A row ++ [A.cr, A.lf]

/-- A field that is quoted only if it has to be. -/
def Cell.minimal (value : List α) : Cell α :=
  if ∃ x ∈ value, x ∈ [A.quote, A.comma, A.lf, A.cr] then .quoted value else .bare value

/-- A record has a field, and is not an empty line. -/
structure LawfulRow (row : List (Cell α)) : Prop where
  cells : ∀ cell ∈ row, cell.Lawful A
  nonempty : row ≠ []
  notBlank : ∀ cell, row = [cell] → cell.text A ≠ []

/-! ## The reader on one field -/

section

variable {A}

open Reader

theorem feed_cons {r r' : Reader α} {x : α} (h : r.step A x = some r') (text : List α) :
    r.feed A (x :: text) = r'.feed A text := by
  rw [feed, h]
  rfl

theorem feed_append {r r' : Reader α} : ∀ {text : List α}, r.feed A text = some r' →
    ∀ rest, r.feed A (text ++ rest) = r'.feed A rest := by
  intro text
  induction text generalizing r with
  | nil =>
    intro h rest
    obtain rfl := Option.some.inj h
    rfl
  | cons x text ih =>
    intro h rest
    obtain ⟨u, hu, hrest⟩ := Option.bind_eq_some_iff.mp h
    rw [List.cons_append, feed_cons hu]
    exact ih hrest rest

variable {record : List (List α)} {records : List (List (List α))}

/-- A quote in front of a field. -/
theorem step_opening (field : List α) :
    Reader.step A ⟨.start, field, record, records⟩ A.quote = some ⟨.quoted, field, record, records⟩ :=
  if_pos rfl

/-- A quote within a quoted field may be its end. -/
theorem step_closing (field : List α) :
    Reader.step A ⟨.quoted, field, record, records⟩ A.quote = some ⟨.closed, field, record, records⟩ :=
  if_pos rfl

/-- Another quote, and it was one of the field. -/
theorem step_doubled (field : List α) : Reader.step A ⟨.closed, field, record, records⟩ A.quote =
    some ⟨.quoted, field ++ [A.quote], record, records⟩ := if_pos rfl

/-- Any other character belongs to the field. -/
theorem step_quoted {x : α} (hx : x ≠ A.quote) (field : List α) :
    Reader.step A ⟨.quoted, field, record, records⟩ x = some ⟨.quoted, field ++ [x], record, records⟩ :=
  if_neg hx

/-- Between quotes, whatever is written is read. -/
theorem feed_escaped : ∀ (value field : List α),
    Reader.feed A ⟨.quoted, field, record, records⟩ (escaped A value) =
      some ⟨.quoted, field ++ value, record, records⟩ := by
  intro value
  induction value with
  | nil =>
    intro field
    rw [List.append_nil]
    rfl
  | cons x value ih =>
    intro field
    have htail := ih (field ++ [x])
    rw [List.append_assoc] at htail
    by_cases hx : x = A.quote
    · have htext : escaped A (x :: value) = A.quote :: A.quote :: escaped A value := by
        rw [escaped, List.flatMap_cons, if_pos hx]
        rfl
      rw [htext, feed_cons (step_closing field), feed_cons (step_doubled field), ← hx]
      exact htail
    · have htext : escaped A (x :: value) = x :: escaped A value := by
        rw [escaped, List.flatMap_cons, if_neg hx]
        rfl
      rw [htext, feed_cons (step_quoted hx field)]
      exact htail

/-- A symbol that means nothing goes on with a bare field. -/
theorem step_plain {place : Place} (hplace : place = .start ∨ place = .bare) {x : α}
    (hx : x ∉ [A.quote, A.comma, A.lf, A.cr]) (field : List α) :
    Reader.step A ⟨place, field, record, records⟩ x = some ⟨.bare, field ++ [x], record, records⟩ := by
  have hplain : x ≠ A.quote ∧ x ≠ A.comma ∧ x ≠ A.lf ∧ x ≠ A.cr := by simpa using hx
  obtain ⟨hquote, hcomma, hlf, hcr⟩ := hplain
  have hnext : ∀ r : Reader α, ∀ more, r.next A x more = more := by
    intro r more
    rw [next, if_neg hcomma, if_neg hlf, if_neg hcr]
  rcases hplace with rfl | rfl
  · exact (if_neg hquote).trans (hnext _ _)
  · exact (if_neg hquote).trans (hnext _ _)

/-- A field without quotes is read as it is. -/
theorem feed_bare : ∀ (value field : List α), (∀ x ∈ value, x ∉ [A.quote, A.comma, A.lf, A.cr]) →
    Reader.feed A ⟨.bare, field, record, records⟩ value = some ⟨.bare, field ++ value, record, records⟩ := by
  intro value
  induction value with
  | nil =>
    intro field _
    rw [List.append_nil]
    rfl
  | cons x value ih =>
    intro field h
    rw [feed_cons (step_plain (.inr rfl) (h x List.mem_cons_self) field),
      ih _ fun y hy => h y (List.mem_cons_of_mem _ hy), List.append_assoc]
    rfl

/-- A place where the field may end. -/
def Place.ends : Place → Bool
  | .start => true
  | .bare => true
  | .closed => true
  | _ => false

/-- **One field**: it is read, and may end there. -/
theorem feed_cell (record : List (List α)) (records : List (List (List α))) {cell : Cell α}
    (h : cell.Lawful A) : ∃ place : Place, place.ends = true ∧
    (cell.text A ≠ [] → place ≠ .start) ∧
    Reader.feed A ⟨.start, [], record, records⟩ (cell.text A) =
      some ⟨place, cell.value, record, records⟩ := by
  cases cell with
  | quoted value =>
    refine ⟨.closed, rfl, fun _ => by decide, ?_⟩
    rw [Cell.text, List.cons_append, feed_cons (step_opening []), feed_append (feed_escaped value []),
      feed_cons (step_closing _)]
    rfl
  | bare value =>
    cases value with
    | nil => exact ⟨.start, rfl, fun hne => absurd rfl hne, rfl⟩
    | cons x value =>
      refine ⟨.bare, rfl, fun _ => by decide, ?_⟩
      rw [Cell.text, feed_cons (step_plain (.inl rfl) (h x List.mem_cons_self) []),
        feed_bare _ _ fun y hy => h y (List.mem_cons_of_mem _ hy)]
      rfl

theorem step_comma {r : Reader α} (h : r.place.ends = true) : r.step A A.comma = some r.endField := by
  have hnext : ∀ more, r.next A A.comma more = some r.endField := fun more => if_pos rfl
  obtain ⟨place, field, record, records⟩ := r
  cases place with
  | start => exact (if_neg A.comma_ne_quote).trans (hnext _)
  | bare => exact (if_neg A.comma_ne_quote).trans (hnext _)
  | closed => exact (if_neg A.comma_ne_quote).trans (hnext _)
  | quoted => cases h
  | ending => cases h

/-- A line feed ends the record. -/
theorem step_lf {r : Reader α} (h : r.place.ends = true) : r.step A A.lf = some r.endRecord := by
  have hnext : ∀ more, r.next A A.lf more = some r.endRecord := fun more =>
    (if_neg A.lf_ne_comma).trans (if_pos rfl)
  obtain ⟨place, field, record, records⟩ := r
  cases place with
  | start => exact (if_neg A.lf_ne_quote).trans (hnext _)
  | bare => exact (if_neg A.lf_ne_quote).trans (hnext _)
  | closed => exact (if_neg A.lf_ne_quote).trans (hnext _)
  | quoted => cases h
  | ending => cases h

/-! ## Records -/

/-- **One record**: its last field may end the record, and the reader is not where it was before it. -/
theorem feed_row (records : List (List (List α))) :
    ∀ {row : List (Cell α)} (record : List (List α)), (∀ cell ∈ row, cell.Lawful A) →
    row ≠ [] → (∀ cell, record = [] → row = [cell] → cell.text A ≠ []) →
    ∃ r : Reader α, Reader.feed A ⟨.start, [], record, records⟩ (renderRow A row) = some r ∧
      r.place.ends = true ∧ (r.place = .start → r.record ≠ []) ∧
      r.record ++ [r.field] = record ++ row.map Cell.value ∧ r.records = records := by
  intro row
  induction row with
  | nil => exact fun _ _ hne => absurd rfl hne
  | cons cell row ih =>
    intro record hcells _ hblank
    obtain ⟨place, hends, hplace, hfeed⟩ := feed_cell record records
      (hcells cell List.mem_cons_self)
    cases row with
    | nil =>
      have htext : renderRow A [cell] = cell.text A := List.intercalate_singleton
      refine ⟨_, htext ▸ hfeed, hends, ?_, rfl, rfl⟩
      intro hstart hrecord
      exact hplace (hblank cell hrecord rfl) hstart
    | cons cell' row =>
      have htext : renderRow A (cell :: cell' :: row) =
          cell.text A ++ (A.comma :: renderRow A (cell' :: row)) := by
        rw [renderRow, List.map_cons, List.map_cons, List.intercalate_cons_cons, List.append_assoc]
        rfl
      obtain ⟨r, hrest, hr, hstart, hfields, hrecords⟩ := ih (record ++ [cell.value])
        (fun c hc => hcells c (List.mem_cons_of_mem _ hc)) (List.cons_ne_nil _ _)
        fun _ hnil => absurd hnil (by simp)
      refine ⟨r, ?_, hr, hstart, ?_, hrecords⟩
      · rw [htext, feed_append hfeed, feed_cons (step_comma hends)]
        exact hrest
      · rw [hfields, List.append_assoc]
        rfl

/-! ## Texts -/

omit [DecidableEq α] in
/-- The records a reader leaves after the last field. -/
theorem finish_eq {r : Reader α} (hends : r.place.ends = true) (hstart : r.place = .start → r.record ≠ []) :
    r.finish = some (r.records ++ [r.record ++ [r.field]]) := by
  obtain ⟨place, field, record, records⟩ := r
  cases place with
  | start => exact congrArg some (if_neg fun h => hstart rfl h.1)
  | bare => rfl
  | closed => rfl
  | quoted => cases hends
  | ending => cases hends

/-- **The records** of a text, with line feeds between them. -/
theorem feed_rows : ∀ {rows : List (List (Cell α))} (records : List (List (List α))),
    (∀ row ∈ rows, LawfulRow A row) → rows ≠ [] →
    (Reader.feed A ⟨.start, [], [], records⟩ (render A rows)).bind Reader.finish =
      some (records ++ rows.map (List.map Cell.value)) := by
  intro rows
  induction rows with
  | nil => exact fun _ _ hne => absurd rfl hne
  | cons row rows ih =>
    intro records hrows _
    have hrow := hrows row List.mem_cons_self
    obtain ⟨r, hfeed, hends, hstart, hfields, hrecords⟩ := feed_row records [] hrow.cells
      hrow.nonempty fun cell _ => hrow.notBlank cell
    cases rows with
    | nil =>
      have htext : render A [row] = renderRow A row := List.intercalate_singleton
      rw [htext, hfeed, Option.bind_some, finish_eq hends hstart, hfields, hrecords]
      rfl
    | cons row' rows =>
      have htext : render A (row :: row' :: rows) =
          renderRow A row ++ (A.lf :: render A (row' :: rows)) := by
        rw [render, List.map_cons, List.map_cons, List.intercalate_cons_cons, List.append_assoc]
        rfl
      have hend : r.endRecord = ⟨.start, [], [], records ++ [row.map Cell.value]⟩ := by
        rw [endRecord, hfields, hrecords]
        rfl
      rw [htext, feed_append hfeed, feed_cons (step_lf hends), hend,
        ih _ (fun x hx => hrows x (List.mem_cons_of_mem _ hx)) (List.cons_ne_nil _ _), List.append_assoc]
      rfl

/-- **What was written is read back.** -/
theorem parse_render {rows : List (List (Cell α))} (hrows : ∀ row ∈ rows, LawfulRow A row)
    (hne : rows ≠ []) : parse A (render A rows) = some (rows.map (List.map Cell.value)) :=
  feed_rows [] hrows hne

/-! ## Lines -/

/-- A carriage return where a record may end. -/
theorem step_cr {r : Reader α} (h : r.place.ends = true) :
    r.step A A.cr = some { r with place := .ending } := by
  have hnext : ∀ more, r.next A A.cr more = some { r with place := .ending } := fun more =>
    (if_neg A.cr_ne_comma).trans ((if_neg A.cr_ne_lf).trans (if_pos rfl))
  obtain ⟨place, field, record, records⟩ := r
  cases place with
  | start => exact (if_neg A.cr_ne_quote).trans (hnext _)
  | bare => exact (if_neg A.cr_ne_quote).trans (hnext _)
  | closed => exact (if_neg A.cr_ne_quote).trans (hnext _)
  | quoted => cases h
  | ending => cases h

/-- **The records** of a text, each with its line end. -/
theorem feed_lines : ∀ {rows : List (List (Cell α))} (records : List (List (List α))),
    (∀ row ∈ rows, LawfulRow A row) →
    Reader.feed A ⟨.start, [], [], records⟩ (renderLines A rows) =
      some ⟨.start, [], [], records ++ rows.map (List.map Cell.value)⟩ := by
  intro rows
  induction rows with
  | nil =>
    intro records _
    rw [List.map_nil, List.append_nil]
    rfl
  | cons row rows ih =>
    intro records hrows
    have hrow := hrows row List.mem_cons_self
    obtain ⟨r, hfeed, hends, hstart, hfields, hrecords⟩ := feed_row records [] hrow.cells
      hrow.nonempty fun cell _ => hrow.notBlank cell
    have htext : renderLines A (row :: rows) = renderRow A row ++ (A.cr :: A.lf :: renderLines A rows) := by
      rw [renderLines, List.flatMap_cons, List.append_assoc]
      rfl
    have hend : Reader.step A { r with place := .ending } A.lf =
        some ⟨.start, [], [], records ++ [row.map Cell.value]⟩ := by
      refine (if_pos rfl).trans (congrArg some ?_)
      rw [endRecord, hfields, hrecords]
      rfl
    rw [htext, feed_append hfeed, feed_cons (step_cr hends), feed_cons hend,
      ih _ fun x hx => hrows x (List.mem_cons_of_mem _ hx), List.map_cons, List.append_assoc]
    rfl

/-- **Lines are read back**: every record may end with CR LF, the last one too. -/
theorem parse_renderLines {rows : List (List (Cell α))} (hrows : ∀ row ∈ rows, LawfulRow A row)
    (hne : rows ≠ []) : parse A (renderLines A rows) = some (rows.map (List.map Cell.value)) := by
  have hrecords : rows.map (List.map Cell.value) ≠ [] := by simpa using hne
  rw [parse, Reader.begin, feed_lines [] hrows, Option.bind_some, List.nil_append]
  exact congrArg some (if_pos ⟨rfl, hrecords⟩)

/-- A cell that is quoted where it has to be, is one that can be read. -/
theorem lawful_minimal (value : List α) : (Cell.minimal A value).Lawful A := by
  rw [Cell.minimal]
  split
  · trivial
  · rename_i hplain
    exact fun x hx hspecial => hplain ⟨x, hx, hspecial⟩

/-- It stands for its value. -/
theorem value_minimal (value : List α) : (Cell.minimal A value).value = value := by
  rw [Cell.minimal]
  split
  · rfl
  · rfl

end

end Dtsys.Csv
