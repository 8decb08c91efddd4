/-
  CSV EXPORTS: `exportToCSV` in the browser (`utils/export.ts`) and `export_audit_csv` on the server
  (`app/api/v1/audit.py`).

  The first puts every cell in quotes.  The second writes a constant head line without quotes, its values in
  quotes, and nothing for a value that is absent; its rows have seven columns, so none of them is an empty
  line.  A string of JavaScript is a list of code units, one of Python a list of code points: they are read
  back as such, by one reader over two alphabets.

  `exports_round_trip` — both texts are read back as what was written.
-/
import Dtsys.Lib.Csv
import Dtsys.Server.Reads
import Dtsys.Web.JsonText

namespace Dtsys

namespace Exports

open Web (JsStr PyStr pyStr)

-- code units and code points are written as numbers
local instance neZero_units : NeZero 0x10000 := ⟨by decide⟩

local instance neZero_points : NeZero 0x110000 := ⟨by decide⟩

/-! ## In the browser -/

/-- The alphabet of JavaScript: UTF-16. -/
def units : Csv.Alphabet (Fin 0x10000) := ⟨0x22, 0x2c, 0x0a, 0x0d, by decide⟩

/-- `escapeCSV`. -/
def escapeCSV (value : JsStr) : JsStr :=
  [0x22] ++ value.flatMap (fun u => if u = 0x22 then [0x22, 0x22] else [u]) ++ [0x22]

/-- The file that is offered for download. -/
structure Download where
  filename : JsStr
  type : JsStr
  text : JsStr

/-- `exportToCSV`. -/
def exportToCSV (filename : JsStr) (headers : List JsStr) (rows : List (List JsStr)) : Download where
  filename := filename
  type := Web.jsStr "text/csv;charset=utf-8;"
  text := List.intercalate [0x0a] (List.intercalate [0x2c] (headers.map escapeCSV) ::
    rows.map fun row => List.intercalate [0x2c] (row.map escapeCSV))

/-! ## On the server -/

/-- The alphabet of Python: code points. -/
def points : Csv.Alphabet Web.CodePoint := ⟨0x22, 0x2c, 0x0a, 0x0d, by decide⟩

/-- A row of `audit_log`, with all columns that are written out. -/
structure AuditEntry where
  timestamp : Option Nat
  username : PyStr
  action : PyStr
  resourceType : Option PyStr
  resourceId : Option PyStr
  ipAddress : Option PyStr
  details : Option Json

/-- `csv_escape`. -/
def csvEscape : Option PyStr → PyStr
  | none => []
  | some val => [0x22] ++ val.flatMap (fun c => if c = 0x22 then [0x22, 0x22] else [c]) ++ [0x22]

/-- The WHERE of the query; a time that is NULL is neither later nor earlier than another. -/
def AuditEntry.selected (sinceTime untilTime : Option Nat) (action : Option PyStr) (r : AuditEntry) : Bool :=
  (sinceTime.all fun t => r.timestamp.any fun s => decide (t ≤ s)) &&
    (untilTime.all fun t => r.timestamp.any fun s => decide (s ≤ t)) &&
    (action.all fun a => decide (r.action = a))

/-- The query: the latest rows first, those without a time before them, and 50000 at most.  An empty action
    is none. -/
def selectAudit (Q : Queries) (sinceTime untilTime : Option Nat) (action : Option PyStr)
    (table : Multiset AuditEntry) : List AuditEntry :=
  (Q.orderBy (fun a b => match a.timestamp, b.timestamp with
      | some s, some t => decide (t ≤ s)
      | none, _ => true
      | some _, none => false)
    (table.filter fun r => r.selected sinceTime untilTime (action.filter fun a => !a.isEmpty))).take 50000

section

/- The text of a time, and that of a JSON value. -/
variable (isoformat : Nat → PyStr) (dumps : Json → PyStr)

/-- The values of a row, in the order of the columns. -/
def AuditEntry.values (r : AuditEntry) : List (Option PyStr) :=
  [r.timestamp.map isoformat, some r.username, some r.action, r.resourceType, r.resourceId, r.ipAddress,
    (r.details.filter Json.truthy).map dumps]

/-- The head line. -/
def auditHead : PyStr := pyStr "timestamp,username,action,resource_type,resource_id,ip_address,details"

/-- `content` of `export_audit_csv`, by the rows of the query. -/
def auditContent (rows : List AuditEntry) : PyStr :=
  List.intercalate [0x0a] (auditHead ::
    rows.map fun r => List.intercalate [0x2c] ((r.values isoformat dumps).map csvEscape))

/-- `export_audit_csv`. -/
def exportAuditCsv (Q : Queries) (sinceTime untilTime : Option Nat) (action : Option PyStr)
    (table : Multiset AuditEntry) : PyStr :=
  auditContent isoformat dumps (selectAudit Q sinceTime untilTime action table)

end

/-! ## The writers choose the form of each field -/

/-- A text with a quote at both ends and every quote inside doubled is a quoted field. -/
theorem text_quoted {α : Type} [DecidableEq α] (A : Csv.Alphabet α) (value : List α) :
    (Csv.Cell.quoted value).text A =
      [A.quote] ++ value.flatMap (fun x => if x = A.quote then [A.quote, A.quote] else [x]) ++ [A.quote] := rfl

/-- A row of cells. -/
def quotedRow (row : List JsStr) : List (Csv.Cell (Fin 0x10000)) := row.map .quoted

/-- A quoted row is one that a reader of CSV takes. -/
theorem lawful_quotedRow {row : List JsStr} (h : row ≠ []) : Csv.LawfulRow units (quotedRow row) := by
  refine ⟨fun cell hcell => ?_, by simpa [quotedRow] using h, fun cell hcell => ?_⟩
  · obtain ⟨value, -, rfl⟩ := List.mem_map.mp hcell
    trivial
  · have hmem : cell ∈ quotedRow row := by rw [hcell]; exact List.mem_singleton_self cell
    obtain ⟨value, -, rfl⟩ := List.mem_map.mp hmem
    rw [text_quoted]
    exact fun hnil => by simp at hnil

theorem values_quotedRow (row : List JsStr) : (quotedRow row).map Csv.Cell.value = row := by
  rw [quotedRow, List.map_map]
  exact List.map_id row

/-- The text of the browser, field by field. -/
theorem text_exportToCSV (filename : JsStr) (headers : List JsStr) (rows : List (List JsStr)) :
    (exportToCSV filename headers rows).text = Csv.render units ((headers :: rows).map quotedRow) := by
  have hrow : ∀ row : List JsStr, Csv.renderRow units (quotedRow row) =
      List.intercalate [0x2c] (row.map escapeCSV) := by
    intro row
    rw [Csv.renderRow, quotedRow, List.map_map]
    rfl
  rw [Csv.render, List.map_map, List.map_cons, exportToCSV]
  refine congrArg (List.intercalate _) (congr (congrArg _ (hrow headers).symm) ?_)
  exact List.map_congr_left fun row _ => (hrow row).symm

/-- A value that is present is quoted. -/
def auditCell : Option PyStr → Csv.Cell Web.CodePoint
  | some val => .quoted val
  | none => .bare []

/-- The names of the columns. -/
def columnNames : List String :=
  ["timestamp", "username", "action", "resource_type", "resource_id", "ip_address", "details"]

/-- The header of the audit export. -/
def auditColumns : List PyStr := columnNames.map pyStr

/-- The records a reader should find: an absent value is the empty field. -/
def AuditEntry.fields (isoformat : Nat → PyStr) (dumps : Json → PyStr) (r : AuditEntry) : List PyStr :=
  (r.values isoformat dumps).map fun value => value.getD []

section

variable {isoformat : Nat → PyStr} {dumps : Json → PyStr}

theorem text_auditCell (value : Option PyStr) : (auditCell value).text points = csvEscape value := by
  cases value with
  | none => rfl
  | some val => rfl

theorem lawful_auditCell (value : Option PyStr) : (auditCell value).Lawful points := by
  cases value with
  | none => exact nofun
  | some val => trivial

/-- A row has seven fields, so it is not blank. -/
theorem lawful_auditRow (r : AuditEntry) :
    Csv.LawfulRow points ((r.values isoformat dumps).map auditCell) := by
  refine ⟨fun cell hcell => ?_, nofun, fun cell hcell => ?_⟩
  · obtain ⟨value, -, rfl⟩ := List.mem_map.mp hcell
    exact lawful_auditCell value
  · have hlen := congrArg List.length hcell
    simp [AuditEntry.values] at hlen

/-- The cells of the audit row stand for its fields. -/
theorem values_auditRow (r : AuditEntry) :
    ((r.values isoformat dumps).map auditCell).map Csv.Cell.value = r.fields isoformat dumps := by
  rw [List.map_map, AuditEntry.fields]
  refine List.map_congr_left fun value _ => ?_
  cases value with
  | none => rfl
  | some val => rfl

/-- The names of the columns are letters and underscores. -/
theorem columnNames_plain : ∀ name ∈ columnNames, ∀ c ∈ name.toList, 0x5f ≤ c.toNat := by
  have hall : (columnNames.all fun name => name.toList.all fun c => decide (0x5f ≤ c.toNat)) = true := by decide
  simpa [List.all_eq_true] using hall

/-- The head of the audit table needs no quotes. -/
theorem lawful_auditHead : Csv.LawfulRow points (auditColumns.map .bare) := by
  refine ⟨fun cell hcell => ?_, nofun, fun cell hcell => ?_⟩
  · obtain ⟨column, hcolumn, rfl⟩ := List.mem_map.mp hcell
    obtain ⟨name, hname, rfl⟩ := List.mem_map.mp hcolumn
    intro p hp hspecial
    obtain ⟨c, hc, rfl⟩ := List.mem_map.mp hp
    have hlow := columnNames_plain name hname c hc
    have hrange : c.toNat < 0xD800 ∨ 0xDFFF < c.toNat ∧ c.toNat < 0x110000 := c.valid
    have hval : (Fin.ofNat 0x110000 c.toNat).val = c.toNat := Nat.mod_eq_of_lt (by omega)
    have hsymbol : (Fin.ofNat 0x110000 c.toNat).val ∈ [0x22, 0x2c, 0x0a, 0x0d] :=
      List.mem_map_of_mem (f := Fin.val) hspecial
    rw [hval] at hsymbol
    simp only [List.mem_cons, List.not_mem_nil, or_false] at hsymbol
    omega
  · have hlen := congrArg List.length hcell
    simp [auditColumns, columnNames] at hlen

/-- The text of the server, field by field. -/
theorem text_auditContent (rows : List AuditEntry) : auditContent isoformat dumps rows =
    Csv.render points (auditColumns.map .bare ::
      rows.map fun r => (r.values isoformat dumps).map auditCell) := by
  have hhead : Csv.renderRow points (auditColumns.map .bare) = auditHead := by
    rfl
  have hrow : ∀ r : AuditEntry, Csv.renderRow points ((r.values isoformat dumps).map auditCell) =
      List.intercalate [0x2c] ((r.values isoformat dumps).map csvEscape) := by
    intro r
    rw [Csv.renderRow, List.map_map]
    exact congrArg _ (List.map_congr_left fun value _ => text_auditCell value)
  rw [Csv.render, List.map_cons, List.map_map, hhead, auditContent]
  refine congrArg (List.intercalate _) (congrArg _ ?_)
  exact List.map_congr_left fun r _ => (hrow r).symm

end

/-- **Both exports are read back** by one reader: the head line and the rows, an absent value as the empty
    field.

    A cell is written so that the reader of `Dtsys.Lib.Csv` gives it back, quoted where it has to be; rows and files
    follow from `Csv.parse_render`. -/
theorem exports_round_trip :
    (∀ (filename : JsStr) (headers : List JsStr) (rows : List (List JsStr)), headers ≠ [] →
      (∀ row ∈ rows, row ≠ []) →
      Csv.parse units (exportToCSV filename headers rows).text = some (headers :: rows)) ∧
    ∀ (isoformat : Nat → PyStr) (dumps : Json → PyStr) (Q : Queries) (sinceTime untilTime : Option Nat)
      (action : Option PyStr) (table : Multiset AuditEntry),
      Csv.parse points (exportAuditCsv isoformat dumps Q sinceTime untilTime action table) =
        some (auditColumns :: (selectAudit Q sinceTime untilTime action table).map
          fun r => r.fields isoformat dumps) := by
  constructor
  · intro filename headers rows hheaders hrows
    rw [text_exportToCSV, Csv.parse_render _ (by simp), List.map_map]
    · refine congrArg some ((List.map_congr_left fun row _ => ?_).trans (List.map_id _))
      exact values_quotedRow row
    · intro cells hcells
      obtain ⟨row, hrow, rfl⟩ := List.mem_map.mp hcells
      refine lawful_quotedRow ?_
      rcases List.mem_cons.mp hrow with rfl | hrow
      · exact hheaders
      · exact hrows row hrow
  · intro isoformat dumps Q sinceTime untilTime action table
    rw [exportAuditCsv, text_auditContent, Csv.parse_render _ (List.cons_ne_nil _ _), List.map_cons,
      List.map_map, List.map_map]
    · refine congrArg some (congr (congrArg _ ?_) (List.map_congr_left fun r _ => values_auditRow r))
      exact List.map_id _
    · intro cells hcells
      rcases List.mem_cons.mp hcells with rfl | hcells
      · exact lawful_auditHead
      · obtain ⟨r, -, rfl⟩ := List.mem_map.mp hcells
        exact lawful_auditRow r

/-- A cell with a comma, a quote and a line break. -/
theorem exports_round_trip_awkward :
    Csv.parse units (exportToCSV [] [Web.jsStr "a,b", []] [[Web.jsStr "\"\r\n", []]]).text =
      some [[Web.jsStr "a,b", []], [Web.jsStr "\"\r\n", []]] :=
  exports_round_trip.1 [] _ _ (by decide) (by decide)

end Exports

end Dtsys
