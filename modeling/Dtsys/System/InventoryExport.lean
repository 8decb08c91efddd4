/-
  THE INVENTORY: `app/api/v1/inventory.py`, the list and the file for a spreadsheet.

  `csv.writer` ends every record with CR LF and quotes a field only if it has a comma, a quote or one of the two
  line ends.  What a reader gets back is the head and, device by device, what the list has: an absent value as the
  empty field, and the type of the system where its version is not known (`inventory_round_trip`).

  1. `listInventory` and `InventoryDevice.record` — which devices are in the file, in which order, and
     what stands in the cells; a value that is absent is the empty text.
  2. `writerow_eq` — a line of `csv.writer` is a record of `Dtsys.Lib.Csv` with minimal quotes.
  3. `inventory_round_trip` — so a reader of CSV gets the records back, for all texts.
-/
import Dtsys.System.Exports

namespace Dtsys

namespace Exports

open Web (PyStr pyStr)

/-- The columns of `app/models/device.py` that the inventory reads. -/
structure InventoryDevice where
  id : Uuid
  orgId : Option Uuid
  isRevoked : Bool
  hostname : PyStr
  label : Option PyStr
  osType : PyStr
  osVersion : Option PyStr
  ipAddress : Option PyStr
  serialNumber : Option PyStr
  manufacturer : Option PyStr
  modelName : Option PyStr
  purchaseDate : Option Nat
  warrantyExpires : Option Nat
  location : Option PyStr
  assignedTo : Option PyStr
  assetTag : Option PyStr
  status : PyStr

/-- The query parameters; a filter that is empty is none. -/
structure InventoryFilter where
  location : Option PyStr := none
  assignedTo : Option PyStr := none
  warrantyExpiringDays : Option Nat := none
  days : ∀ n ∈ warrantyExpiringDays, 1 ≤ n ∧ n ≤ 3650 := by simp

section

/- The order of texts, ILIKE, the text of a date, and the day. -/
variable (before ilike : PyStr → PyStr → Bool) (isoformat : Nat → PyStr) (today : Nat)

/-- The WHERE of the query; what is NULL is neither equal to anything nor like it. -/
def InventoryDevice.selected (org : Uuid) (filter : InventoryFilter) (d : InventoryDevice) : Bool :=
  !d.isRevoked && d.orgId == some org &&
    ((filter.location.filter fun text => !text.isEmpty).all fun text => d.location == some text) &&
    ((filter.assignedTo.filter fun text => !text.isEmpty).all fun text =>
      d.assignedTo.any fun value => ilike value (pyStr "%" ++ text ++ pyStr "%")) &&
    (filter.warrantyExpiringDays.all fun n => d.warrantyExpires.any fun date => decide (date ≤ today + n))

/-- The devices of `list_inventory`. -/
def listInventory (Q : Queries) (org : Uuid) (filter : InventoryFilter) (devices : Multiset InventoryDevice) :
    List InventoryDevice :=
  Q.orderBy (fun a b => before a.hostname b.hostname) (devices.filter fun d => d.selected ilike today org filter)

/-- `x or y`. -/
def orElse (x : Option PyStr) (y : PyStr) : PyStr := (x.filter fun text => !text.isEmpty).getD y

/-- A record of `export_inventory_csv`. -/
def InventoryDevice.record (d : InventoryDevice) : List PyStr :=
  [d.hostname, orElse d.label [], orElse d.osVersion d.osType, orElse d.ipAddress [], orElse d.serialNumber [],
    orElse d.manufacturer [], orElse d.modelName [], (d.purchaseDate.map isoformat).getD [],
    (d.warrantyExpires.map isoformat).getD [], orElse d.location [], orElse d.assignedTo [], orElse d.assetTag [],
    d.status]

/-- The head of the file. -/
def inventoryColumns : List PyStr :=
  ["hostname", "label", "os", "ip", "serial", "manufacturer", "model", "purchase_date", "warranty_expires",
    "location", "assigned_to", "asset_tag", "status"].map pyStr

/-- `_csv.writer.writerow`. -/
def writerow (row : List PyStr) : PyStr :=
  List.intercalate [points.comma] (row.map fun field =>
    if field.any [points.quote, points.comma, points.lf, points.cr].contains then
      [points.quote] ++ field.flatMap (fun c => if c = points.quote then [points.quote, points.quote] else [c]) ++
        [points.quote]
    else field) ++ [points.cr, points.lf]

/-- `export_inventory_csv`. -/
def exportInventoryCsv (Q : Queries) (org : Uuid) (devices : Multiset InventoryDevice) : PyStr :=
  writerow inventoryColumns ++
    (listInventory before ilike today Q org {} devices).flatMap fun d => writerow (d.record isoformat)

end

variable {before ilike : PyStr → PyStr → Bool} {isoformat : Nat → PyStr} {today : Nat}

/-- `writerow`, as rows of the CSV format. -/
theorem writerow_eq (row : List PyStr) :
    writerow row = Csv.renderRow points (row.map (Csv.Cell.minimal points)) ++ [points.cr, points.lf] := by
  rw [writerow, Csv.renderRow, List.map_map]
  refine congrArg (fun fields => List.intercalate [points.comma] fields ++ [points.cr, points.lf])
    (List.map_congr_left fun field _ => ?_)
  rw [Function.comp_apply, Csv.Cell.minimal]
  have hspecial : field.any [points.quote, points.comma, points.lf, points.cr].contains = true ↔
      ∃ c ∈ field, c ∈ [points.quote, points.comma, points.lf, points.cr] := by
    rw [List.any_eq_true]
    exact exists_congr fun c => and_congr_right fun _ => List.contains_iff_mem
  by_cases h : ∃ c ∈ field, c ∈ [points.quote, points.comma, points.lf, points.cr]
  · rw [if_pos h]
    exact if_pos (hspecial.mpr h)
  · rw [if_neg h]
    exact if_neg (h ∘ hspecial.mp)

/-- The fields of a row are read back, if there are at least two. -/
theorem lawful_minimalRow {row : List PyStr} (h : 2 ≤ row.length) :
    Csv.LawfulRow points (row.map (Csv.Cell.minimal points)) := by
  refine ⟨fun cell hcell => ?_, fun hnil => ?_, fun cell hcell => ?_⟩
  · obtain ⟨value, -, rfl⟩ := List.mem_map.mp hcell
    exact Csv.lawful_minimal value
  · rw [List.map_eq_nil_iff.mp hnil] at h
    exact absurd h (by decide)
  · have hlen := congrArg List.length hcell
    rw [List.length_map, List.length_singleton] at hlen
    omega

theorem values_minimalRow (row : List PyStr) :
    (row.map (Csv.Cell.minimal points)).map Csv.Cell.value = row := by
  rw [List.map_map]
  exact (List.map_congr_left fun value _ => Csv.value_minimal value).trans (List.map_id _)

/-- **The inventory is read back**: the head and, in the order of the list, a record for each device of the
    organization that is not revoked.

    The cells of a device come back as they are, whatever they contain; the order of the hostnames is the
    database's. -/
theorem inventory_round_trip (before ilike : PyStr → PyStr → Bool) (isoformat : Nat → PyStr) (today : Nat)
    (Q : Queries) (org : Uuid) (devices : Multiset InventoryDevice) :
    Csv.parse points (exportInventoryCsv before ilike isoformat today Q org devices) =
        some (inventoryColumns ::
          (listInventory before ilike today Q org {} devices).map fun d => d.record isoformat) ∧
      (listInventory before ilike today Q org {} devices : Multiset InventoryDevice) =
        devices.filter fun d => d.isRevoked = false ∧ d.orgId = some org := by
  constructor
  · have htext : exportInventoryCsv before ilike isoformat today Q org devices =
        Csv.renderLines points ((inventoryColumns ::
          (listInventory before ilike today Q org {} devices).map fun d => d.record isoformat).map
            (List.map (Csv.Cell.minimal points))) := by
      rw [exportInventoryCsv, Csv.renderLines, List.map_cons, List.flatMap_cons, writerow_eq, List.map_map,
        List.flatMap_map]
      exact congrArg _ (List.flatMap_congr fun d _ => writerow_eq _)
    rw [htext, Csv.parse_renderLines _ (by simp), List.map_map]
    · refine congrArg some ((List.map_congr_left fun row _ => ?_).trans (List.map_id _))
      exact values_minimalRow row
    · intro cells hcells
      obtain ⟨row, hrow, rfl⟩ := List.mem_map.mp hcells
      refine lawful_minimalRow ?_
      rcases List.mem_cons.mp hrow with rfl | hrow
      · decide
      · obtain ⟨d, -, rfl⟩ := List.mem_map.mp hrow
        rw [InventoryDevice.record]
        exact Nat.le_add_left 2 11
  · rw [listInventory, Queries.orderBy, Multiset.coe_eq_coe.mpr (List.mergeSort_perm _ _), Q.coe_rows]
    refine Multiset.filter_congr fun d _ => ?_
    simp [InventoryDevice.selected]

end Exports

end Dtsys
