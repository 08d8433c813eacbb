import FluentQuery.Proofs.Draining

/-!
The columns of a reader over records. Main statements: there is one column for each key that occurs
and no other, its type is that of all its values if they are of one kind, and the rows of the
reader are the records, one cell for each of the columns that are asked for, known or not.
-/
namespace FluentQuery

def valueAt (record : Record) (key : String) : Json := (Assoc.get? key record).getD .null

theorem valueAt_eq_iff {record : Record} {key : String} {value : Json} (hne : value ≠ .null) :
    valueAt record key = value ↔ Assoc.get? key record = some value := by
  unfold valueAt
  cases Assoc.get? key record with
  | none => simp [hne.symm]
  | some other => simp

namespace Columns

variable {records : List Record} {key : String}

theorem mem_keysOf : key ∈ keysOf records ↔ ∃ record ∈ records, key ∈ Assoc.keys record := by
  rw [keysOf, Assoc.mem_keys_sortedOfPairs]
  simp [Assoc.keys]

theorem nodup_keysOf (records : List Record) : (keysOf records).Nodup := by
  refine List.Pairwise.imp (fun hlt => ?_) (Assoc.sorted_keys_sortedOfPairs _)
  rintro rfl
  exact String.lt_irrefl _ hlt

theorem keysOf_ne_nil {record : Record} (hr : record ∈ records) (hrecord : record ≠ []) :
    keysOf records ≠ [] := by
  obtain ⟨entry, entries, rfl⟩ := List.exists_cons_of_ne_nil hrecord
  exact List.ne_nil_of_mem (mem_keysOf.2 ⟨_, hr, List.mem_cons_self⟩)

theorem get?_ofRecords (h : key ∈ keysOf records) :
    Assoc.get? key (ofRecords records) = some (records.map fun record => valueAt record key) :=
  Assoc.get?_map h _

theorem keys_ofRecords (records : List Record) :
    Assoc.keys (ofRecords records) = keysOf records := by
  rw [ofRecords, Assoc.keys, List.map_map]
  exact List.map_id _

theorem get?_ofRecords_eq_none (h : key ∉ keysOf records) :
    Assoc.get? key (ofRecords records) = none := by
  apply Assoc.get?_of_not_mem
  rwa [keys_ofRecords]

theorem valueAt_eq_null (h : key ∉ keysOf records) {record : Record} (hr : record ∈ records) :
    valueAt record key = .null := by
  have hkey : key ∉ Assoc.keys record := fun hk => h (mem_keysOf.2 ⟨record, hr, hk⟩)
  rw [valueAt, Assoc.get?_of_not_mem hkey, Option.getD_none]

theorem schema_ofRecords (records : List Record) :
    (ofRecords records).schema = (keysOf records).map fun key =>
      (key, tag (records.map fun record => valueAt record key)) := by
  rw [schema, ofRecords, List.map_map]
  rfl

theorem keys_schema_ofRecords (records : List Record) :
    Assoc.keys (ofRecords records).schema = keysOf records := by
  rw [schema_ofRecords, Assoc.keys, List.map_map]
  exact List.map_id _

theorem tag_eq {cells : List Json} {cell : Json} (hc : cell ∈ cells) (hnull : cell.isNull = false)
    (huniform : ∀ other ∈ cells, other.isNull = false → tagOf other = tagOf cell) :
    tag cells = tagOf cell := by
  cases hfind : cells.find? (fun cell => !cell.isNull) with
  | none =>
    have hnone := List.find?_eq_none.1 hfind cell hc
    simp [hnull] at hnone
  | some other =>
    have hother := List.find?_some hfind
    rw [tag, hfind]
    exact huniform other (List.mem_of_find?_eq_some hfind) (by simpa using hother)

end Columns

namespace Memory

theorem cell_ofRecords (name : String) {records : List Record} {row : Nat} {record : Record}
    (hrow : records[row]? = some record) (key : String) :
    (ofRecords name records).cell row key = valueAt record key := by
  by_cases h : key ∈ Columns.keysOf records
  · have hcolumn : Assoc.get? key (ofRecords name records).columns =
        some (records.map fun record => valueAt record key) := Columns.get?_ofRecords h
    simp [cell, hcolumn, hrow]
  · have hnone : Assoc.get? key (ofRecords name records).columns = none :=
      Columns.get?_ofRecords_eq_none h
    rw [cell, hnone, Columns.valueAt_eq_null h (List.mem_of_getElem? hrow)]
    rfl

theorem rowsFrom_ofRecords (name : String) (records : List Record) (keys : List String)
    (first : Nat) : (ofRecords name records).rowsFrom keys first =
      (records.drop first).map fun record => keys.map (valueAt record) := by
  apply List.ext_getElem?
  intro i
  rw [rowsFrom, rowsAt, List.getElem?_map, List.getElem?_map, List.getElem?_drop]
  cases hrow : records[first + i]? with
  | none =>
    have hlength : records.length ≤ first + i := List.getElem?_eq_none_iff.1 hrow
    have hcount : (ofRecords name records).rowCount - first ≤ i := by
      simp only [ofRecords]
      omega
    simp [hcount]
  | some record =>
    have hlength : first + i < records.length := (List.getElem?_eq_some_iff.1 hrow).1
    have hcount : i < (ofRecords name records).rowCount - first := by
      simp only [ofRecords]
      omega
    rw [List.getElem?_range' hcount, Nat.one_mul, Option.map_some, Option.map_some]
    exact congrArg some (List.map_congr_left fun key _ => cell_ofRecords name hrow key)

theorem columns_ofRecords_ne_nil (name : String) {records : List Record}
    (h : Columns.keysOf records ≠ []) : (ofRecords name records).columns ≠ [] := by
  intro hnil
  rw [← Columns.keys_ofRecords, show Columns.ofRecords records = [] from hnil] at h
  exact h rfl

end Memory

/-- A reader over records at its start gives all of them, and the shelf is as it was. -/
theorem Shelf.readAll_ofRecords {shelf : Shelf} {handle : Handle} {name : String}
    {records : List Record}
    (hslot : shelf.slot handle = ⟨.memory (.ofRecords name records), false⟩)
    (hlength : 2 * records.length ≤ Memory.rowLimit) (hkeys : Columns.keysOf records ≠ [])
    {batch : Nat} (hbatch : 0 < batch) (hword : batch < Memory.rowLimit) {columns : List String}
    (hne : columns ≠ []) :
    shelf.readAll handle columns batch =
      (.ok (records.map fun record => columns.map (valueAt record)), shelf) := by
  have hread := readAll_memory hslot rfl (Memory.whole_ofRecords name records)
    (Memory.columns_ofRecords_ne_nil name hkeys) hlength hbatch hword hne
  rwa [Memory.rowsFrom_ofRecords, List.drop_zero] at hread

end FluentQuery
