import FluentQuery.Reader.Shelf

/-!
Draining a memory reader. Main statement: whatever the size of the batches, draining gives every row
from the cursor on, once and in order, and leaves the reader at its start.
-/
namespace FluentQuery

namespace Memory

/-- Every column has a cell for each row. -/
def Whole (memory : Memory) : Prop :=
  ∀ column ∈ memory.columns, column.2.length = memory.rowCount

theorem whole_ofRecords (name : String) (records : List Record) :
    (ofRecords name records).Whole := by
  intro column hc
  obtain ⟨key, -, rfl⟩ := List.mem_map.1 hc
  simp [ofRecords]

def cell (memory : Memory) (row : Nat) (column : String) : Json :=
  ((Assoc.get? column memory.columns).bind (·[row]?)).getD .null

def rowsAt (memory : Memory) (columns : List String) (rows : List Nat) : List (List Json) :=
  rows.map fun row => columns.map (memory.cell row)

def rowsFrom (memory : Memory) (columns : List String) (first : Nat) : List (List Json) :=
  memory.rowsAt columns (List.range' first (memory.rowCount - first))

theorem rowsFrom_eq_append (memory : Memory) (columns : List String) {first last : Nat}
    (hfirst : first ≤ last) (hlast : last ≤ memory.rowCount) :
    memory.rowsFrom columns first =
      memory.rowsAt columns (List.range' first (last - first)) ++ memory.rowsFrom columns last := by
  have hcount : memory.rowCount - first = (last - first) + (memory.rowCount - last) := by omega
  have hplace : first + (last - first) = last := by omega
  rw [rowsFrom, hcount, ← List.range'_append_1, hplace, rowsAt, List.map_append]
  rfl

def slice (memory : Memory) (first last : Nat) (column : String) : List Json :=
  match Assoc.get? column memory.columns with
  | some cells => (cells.drop first).take (last - first)
  | none => List.replicate (last - first) .null

theorem length_slice_le (memory : Memory) (first last : Nat) (column : String) :
    (memory.slice first last column).length ≤ last - first := by
  unfold slice
  split
  · simp only [List.length_take]
    omega
  · simp

theorem length_slice {memory : Memory} (hw : memory.Whole) {first last : Nat}
    (hlast : last ≤ memory.rowCount) (column : String) :
    (memory.slice first last column).length = last - first := by
  unfold slice
  split
  · next hcells =>
    have hl : _ = memory.rowCount := hw _ (Assoc.mem_of_get? hcells)
    simp only [List.length_take, List.length_drop, hl]
    omega
  · exact List.length_replicate

theorem getD_slice {memory : Memory} {first last i : Nat} (hi : i < last - first)
    (column : String) :
    ((memory.slice first last column)[i]?).getD .null = memory.cell (first + i) column := by
  unfold slice cell
  split
  · next hcells => simp [hi, hcells]
  · next hcells => simp [hi, hcells]

theorem rowsOfPage_slices {memory : Memory} (hw : memory.Whole) {first last : Nat}
    (hlast : last ≤ memory.rowCount) {columns : List String} (hne : columns ≠ []) :
    Reader.rowsOfPage (columns.map (memory.slice first last)) =
      memory.rowsAt columns (List.range' first (last - first)) := by
  obtain ⟨column, others, rfl⟩ := List.exists_cons_of_ne_nil hne
  rw [Reader.rowsOfPage, List.map_cons, List.head?_cons, Option.getD_some, length_slice hw hlast,
    List.range'_eq_map_range, rowsAt, List.map_map, ← List.map_cons]
  refine List.map_congr_left fun i hi => ?_
  rw [List.map_map]
  exact List.map_congr_left fun name _ => getD_slice (List.mem_range.1 hi) name

theorem read_of_lt {memory : Memory} (hcolumns : memory.columns ≠ [])
    (h : memory.cursor < memory.rowCount) {batch : Nat} (hword : memory.cursor + batch < rowLimit)
    (columns : List String) :
    memory.read columns batch =
      let last := min (memory.cursor + batch) memory.rowCount
      some (columns.map (memory.slice memory.cursor last), { memory with cursor := last }) := by
  have hfirst : ¬ (memory.columns.isEmpty || decide (memory.rowCount ≤ memory.cursor)) = true := by
    simp only [Bool.or_eq_true, List.isEmpty_iff, decide_eq_true_eq, not_or, Nat.not_le]
    exact ⟨hcolumns, h⟩
  rw [read, if_neg hfirst, if_neg (Nat.not_le.2 hword)]
  rfl

/-- At its end a reader gives an empty page and starts over. -/
theorem read_of_le {memory : Memory} (h : memory.rowCount ≤ memory.cursor) (batch : Nat)
    (columns : List String) :
    memory.read columns batch = some ([], { memory with cursor := 0 }) := by
  rw [read, if_pos (by simp [h])]

/-- There is no answer where the page's end would not be a word. -/
theorem read_of_beyond {memory : Memory} (hcolumns : memory.columns ≠ [])
    (h : memory.cursor < memory.rowCount) {batch : Nat} (hword : rowLimit ≤ memory.cursor + batch)
    (columns : List String) : memory.read columns batch = none := by
  simp [read, hcolumns, h, hword]

theorem read_cases (memory : Memory) (columns : List String) (batch : Nat) :
    ((memory.columns = [] ∨ memory.rowCount ≤ memory.cursor) ∧
      memory.read columns batch = some ([], { memory with cursor := 0 })) ∨
    (memory.columns ≠ [] ∧ memory.cursor < memory.rowCount ∧
      rowLimit ≤ memory.cursor + batch ∧ memory.read columns batch = none) ∨
    (memory.columns ≠ [] ∧ memory.cursor < memory.rowCount ∧
      memory.cursor + batch < rowLimit ∧
      let last := min (memory.cursor + batch) memory.rowCount
      memory.read columns batch =
        some (columns.map (memory.slice memory.cursor last), { memory with cursor := last })) := by
  by_cases hstart : memory.columns = [] ∨ memory.rowCount ≤ memory.cursor
  · exact .inl ⟨hstart, by simp [read, hstart]⟩
  · simp only [not_or, Nat.not_le] at hstart
    obtain ⟨hcolumns, hcursor⟩ := hstart
    rcases Nat.lt_or_ge (memory.cursor + batch) rowLimit with hword | hword
    · exact .inr (.inr ⟨hcolumns, hcursor, hword, read_of_lt hcolumns hcursor hword columns⟩)
    · exact .inr (.inl ⟨hcolumns, hcursor, hword, read_of_beyond hcolumns hcursor hword columns⟩)

end Memory

namespace Reader

theorem drainFrom_succ {columns : List String} {batch : Nat} {reader next : Reader} {page : Page}
    (h : reader.read columns batch = some (page, next)) (fuel : Nat) :
    drainFrom columns batch (fuel + 1) reader =
      if (rowsOfPage page).isEmpty then some ([], next)
      else (drainFrom columns batch fuel next).map fun drained =>
        (rowsOfPage page ++ drained.1, drained.2) := by
  simp only [drainFrom, h, Option.bind_eq_bind, Option.bind_some]
  split
  · rfl
  · cases drainFrom columns batch fuel next <;> rfl

theorem drainFrom_memory {memory : Memory} (hw : memory.Whole) (hcolumns : memory.columns ≠ [])
    (hrows : 2 * memory.rowCount ≤ Memory.rowLimit) {batch : Nat} (hbatch : 0 < batch)
    (hword : memory.cursor < memory.rowCount → memory.cursor + batch < Memory.rowLimit)
    {columns : List String} (hne : columns ≠ []) {fuel : Nat}
    (hfuel : memory.rowCount - memory.cursor < fuel) :
    drainFrom columns batch fuel (.memory memory) =
      some (memory.rowsFrom columns memory.cursor, .memory { memory with cursor := 0 }) := by
  induction fuel generalizing memory with
  | zero => omega
  | succ fuel ih =>
    -- a page with rows moves the cursor on, and the empty one after the last row puts it back
    by_cases h : memory.cursor < memory.rowCount
    · obtain ⟨last, hlast⟩ : ∃ last, last = min (memory.cursor + batch) memory.rowCount := ⟨_, rfl⟩
      have hcursor : memory.cursor < last := by omega
      have hrowCount : last ≤ memory.rowCount := by omega
      have hread : Reader.read columns batch (.memory memory) =
          some (columns.map (memory.slice memory.cursor last),
            .memory { memory with cursor := last }) := by
        rw [Reader.read, Memory.read_of_lt hcolumns h (hword h), hlast]
        rfl
      have hpage := @Memory.rowsOfPage_slices memory hw memory.cursor last hrowCount columns hne
      have hsome : ¬ (memory.rowsAt columns
          (List.range' memory.cursor (last - memory.cursor))).isEmpty = true := by
        rw [Memory.rowsAt, List.isEmpty_map, List.isEmpty_iff, List.range'_eq_nil_iff]
        omega
      have hnext : last < memory.rowCount → last + batch < Memory.rowLimit := by omega
      have hrest := @ih { memory with cursor := last } hw hcolumns hrows hnext
        (by change memory.rowCount - last < fuel; omega)
      rw [drainFrom_succ hread, hpage, if_neg hsome, hrest,
        memory.rowsFrom_eq_append columns (Nat.le_of_lt hcursor) hrowCount]
      rfl
    · have hread : Reader.read columns batch (.memory memory) =
          some ([], .memory { memory with cursor := 0 }) := by
        rw [Reader.read, Memory.read_of_le (Nat.le_of_not_lt h)]
        rfl
      have hzero : memory.rowCount - memory.cursor = 0 := by omega
      rw [drainFrom_succ hread, Memory.rowsFrom, hzero]
      rfl

theorem drain_memory {memory : Memory} (hw : memory.Whole) (hcolumns : memory.columns ≠ [])
    (hrows : 2 * memory.rowCount ≤ Memory.rowLimit) {batch : Nat} (hbatch : 0 < batch)
    (hword : memory.cursor < memory.rowCount → memory.cursor + batch < Memory.rowLimit)
    {columns : List String} (hne : columns ≠ []) :
    drain columns batch (.memory memory) =
      some (memory.rowsFrom columns memory.cursor, .memory { memory with cursor := 0 }) :=
  drainFrom_memory hw hcolumns hrows hbatch hword hne (Nat.lt_succ_self _)

end Reader

namespace Shelf

theorem setSlot_slot (shelf : Shelf) (handle : Handle) :
    shelf.setSlot handle (shelf.slot handle) = shelf := by
  have h : shelf.slots.set handle.id (shelf.slots.getD handle.id default) = shelf.slots := by
    refine List.ext_getElem? fun i => ?_
    rw [List.getElem?_set]
    split
    · next hi =>
      subst hi
      split
      · next hlt => simp [hlt]
      · next hge => simp [hge]
    · rfl
  rw [setSlot, slot, h]

theorem readAll_of_drain {shelf : Shelf} {handle : Handle} {reader final : Reader}
    (hslot : shelf.slot handle = ⟨reader, false⟩) {columns : List String} {batch : Nat}
    (hbatch : 0 < batch) {rows : List (List Json)}
    (h : reader.drain columns batch = some (rows, final)) :
    shelf.readAll handle columns batch = (.ok rows, shelf.setSlot handle ⟨final, false⟩) := by
  simp [readAll, use, hslot, h, Nat.pos_iff_ne_zero.1 hbatch]

/-- A memory reader at its start gives all its rows, and the shelf is as it was. -/
theorem readAll_memory {shelf : Shelf} {handle : Handle} {memory : Memory}
    (hslot : shelf.slot handle = ⟨.memory memory, false⟩) (hstart : memory.cursor = 0)
    (hw : memory.Whole) (hcolumns : memory.columns ≠ [])
    (hrows : 2 * memory.rowCount ≤ Memory.rowLimit) {batch : Nat} (hbatch : 0 < batch)
    (hword : batch < Memory.rowLimit) {columns : List String} (hne : columns ≠ []) :
    shelf.readAll handle columns batch = (.ok (memory.rowsFrom columns 0), shelf) := by
  have hsame : { memory with cursor := 0 } = memory := by rw [← hstart]
  have hdrain := Reader.drain_memory hw hcolumns hrows hbatch (fun _ => by omega) hne
  rw [hstart, hsame] at hdrain
  rw [readAll_of_drain hslot hbatch hdrain, ← hslot, setSlot_slot]

end Shelf

end FluentQuery
