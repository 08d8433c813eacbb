import FluentQuery.Proofs.Paging

/-!
Draining a reader from wherever it stands. Main statements: the pages that are left are enough for
every run that ends, and draining a reader over records ends, gives each record that is left once
and in order, and puts the reader back to its start, whatever the size of the batches.
-/
namespace FluentQuery

namespace Reader

/-- Reading pages until one has no rows. Every derivation is a run that ends. -/
inductive Drains (columns : List String) (batch : Nat) :
    Reader → List (List Json) → Reader → Prop
  | last {reader next : Reader} {page : Page}
      (read : reader.read columns batch = some (page, next)) (empty : rowsOfPage page = []) :
      Drains columns batch reader [] next
  | page {reader next final : Reader} {page : Page} {rows : List (List Json)}
      (read : reader.read columns batch = some (page, next)) (some : rowsOfPage page ≠ [])
      (rest : Drains columns batch next rows final) :
      Drains columns batch reader (rowsOfPage page ++ rows) final

variable {columns : List String} {batch : Nat} {reader next : Reader} {page : Page}

theorem pagesLeft_pos (reader : Reader) : 0 < reader.pagesLeft := by
  cases reader <;> simp [pagesLeft]

theorem rowsOfPage_ne_nil_iff : rowsOfPage page ≠ [] ↔ 0 < (page.head?.getD []).length := by
  simp [rowsOfPage, List.length_pos_iff]

theorem pagesLeft_lt (hread : reader.read columns batch = some (page, next))
    (hrows : rowsOfPage page ≠ []) : next.pagesLeft < reader.pagesLeft := by
  rw [rowsOfPage_ne_nil_iff] at hrows
  cases reader with
  | feed name schema pages =>
    cases pages with
    | nil =>
      cases hread
      simp at hrows
    | cons first pages =>
      cases hread
      simp [pagesLeft]
  | memory memory =>
    obtain ⟨answer, hanswer, hnext⟩ := Option.map_eq_some_iff.1 hread
    cases hnext
    rcases memory.read_cases columns batch with
      ⟨-, h⟩ | ⟨-, -, -, h⟩ | ⟨-, hcursor, -, h⟩
    · rw [h] at hanswer
      cases hanswer
      simp at hrows
    · simp [h] at hanswer
    · rw [h] at hanswer
      cases hanswer
      cases columns with
      | nil => simp at hrows
      | cons column columns =>
        have hmoved := memory.length_slice_le memory.cursor
          (min (memory.cursor + batch) memory.rowCount) column
        simp only [List.map_cons, List.head?_cons, Option.getD_some] at hrows
        simp only [pagesLeft]
        omega

theorem drainFrom_eq_some_iff {fuel : Nat} (hfuel : reader.pagesLeft ≤ fuel)
    {rows : List (List Json)} {final : Reader} :
    drainFrom columns batch fuel reader = some (rows, final) ↔
      Drains columns batch reader rows final := by
  induction fuel generalizing reader rows with
  | zero =>
    have := reader.pagesLeft_pos
    omega
  | succ fuel ih =>
    constructor
    · intro h
      cases hread : reader.read columns batch with
      | none => simp [drainFrom, hread] at h
      | some answer =>
        obtain ⟨page, next⟩ := answer
        rw [drainFrom_succ hread] at h
        split at h
        · next hempty =>
          cases h
          exact .last hread (List.isEmpty_iff.1 hempty)
        · next hrows =>
          have hrows : rowsOfPage page ≠ [] := fun he => hrows (List.isEmpty_iff.2 he)
          obtain ⟨⟨rest, last⟩, hrest, hdrained⟩ := Option.map_eq_some_iff.1 h
          cases hdrained
          have hleft := pagesLeft_lt hread hrows
          exact .page hread hrows ((ih (by omega)).1 hrest)
    · intro h
      cases h with
      | last hread hempty => simp [drainFrom_succ hread, hempty]
      | page hread hrows hrest =>
        have hleft := pagesLeft_lt hread hrows
        rw [drainFrom_succ hread, if_neg (by simpa using hrows), (ih (by omega)).2 hrest]
        rfl

/-- Draining is reading until a page has no rows: it is not cut off before. -/
theorem drain_eq_some_iff {rows : List (List Json)} {final : Reader} :
    drain columns batch reader = some (rows, final) ↔ Drains columns batch reader rows final :=
  drainFrom_eq_some_iff (Nat.le_refl _)

end Reader

namespace Shelf

variable {shelf : Shelf} {handle : Handle} {name : String} {records : List Record} {cursor : Nat}
  {columns : List String}

/-- Where the reader of a handle can be drained, that is what it gives, and it stays as it is
then. -/
theorem readAll_eq {reader final : Reader} (hslot : shelf.slot handle = ⟨reader, false⟩)
    {batch : Nat} (hbatch : 0 < batch) {rows : List (List Json)}
    (h : Reader.Drains columns batch reader rows final) :
    shelf.readAll handle columns batch = (.ok rows, shelf.setSlot handle ⟨final, false⟩) :=
  readAll_of_drain hslot hbatch (Reader.drain_eq_some_iff.2 h)

/-- Draining a reader over records from wherever it stands. The records are no more than a memory
of words can hold. -/
theorem readAll_rest (hkeys : ∃ record ∈ records, record ≠ [])
    (hlength : 2 * records.length ≤ Memory.rowLimit) (hne : columns ≠ [])
    (hslot : shelf.slot handle = ⟨.memory (.ofRecordsAt name records cursor), false⟩) :
    let rest := (records.drop cursor).map fun record => columns.map (valueAt record)
    (∀ batch, 0 < batch → cursor + batch < Memory.rowLimit →
      Reader.Drains columns batch (.memory (.ofRecordsAt name records cursor)) rest
        (.memory (.ofRecords name records)) ∧
      shelf.readAll handle columns batch =
        (.ok rest, shelf.setSlot handle ⟨.memory (.ofRecords name records), false⟩)) ∧
    shelf.readAll handle columns 0 = (.error .zeroBatch, shelf) ∧
    Error.zeroBatch.kind = .validation := by
  obtain ⟨record, hr, hkey⟩ := hkeys
  have hcolumns := @Memory.columns_ne_nil name records record hr hkey
  refine ⟨fun batch hbatch hword => ?_, rfl, rfl⟩
  have hdrain := @Reader.drain_memory (.ofRecordsAt name records cursor)
    (Memory.whole_ofRecords name records) hcolumns hlength batch hbatch (fun _ => hword) columns hne
  have hrest : (Memory.ofRecordsAt name records cursor).rowsFrom columns cursor = _ :=
    Memory.rowsFrom_ofRecords name records columns cursor
  have hdrains := Reader.drain_eq_some_iff.1 hdrain
  rw [show (Memory.ofRecordsAt name records cursor).cursor = cursor from rfl, hrest] at hdrains
  exact ⟨hdrains, readAll_eq hslot hbatch hdrains⟩

/-- Two of three records are left, and of the columns one is asked for twice and one is unknown. -/
theorem readAll_rest_visits :
    let reader := Memory.ofRecordsAt "visits" Memory.visits 1
    let shelf : Shelf := ⟨[⟨.memory reader, false⟩]⟩
    let rest : List (List Json) :=
      [[.str "Oslo", .null, .str "Oslo"], [.str "Lima", .null, .str "Lima"]]
    (∃ record ∈ Memory.visits, record ≠ []) ∧
    2 * Memory.visits.length ≤ Memory.rowLimit ∧
    (∀ batch, 0 < batch → 1 + batch < Memory.rowLimit →
      Reader.Drains ["town", "id", "town"] batch (.memory reader) rest
        (.memory (.ofRecords "visits" Memory.visits)) ∧
      shelf.readAll ⟨0, "visits"⟩ ["town", "id", "town"] batch =
        (.ok rest, ⟨[⟨.memory (.ofRecords "visits" Memory.visits), false⟩]⟩)) ∧
    shelf.readAll ⟨0, "visits"⟩ ["town", "id", "town"] 0 = (.error .zeroBatch, shelf) := by
  intro reader shelf rest
  have hkeys : ∃ record ∈ Memory.visits, record ≠ [] := ⟨_, List.mem_cons_self, by simp⟩
  have hlength : 2 * Memory.visits.length ≤ Memory.rowLimit := by decide
  obtain ⟨hrest, hzero, -⟩ := @readAll_rest shelf ⟨0, "visits"⟩ "visits" Memory.visits 1
    ["town", "id", "town"] hkeys hlength (by simp) rfl
  exact ⟨hkeys, hlength, hrest, hzero⟩

end Shelf

end FluentQuery
