import FluentQuery.Proofs.Paging

/-!
How far a page of a reader may reach. Main statement: a call gives as many rows as are asked for and
left, and moves on by them, just where the end of the page that is asked for is a word, although no
more rows than are left are ever taken. So of the readers that are not at their end only one at its
start takes every count.
-/
namespace FluentQuery.Memory

variable {name : String} {records : List Record}

/-- The call gives as many rows as are asked for and left, and moves on by them. -/
def Advances (memory : Memory) (columns : List String) (count : Nat) : Prop :=
  ∃ page, memory.read columns count =
      some (page, { memory with cursor := min (memory.cursor + count) memory.rowCount }) ∧
    page.length = columns.length ∧
    ∀ cells ∈ page, cells.length = min count (memory.rowCount - memory.cursor)

theorem advances_iff_lt {memory : Memory} (hw : memory.Whole) (hcolumns : memory.columns ≠ [])
    (hcursor : memory.cursor < memory.rowCount) (columns : List String) (count : Nat) :
    memory.Advances columns count ↔ memory.cursor + count < rowLimit := by
  constructor
  · rintro ⟨page, hread, -⟩
    apply Nat.lt_of_not_le
    intro hword
    rw [read_of_beyond hcolumns hcursor hword] at hread
    cases hread
  · intro hword
    refine ⟨_, read_of_lt hcolumns hcursor hword columns, List.length_map _, ?_⟩
    intro cells hcells
    obtain ⟨column, -, rfl⟩ := List.mem_map.1 hcells
    rw [length_slice hw (Nat.min_le_right _ _)]
    omega

theorem read_eq_none_iff {memory : Memory} (hcolumns : memory.columns ≠ [])
    (hcursor : memory.cursor < memory.rowCount) (columns : List String) (count : Nat) :
    memory.read columns count = none ↔ rowLimit ≤ memory.cursor + count := by
  constructor
  · intro hread
    apply Nat.le_of_not_lt
    intro hword
    rw [read_of_lt hcolumns hcursor hword] at hread
    cases hread
  · intro hword
    exact read_of_beyond hcolumns hcursor hword columns

theorem exists_place_of_read {cursor : Nat} {columns : List String} {count : Nat} {page : Page}
    {next : Memory}
    (h : (ofRecordsAt name records cursor).read columns count = some (page, next)) :
    ∃ place, next = ofRecordsAt name records place := by
  rcases (ofRecordsAt name records cursor).read_cases columns count with
    ⟨-, hread⟩ | ⟨-, -, -, hread⟩ | ⟨-, -, -, hread⟩
  · rw [hread] at h
    cases h
    exact ⟨_, rfl⟩
  · simp [hread] at h
  · rw [hread] at h
    cases h
    exact ⟨_, rfl⟩

theorem exists_place_of_reads {requests : List Request} {turns : List Turn} {cursor : Nat}
    {last : Memory} (h : (ofRecordsAt name records cursor).reads requests = some (turns, last)) :
    ∃ place, last = ofRecordsAt name records place := by
  induction requests generalizing cursor turns with
  | nil =>
    cases h
    exact ⟨cursor, rfl⟩
  | cons request requests ih =>
    simp only [reads, Option.bind_eq_bind, Option.bind_eq_some_iff] at h
    obtain ⟨⟨page, next⟩, hread, ⟨rest, after⟩, hrest, hlast⟩ := h
    obtain ⟨place, rfl⟩ := exists_place_of_read hread
    cases hlast
    exact ih hrest

/-- Calls of a reader over records, after any calls before. -/
theorem advances_iff {requests : List Request} {turns : List Turn} {memory : Memory}
    (hkeys : ∃ record ∈ records, record ≠ [])
    (hreads : (ofRecords name records).reads requests = some (turns, memory))
    (hcursor : memory.cursor < records.length) :
    (∀ columns count, memory.Advances columns count ↔ memory.cursor + count < rowLimit) ∧
    (∀ columns count, memory.read columns count = none ↔ rowLimit ≤ memory.cursor + count) ∧
    ((∀ columns count, count < rowLimit → memory.Advances columns count) ↔ memory.cursor = 0) := by
  obtain ⟨record, hr, hkey⟩ := hkeys
  have hcolumns := @columns_ne_nil name records record hr hkey
  obtain ⟨place, rfl⟩ := @exists_place_of_reads name records requests turns 0 memory hreads
  have hadvances := @advances_iff_lt (ofRecordsAt name records place)
    (whole_ofRecords name records) hcolumns hcursor
  refine ⟨hadvances, read_eq_none_iff hcolumns hcursor, ?_⟩
  constructor
  · intro h
    have hlast := (hadvances [] (rowLimit - 1)).1 (h [] (rowLimit - 1) (by decide))
    simp only [rowLimit] at hlast
    omega
  · intro hzero columns count hcount
    rw [hadvances, hzero]
    omega

/-- After one row of three, the other two are given for every count up to the last word but one. -/
theorem advances_iff_visits :
    let memory := ofRecordsAt "visits" visits 1
    ∃ turns, (∃ record ∈ visits, record ≠ []) ∧
      (ofRecords "visits" visits).reads [⟨["name"], 1⟩] = some (turns, memory) ∧
      memory.cursor < visits.length ∧
      memory.Advances ["town", "name"] (rowLimit - 2) ∧
      ¬ ∀ columns count, count < rowLimit → memory.Advances columns count := by
  intro memory
  have hkeys : ∃ record ∈ visits, record ≠ [] := ⟨_, List.mem_cons_self, by simp⟩
  have hreads : (ofRecords "visits" visits).reads [⟨["name"], 1⟩] =
    some ([⟨⟨["name"], 1⟩, 0, [[.str "Ann"]], 1⟩], memory) := by rfl
  have hcursor : memory.cursor < visits.length := by decide
  obtain ⟨hadvances, -, hall⟩ := advances_iff hkeys hreads hcursor
  refine ⟨_, hkeys, hreads, hcursor, (hadvances _ _).2 (by decide), ?_⟩
  rw [hall]
  decide

/-- Asked for as many rows as a word can count, a reader that has given one row of three has no
answer. -/
theorem not_advances_visits :
    let memory := ofRecordsAt "visits" visits 1
    (∃ turns, (ofRecords "visits" visits).reads [⟨["name"], 1⟩] = some (turns, memory)) ∧
      memory.cursor < visits.length ∧
      memory.read ["name"] (rowLimit - 1) = none ∧ ¬ memory.Advances ["name"] (rowLimit - 1) := by
  intro memory
  have hread : memory.read ["name"] (rowLimit - 1) = none :=
    read_of_beyond (by decide) (by decide) (by decide) _
  refine ⟨⟨_, rfl⟩, by decide, hread, ?_⟩
  rintro ⟨page, hpage, -⟩
  rw [hread] at hpage
  cases hpage

end FluentQuery.Memory
