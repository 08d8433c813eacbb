import FluentQuery.Proofs.RecordColumns

/-!
Runs of reads from a memory reader. Main statement: whatever columns and counts are asked for, the
calls between two restarts of the reader consume each of its rows once and in order, and each call
gives the cells of the rows that it consumes.
-/
namespace FluentQuery

namespace Memory

structure Request where
  columns : List String
  count : Nat
deriving Repr

/-- A call with its answer, and where the reader stood before it and after it. -/
structure Turn where
  request : Request
  first : Nat
  page : Page
  next : Nat
deriving Repr

def Turn.rows (turn : Turn) : List Nat := List.range' turn.first (turn.next - turn.first)

def reads (memory : Memory) : List Request → Option (List Turn × Memory)
  | [] => some ([], memory)
  | request :: requests => do
    let (page, next) ← memory.read request.columns request.count
    let (turns, last) ← next.reads requests
    some (⟨request, memory.cursor, page, next.cursor⟩ :: turns, last)

/-- No page of these calls ends beyond the last word. -/
def fits (memory : Memory) : List Request → Bool
  | [] => true
  | request :: requests =>
    (memory.rowCount ≤ memory.cursor || memory.cursor + request.count < rowLimit) &&
      match memory.read request.columns request.count with
      | some (_, next) => next.fits requests
      | none => false

/-- What a call of a reader over these records does, wherever the reader stands. -/
structure Turn.Answers (records : List Record) (turn : Turn) : Prop where
  first_le : turn.first ≤ records.length
  next_le : turn.next ≤ records.length
  page : turn.first < records.length →
    turn.next = min (turn.first + turn.request.count) records.length ∧
      turn.page = turn.request.columns.map fun column =>
        ((records.drop turn.first).take (turn.next - turn.first)).map fun record =>
          valueAt record column
  restart : turn.first = records.length → turn.page = [] ∧ turn.next = 0

/-- From one restart, or from the first turn, up to the next restart the turns go over each row once
and in order. -/
def Laps (records : List Record) (turns : List Turn) : Prop :=
  ∀ before lap reset after, turns = before ++ (lap ++ reset :: after) →
    (∀ turn ∈ before.getLast?, turn.first = records.length) →
    (∀ turn ∈ lap, turn.first ≠ records.length) → reset.first = records.length →
      lap.flatMap Turn.rows = List.range records.length

def Leads : Nat → List Turn → Nat → Prop
  | first, [], last => first = last
  | first, turn :: turns, last => turn.first = first ∧ Leads turn.next turns last

variable {name : String} {records : List Record}

theorem slice_ofRecords {first last : Nat} (hlast : last ≤ records.length) (column : String) :
    (ofRecords name records).slice first last column =
      ((records.drop first).take (last - first)).map fun record => valueAt record column := by
  by_cases hcolumn : column ∈ Columns.keysOf records
  · have hcells : Assoc.get? column (ofRecords name records).columns =
        some (records.map fun record => valueAt record column) := Columns.get?_ofRecords hcolumn
    simp only [slice, hcells, List.map_take, List.map_drop]
  · have hnone : Assoc.get? column (ofRecords name records).columns = none :=
      Columns.get?_ofRecords_eq_none hcolumn
    have hnull : ∀ record ∈ (records.drop first).take (last - first),
        valueAt record column = .null := fun record hr =>
      Columns.valueAt_eq_null hcolumn (List.mem_of_mem_drop (List.mem_of_mem_take hr))
    have hlength : last - first ≤ records.length - first := by omega
    simp only [slice, hnone]
    rw [List.map_congr_left hnull, List.map_const']
    simp [hlength]

def ofRecordsAt (name : String) (records : List Record) (cursor : Nat) : Memory :=
  { ofRecords name records with cursor }

theorem columns_ne_nil {record : Record} (hr : record ∈ records) (hkeys : record ≠ []) :
    (ofRecords name records).columns ≠ [] :=
  columns_ofRecords_ne_nil name (Columns.keysOf_ne_nil hr hkeys)

theorem read_answers (hcolumns : (ofRecords name records).columns ≠ []) {cursor : Nat}
    (hcursor : cursor ≤ records.length) (request : Request)
    (hword : cursor < records.length → cursor + request.count < rowLimit) :
    ∃ page next, (ofRecordsAt name records cursor).read request.columns request.count =
        some (page, ofRecordsAt name records next) ∧
      Turn.Answers records ⟨request, cursor, page, next⟩ := by
  by_cases h : cursor < records.length
  · have hread := @read_of_lt (ofRecordsAt name records cursor) hcolumns h request.count (hword h)
      request.columns
    refine ⟨_, _, hread, hcursor, Nat.min_le_right _ _, fun _ => ⟨rfl, ?_⟩, fun heq => ?_⟩
    · exact List.map_congr_left fun column _ =>
        @slice_ofRecords name records _ _ (Nat.min_le_right _ _) column
    · exact absurd heq (Nat.ne_of_lt h)
  · have hread := @read_of_le (ofRecordsAt name records cursor) (Nat.le_of_not_lt h) request.count
      request.columns
    exact ⟨_, _, hread, hcursor, Nat.zero_le _, fun hlt => absurd hlt h, fun _ => ⟨rfl, rfl⟩⟩

theorem reads_answers (hcolumns : (ofRecords name records).columns ≠ []) {requests : List Request}
    {cursor : Nat} (hcursor : cursor ≤ records.length)
    (hfits : (ofRecordsAt name records cursor).fits requests = true) :
    ∃ turns last, (ofRecordsAt name records cursor).reads requests =
        some (turns, ofRecordsAt name records last) ∧
      turns.map Turn.request = requests ∧ (∀ turn ∈ turns, turn.Answers records) ∧
      Leads cursor turns last ∧ last ≤ records.length := by
  -- every call leaves a reader over the same records, so only the cursor varies
  induction requests generalizing cursor with
  | nil => exact ⟨[], cursor, rfl, rfl, by simp, rfl, hcursor⟩
  | cons request requests ih =>
    rw [fits, Bool.and_eq_true, Bool.or_eq_true, decide_eq_true_eq, decide_eq_true_eq] at hfits
    obtain ⟨hword, hrest⟩ := hfits
    obtain ⟨page, next, hread, hanswers⟩ := @read_answers name records hcolumns cursor hcursor
      request (fun hlt => hword.resolve_left (Nat.not_le.2 hlt))
    rw [hread] at hrest
    obtain ⟨turns, last, hreads, hrequests, hturns, hleads, hlast⟩ :=
      @ih next hanswers.next_le hrest
    refine ⟨⟨request, cursor, page, next⟩ :: turns, last, ?_, ?_, ?_, ⟨rfl, hleads⟩, hlast⟩
    · simp only [reads, hread, Option.bind_eq_bind, Option.bind_some, hreads]
      rfl
    · rw [List.map_cons, hrequests]
    · exact List.forall_mem_cons.2 ⟨hanswers, hturns⟩

theorem leads_append {first last : Nat} {turns others : List Turn} :
    Leads first (turns ++ others) last ↔
      ∃ middle, Leads first turns middle ∧ Leads middle others last := by
  induction turns generalizing first with
  | nil => simp [Leads]
  | cons turn turns ih => simp [Leads, ih, and_assoc]

/-- Calls without a restart go over the rows between the two ends. -/
theorem rows_of_leads {first last : Nat} {lap : List Turn} (hleads : Leads first lap last)
    (hanswers : ∀ turn ∈ lap, turn.Answers records)
    (hlap : ∀ turn ∈ lap, turn.first ≠ records.length) :
    first ≤ last ∧ lap.flatMap Turn.rows = List.range' first (last - first) := by
  induction lap generalizing first with
  | nil =>
    cases hleads
    simp
  | cons turn lap ih =>
    obtain ⟨rfl, hleads⟩ := hleads
    have hturn := hanswers turn List.mem_cons_self
    have hfirst : turn.first < records.length :=
      Nat.lt_of_le_of_ne hturn.first_le (hlap turn List.mem_cons_self)
    have hnext := (hturn.page hfirst).1
    obtain ⟨hlast, hrows⟩ := ih hleads (fun other ho => hanswers other (List.mem_cons_of_mem _ ho))
      (fun other ho => hlap other (List.mem_cons_of_mem _ ho))
    have hstart : turn.first ≤ turn.next := by omega
    have hplace : turn.next = turn.first + (turn.next - turn.first) := by omega
    have hcount : last - turn.first = (turn.next - turn.first) + (last - turn.next) := by omega
    refine ⟨Nat.le_trans hstart hlast, ?_⟩
    rw [List.flatMap_cons, hrows, Turn.rows, hcount, ← List.range'_append_1, ← hplace]

theorem eq_zero_of_leads {last : Nat} {before : List Turn} (hleads : Leads 0 before last)
    (hanswers : ∀ turn ∈ before, turn.Answers records)
    (hrestart : ∀ turn ∈ before.getLast?, turn.first = records.length) : last = 0 := by
  rcases List.eq_nil_or_concat before with rfl | ⟨earlier, turn, hbefore⟩
  · exact hleads.symm
  · rw [List.concat_eq_append] at hbefore
    subst hbefore
    obtain ⟨_, -, -, hnext⟩ := leads_append.1 hleads
    have hturn := hrestart turn (by simp)
    rw [← hnext, ((hanswers turn (by simp)).restart hturn).2]

theorem laps_of_leads {last : Nat} {turns : List Turn} (hleads : Leads 0 turns last)
    (hanswers : ∀ turn ∈ turns, turn.Answers records) : Laps records turns := by
  rintro before lap reset after rfl hbefore hlap hreset
  obtain ⟨start, hstart, hrest⟩ := leads_append.1 hleads
  obtain ⟨stop, hmiddle, hstop, -⟩ := leads_append.1 hrest
  have hzero := eq_zero_of_leads hstart (fun turn ht => hanswers turn (by simp [ht])) hbefore
  have hrows := (rows_of_leads hmiddle (fun turn ht => hanswers turn (by simp [ht])) hlap).2
  rw [hrows, hzero, ← hstop, hreset, Nat.sub_zero, List.range_eq_range']

/-- Paging neither loses nor repeats rows. -/
theorem reads_ofRecords (name : String) {records : List Record} {requests : List Request}
    (hkeys : ∃ record ∈ records, record ≠ [])
    (hfits : (ofRecords name records).fits requests = true) :
    ∃ turns last, (ofRecords name records).reads requests = some (turns, last) ∧
      turns.map Turn.request = requests ∧ (∀ turn ∈ turns, turn.Answers records) ∧
      last.cursor ≤ records.length ∧ Laps records turns := by
  obtain ⟨record, hr, hkey⟩ := hkeys
  have hcolumns := @columns_ne_nil name records record hr hkey
  obtain ⟨turns, last, hreads, hrequests, hanswers, hleads, hlast⟩ :=
    @reads_answers name records hcolumns requests 0 (Nat.zero_le _) hfits
  exact ⟨turns, _, hreads, hrequests, hanswers, hlast, laps_of_leads hleads hanswers⟩

def visits : List Record :=
  [[("name", .str "Ann")], [("name", .str "Bob"), ("town", .str "Oslo")], [("town", .str "Lima")]]

def visitRequests : List Request :=
  [⟨["name"], 2⟩, ⟨[], 0⟩, ⟨["town", "id"], 5⟩, ⟨["name"], 1⟩, ⟨[], 3⟩, ⟨["name"], 1⟩]

theorem reads_ofRecords_visits :
    (∃ record ∈ visits, record ≠ []) ∧ (ofRecords "visits" visits).fits visitRequests = true ∧
    ∃ turns last, (ofRecords "visits" visits).reads visitRequests = some (turns, last) ∧
      turns.map Turn.request = visitRequests ∧ (∀ turn ∈ turns, turn.Answers visits) ∧
      last.cursor ≤ visits.length ∧ Laps visits turns := by
  have hkeys : ∃ record ∈ visits, record ≠ [] := ⟨_, List.mem_cons_self, by simp⟩
  have hfits : (ofRecords "visits" visits).fits visitRequests = true := by decide +kernel
  exact ⟨hkeys, hfits, reads_ofRecords "visits" hkeys hfits⟩

example : ((ofRecords "visits" visits).reads visitRequests).map (·.1.map Turn.rows) =
    some [[0, 1], [], [2], [], [0, 1, 2], []] := by decide +kernel

end Memory

end FluentQuery
