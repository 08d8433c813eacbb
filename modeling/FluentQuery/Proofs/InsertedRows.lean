import FluentQuery.Insert
import Mathlib.Data.List.Forall2
import Mathlib.Data.List.Induction
import Mathlib.Data.List.Nodup

/-!
Insert statements after any history of records. Main statement: only the records of the last step
count. Every row has a literal for each column; where no record has a column twice, that is the
literal of the record's own value for the column, so that a record after the first may give its
values in any order and others besides.
-/
namespace FluentQuery

namespace Row

/-- The literal of a record's value for a column, `NULL` where it lacks the column. -/
def literalAt (row : Row) (column : String) : String :=
  ((Assoc.get? column row).map Value.literal).getD "NULL"

/-- The other record has the values of this one, in any order, and beyond them only values for
columns that are not among these. -/
def Widens (columns : List String) (row other : Row) : Prop :=
  ∃ extra : Row, other.Perm (row ++ extra) ∧ ∀ entry ∈ extra, entry.1 ∉ columns

variable {row other : Row} {columns : List String} {column : String}

theorem last?_eq_some_iff (h : (Assoc.keys row).Nodup) {value : Value} :
    row.last? column = some value ↔ (column, value) ∈ row := by
  have hreverse : (Assoc.keys row.reverse).Nodup := by
    rw [Assoc.keys, List.map_reverse]
    exact List.nodup_reverse.2 h
  rw [last?, Assoc.get?_eq_some_iff hreverse, List.mem_reverse]

theorem last?_eq_get? (h : (Assoc.keys row).Nodup) :
    row.last? column = Assoc.get? column row := by
  ext value
  rw [last?_eq_some_iff h, Assoc.get?_eq_some_iff h]

theorem last?_of_widens (h : Widens columns row other) (hnodup : (Assoc.keys other).Nodup)
    (hcolumn : column ∈ columns) : row.last? column = other.last? column := by
  obtain ⟨extra, hperm, hextra⟩ := h
  have hrow : (Assoc.keys row).Nodup := by
    have hboth := (hperm.map Prod.fst).nodup_iff.1 hnodup
    rw [List.map_append] at hboth
    exact hboth.of_append_left
  ext value
  have hlacks : (column, value) ∉ extra := fun hm => hextra _ hm hcolumn
  rw [last?_eq_some_iff hrow, last?_eq_some_iff hnodup, hperm.mem_iff, List.mem_append]
  simp [hlacks]

end Row

namespace Insert

inductive Step where
  | values (row : Row)
  | valuesMany (rows : List Row)
deriving Repr

def Step.records : Step → List Row
  | values row => [row]
  | valuesMany rows => rows

def step (insert : Insert) : Step → Insert
  | .values row => insert.values row
  | .valuesMany rows => insert.valuesMany rows

def after (insert : Insert) (steps : List Step) : Insert := steps.foldl step insert

def given (steps : List Step) : List Row := (steps.getLast?.map Step.records).getD []

def text (table : String) (columns : List String) (literals : List (List String)) : String :=
  "INSERT INTO " ++ table ++ " (" ++ ", ".intercalate columns ++ ") VALUES " ++
    ", ".intercalate (literals.map fun group => "(" ++ ", ".intercalate group ++ ")")

variable {insert : Insert} {table : String} {first : Row} {rest : List Row}

theorem step_eq (insert : Insert) (s : Step) : insert.step s = insert.valuesMany s.records := by
  cases s <;> rfl

theorem valuesMany_valuesMany (insert : Insert) (rows others : List Row) :
    (insert.valuesMany others).valuesMany rows = insert.valuesMany rows := by
  cases rows <;> cases others <;> rfl

/-- Of a history only the records of its last step are left. -/
theorem after_eq (table : String) (steps : List Step) :
    (into table).after steps = (into table).valuesMany (given steps) := by
  -- by the last step, which replaces whatever the steps before it left
  induction steps using List.reverseRecOn with
  | nil => rfl
  | append_singleton steps s ih =>
    have hafter : (into table).after (steps ++ [s]) = ((into table).after steps).step s := by
      simp [after]
    have hgiven : given (steps ++ [s]) = s.records := by simp [given]
    rw [hafter, hgiven, step_eq, ih, valuesMany_valuesMany]

theorem length_of_mem_rows {rows : List Row} {cells : List Value}
    (h : cells ∈ (insert.valuesMany rows).rows) :
    cells.length = (insert.valuesMany rows).columns.length := by
  cases rows with
  | nil => simp [valuesMany] at h
  | cons first rest =>
    simp only [valuesMany, List.mem_cons, List.mem_map] at h ⊢
    rcases h with rfl | ⟨row, -, rfl⟩
    · simp
    · simp [aligned]

theorem sql_valuesMany_eq_error_iff {rows : List Row} {e : Error} :
    (insert.valuesMany rows).sql = .error e ↔
      e = .emptyInsert ∧ ∀ first ∈ rows.head?, first = [] := by
  match rows with
  | [] => simp [sql, valuesMany, eq_comm]
  | [] :: rest => simp [sql, valuesMany, eq_comm]
  | (entry :: row) :: rest => simp [sql, valuesMany]

theorem aligned_of_widens {columns : List String} {row other : Row}
    (h : Row.Widens columns row other) (hnodup : (Assoc.keys other).Nodup) :
    aligned columns row = aligned columns other := by
  apply List.map_congr_left
  intro column hcolumn
  rw [Row.last?_of_widens h hnodup hcolumn]

/-- Values in another order, and values for columns that the first record lacks, make no
difference. -/
theorem valuesMany_of_widens {others : List Row}
    (h : List.Forall₂ (Row.Widens (Assoc.keys first)) rest others)
    (hnodup : ∀ other ∈ others, (Assoc.keys other).Nodup) :
    insert.valuesMany (first :: rest) = insert.valuesMany (first :: others) := by
  have haligned : rest.map (aligned (Assoc.keys first)) = others.map (aligned (Assoc.keys first)) := by
    induction h with
    | nil => rfl
    | cons hrow _ ih =>
      obtain ⟨hother, hothers⟩ := List.forall_mem_cons.1 hnodup
      rw [List.map_cons, List.map_cons, aligned_of_widens hrow hother, ih hothers]
  simp only [valuesMany]
  rw [show first.map Prod.fst = Assoc.keys first from rfl, haligned]

theorem literals_aligned {row : Row} (h : (Assoc.keys row).Nodup) (columns : List String) :
    (aligned columns row).map Value.literal = columns.map row.literalAt := by
  rw [aligned, List.map_map]
  apply List.map_congr_left
  intro column _
  rw [Function.comp_apply, Row.last?_eq_get? h, Row.literalAt]
  cases Assoc.get? column row <;> rfl

/-- The first record stands in its own order, in which its names find its values. -/
theorem literals_first (h : (Assoc.keys first).Nodup) :
    (first.map Prod.snd).map Value.literal = (Assoc.keys first).map first.literalAt := by
  rw [Assoc.keys, List.map_map, List.map_map]
  apply List.map_congr_left
  intro entry hentry
  have hget : Assoc.get? entry.1 first = some entry.2 := (Assoc.get?_eq_some_iff h).2 hentry
  simp [Row.literalAt, hget]

theorem sql_eq_text (hcolumns : insert.columns ≠ []) (hrows : insert.rows ≠ []) :
    insert.sql = .ok (text insert.table insert.columns
      (insert.rows.map fun cells => cells.map Value.literal)) := by
  have hsome : ¬ (insert.columns.isEmpty || insert.rows.isEmpty) = true := by simp [hcolumns, hrows]
  delta text
  rw [sql, if_neg hsome, List.map_map]
  rfl

theorem eq_text_of_sql {statement : String} (h : insert.sql = .ok statement) :
    statement = text insert.table insert.columns
      (insert.rows.map fun cells => cells.map Value.literal) := by
  have hcolumns : insert.columns ≠ [] := by
    intro he
    simp [sql, he] at h
  have hrows : insert.rows ≠ [] := by
    intro he
    simp [sql, he] at h
  rw [sql_eq_text hcolumns hrows] at h
  exact (Except.ok.inj h).symm

theorem table_valuesMany (insert : Insert) (rows : List Row) :
    (insert.valuesMany rows).table = insert.table := by
  cases rows <;> rfl

theorem sql_valuesMany (hfirst : first ≠ [])
    (hnodup : ∀ row ∈ first :: rest, (Assoc.keys row).Nodup) :
    ((into table).valuesMany (first :: rest)).sql = .ok (text table (Assoc.keys first)
      ((first :: rest).map fun row => (Assoc.keys first).map row.literalAt)) := by
  obtain ⟨hhead, hrest⟩ := List.forall_mem_cons.1 hnodup
  have hliterals : (first.map Prod.snd :: rest.map (aligned (Assoc.keys first))).map
      (fun cells => cells.map Value.literal) =
      (first :: rest).map fun row => (Assoc.keys first).map row.literalAt := by
    rw [List.map_cons, List.map_cons, literals_first hhead, List.map_map, List.cons_inj_right]
    exact List.map_congr_left fun row hr => literals_aligned (hrest row hr) _
  have hcolumns : ((into table).valuesMany (first :: rest)).columns ≠ [] := by
    simpa [valuesMany] using hfirst
  have hrows : ((into table).valuesMany (first :: rest)).rows ≠ [] := List.cons_ne_nil _ _
  rw [← hliterals]
  exact sql_eq_text hcolumns hrows

theorem sql_after_snoc {last other : Step} (h : last.records = other.records)
    (steps others : List Step) :
    ((into table).after (steps ++ [last])).sql = ((into table).after (others ++ [other])).sql := by
  rw [after_eq, after_eq]
  simp [given, h]

/-- Statements after any history. -/
theorem sql_after (table : String) (steps : List Step) :
    let insert := (into table).after steps
    (∀ others last, ((into table).after (steps ++ [last])).sql =
      ((into table).after (others ++ [last])).sql) ∧
    (∀ others row, ((into table).after (steps ++ [.valuesMany [row]])).sql =
      ((into table).after (others ++ [.values row])).sql) ∧
    (∀ e, insert.sql = .error e ↔
      e = .emptyInsert ∧ ∀ first ∈ (given steps).head?, first = []) ∧
    Error.emptyInsert.kind = .validation ∧
    (∀ statement, insert.sql = .ok statement → statement = text table insert.columns
      (insert.rows.map fun cells => cells.map Value.literal)) ∧
    (∀ cells ∈ insert.rows, cells.length = insert.columns.length) ∧
    ∀ first rest, given steps = first :: rest → first ≠ [] →
      (∀ row ∈ first :: rest, (Assoc.keys row).Nodup) →
      insert.sql = .ok (text table (Assoc.keys first)
        ((first :: rest).map fun row => (Assoc.keys first).map row.literalAt)) ∧
      ∀ others wider, given others = first :: wider →
        List.Forall₂ (Row.Widens (Assoc.keys first)) rest wider →
        (∀ row ∈ wider, (Assoc.keys row).Nodup) → ((into table).after others).sql = insert.sql := by
  intro insert
  have hinsert : insert = (into table).valuesMany (given steps) := after_eq table steps
  refine ⟨fun others last => sql_after_snoc rfl steps others,
    fun others row => sql_after_snoc (by rfl) steps others, fun e => ?_, rfl, fun statement h => ?_,
    fun cells h => ?_, fun first rest hgiven hfirst hnodup => ⟨?_, ?_⟩⟩
  · rw [hinsert, sql_valuesMany_eq_error_iff]
  · have htable : insert.table = table := by rw [hinsert, table_valuesMany]; rfl
    rw [eq_text_of_sql h, htable]
  · rw [hinsert] at h ⊢
    exact length_of_mem_rows h
  · rw [hinsert, hgiven, sql_valuesMany hfirst hnodup]
  · intro others wider hothers hwider hdistinct
    rw [hinsert, after_eq, hothers, hgiven, valuesMany_of_widens hwider hdistinct]

/-- The second record has its values in another order and one value more, the third lacks one. -/
theorem sql_after_users :
    let john : Row := [("name", .string "John"), ("age", .int64 30)]
    let jane : Row := [("name", .string "Jane"), ("age", .int64 25)]
    let other : Row := [("age", .int64 25), ("town", .string "Oslo"), ("name", .string "Jane")]
    let bob : Row := [("name", .string "Bob")]
    let steps : List Step := [.values bob, .valuesMany [john, jane, bob]]
    let statement := "INSERT INTO users (name, age) VALUES ('John', 30), ('Jane', 25), ('Bob', NULL)"
    given steps = [john, jane, bob] ∧ john ≠ [] ∧
      (∀ row ∈ [john, jane, bob], (Assoc.keys row).Nodup) ∧
      List.Forall₂ (Row.Widens (Assoc.keys john)) [jane, bob] [other, bob] ∧
      ((into "users").after steps).sql = .ok statement ∧
      ((into "users").after [.valuesMany [john, other, bob]]).sql = .ok statement := by
  intro john jane other bob steps statement
  have hnodup : ∀ row ∈ [john, jane, bob], (Assoc.keys row).Nodup := by decide
  have hdistinct : ∀ row ∈ [other, bob], (Assoc.keys row).Nodup := by decide
  have hother : Row.Widens (Assoc.keys john) jane other :=
    ⟨[("town", .string "Oslo")], List.perm_append_singleton _ [_, _], by decide⟩
  have hbob : Row.Widens (Assoc.keys john) bob bob := ⟨[], .refl _, by simp⟩
  have hwider : List.Forall₂ (Row.Widens (Assoc.keys john)) [jane, bob] [other, bob] :=
    .cons hother (.cons hbob .nil)
  obtain ⟨-, -, -, -, -, -, hmany⟩ := sql_after "users" steps
  obtain ⟨hsql, hothers⟩ := hmany john [jane, bob] rfl (List.cons_ne_nil _ _) hnodup
  have hstatement : ((into "users").after steps).sql = .ok statement := by
    rw [hsql]
    decide +kernel
  refine ⟨rfl, List.cons_ne_nil _ _, hnodup, hwider, hstatement, ?_⟩
  rw [hothers [.valuesMany [john, other, bob]] [other, bob] rfl hwider hdistinct, hstatement]

end Insert

end FluentQuery
