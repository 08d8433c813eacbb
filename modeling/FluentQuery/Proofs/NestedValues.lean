import FluentQuery.Insert

/-!
Values inside arrays, and what is written for them in an insertion. Main statement: the text around
the literal of such a value is the same whatever the value is, at every depth and in every row.
-/
namespace FluentQuery

/-- Texts that hold other ones, with the same text in front and the same text behind each time. -/
def Encloses {α : Type} (whole part : α → String) : Prop :=
  ∃ front back, ∀ a, whole a = front ++ part a ++ back

namespace Encloses

variable {α : Type} {whole part inner : α → String}

theorem refl (part : α → String) : Encloses part part :=
  ⟨"", "", fun a => by rw [String.empty_append, String.append_empty]⟩

theorem append (front back : String) : Encloses (fun a => front ++ part a ++ back) part :=
  ⟨front, back, fun _ => rfl⟩

theorem prepend (front : String) : Encloses (fun a => front ++ part a) part :=
  ⟨front, "", fun _ => String.append_empty.symm⟩

theorem trans (h : Encloses whole part) (hpart : Encloses part inner) : Encloses whole inner := by
  obtain ⟨front, back, hwhole⟩ := h
  obtain ⟨front', back', hinner⟩ := hpart
  refine ⟨front ++ front', back' ++ back, fun a => ?_⟩
  rw [hwhole, hinner]
  simp only [String.append_assoc]

theorem intercalate (separator : String) (before after : List String) :
    Encloses (fun a => separator.intercalate (before ++ part a :: after)) part := by
  induction before with
  | nil =>
    cases after with
    | nil => simpa using refl part
    | cons next after =>
      refine ⟨"", separator ++ separator.intercalate (next :: after), fun a => ?_⟩
      simp only [List.nil_append, String.intercalate_cons_cons, String.empty_append,
        String.append_assoc]
  | cons first before ih =>
    obtain ⟨front, back, hrest⟩ := ih
    refine ⟨first ++ separator ++ front, back, fun a => ?_⟩
    have hne : before ++ part a :: after ≠ [] := by simp
    calc separator.intercalate (first :: (before ++ part a :: after))
        = first ++ separator ++ separator.intercalate (before ++ part a :: after) :=
          String.intercalate_cons_of_ne_nil hne
      _ = first ++ separator ++ (front ++ part a ++ back) := congrArg _ (hrest a)
      _ = first ++ separator ++ front ++ part a ++ back := by simp only [String.append_assoc]

end Encloses

namespace Json

/-- Arrays inside one another, the outermost first: the items before and after the one that goes
on. -/
abbrev Nesting := List (List Json × List Json)

/-- The arrays with a value in the innermost of them. -/
def within (v : Json) : Nesting → Json
  | [] => v
  | (before, after) :: nesting => .arr (before ++ v.within nesting :: after)

end Json

namespace Value

theorem literal_ofJson_arr (items : List Json) : (ofJson (.arr items)).literal =
    "[" ++ ",".intercalate (items.map fun item => (ofJson item).literal) ++ "]" := by
  rw [ofJson, literal, literals_eq_map, ofJsons_eq_map, List.map_map]
  rfl

theorem encloses_within (nesting : Json.Nesting) :
    Encloses (fun v => (ofJson (v.within nesting)).literal) fun v => (ofJson v).literal := by
  induction nesting with
  | nil => exact Encloses.refl _
  | cons step nesting ih =>
    obtain ⟨before, after⟩ := step
    simp only [Json.within, literal_ofJson_arr, List.map_append, List.map_cons]
    exact (Encloses.append "[" "]").trans ((Encloses.intercalate "," _ _).trans ih)

end Value

namespace Insert

/-- A place for a JSON value in an insertion: a cell of one of the rows, or within arrays in that
cell. -/
structure Place where
  table : String
  columns : List String
  above : List (List Value)
  left : List Value
  nesting : Json.Nesting
  right : List Value
  below : List (List Value)
  columns_ne_nil : columns ≠ []

namespace Place

def row (place : Place) (v : Json) : List Value :=
  place.left ++ Value.ofJson (v.within place.nesting) :: place.right

def filled (place : Place) (v : Json) : Insert :=
  ⟨place.table, place.columns, place.above ++ place.row v :: place.below⟩

def ofRecord (table : String) (before : Record) (column : String) (nesting : Json.Nesting)
    (after : Record) : Place where
  table := table
  columns := before.map Prod.fst ++ column :: after.map Prod.fst
  above := []
  left := before.map fun e => Value.ofJson e.2
  nesting := nesting
  right := after.map fun e => Value.ofJson e.2
  below := []
  columns_ne_nil := by simp

theorem filled_ofRecord (table : String) (before : Record) (column : String)
    (nesting : Json.Nesting) (after : Record) (v : Json) :
    (ofRecord table before column nesting after).filled v =
      (into table).values (Row.ofRecord (before ++ (column, v.within nesting) :: after)) := by
  simp [ofRecord, filled, row, values, into, Row.ofRecord, Function.comp_def]

def group (cells : List Value) : String := "(" ++ ", ".intercalate (cells.map Value.literal) ++ ")"

theorem encloses_group (place : Place) :
    Encloses (fun v => group (place.row v)) fun v => (Value.ofJson v).literal := by
  simp only [group, row, List.map_append, List.map_cons]
  exact (Encloses.append "(" ")").trans
    ((Encloses.intercalate ", " _ _).trans (Value.encloses_within place.nesting))

def text (place : Place) (v : Json) : String :=
  "INSERT INTO " ++ place.table ++ " (" ++ ", ".intercalate place.columns ++ ") VALUES " ++
    ", ".intercalate (place.above.map group ++ group (place.row v) :: place.below.map group)

theorem sql_filled (place : Place) (v : Json) : (place.filled v).sql = .ok (place.text v) := by
  have hcolumns : place.columns.isEmpty = false :=
    List.isEmpty_eq_false_iff.2 place.columns_ne_nil
  have hrows : (place.above ++ place.row v :: place.below).isEmpty = false := by simp
  simp only [sql, filled, hcolumns, hrows, Bool.or_self, Bool.false_eq_true, if_false,
    List.map_append, List.map_cons]
  rfl

theorem encloses_text (place : Place) :
    Encloses place.text fun v => (Value.ofJson v).literal := by
  have hgroups := (Encloses.intercalate ", " (place.above.map group)
    (place.below.map group)).trans place.encloses_group
  exact (Encloses.prepend _).trans hgroups

end Place

end Insert

end FluentQuery
