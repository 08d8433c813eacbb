import FluentQuery.Proofs.Calls
import FluentQuery.Vector.Model

/-!
The two forms of a field list. Main statement: entries without a comma name the same fields one by
one as in one text; the fields are the entries that are not blank, trimmed and in their order, and
either form of these fields names them again.
-/
namespace FluentQuery

theorem Text.trim_blank_append (s : String) : Text.trim (" " ++ s) = Text.trim s := by
  have hfront := @Text.trimmed_append [' '] [] (List.forall_mem_singleton.2 rfl) nofun s.toList
  rw [List.append_nil] at hfront
  rw [Text.trim, String.toList_append, Text.trim]
  exact congrArg String.ofList hfront

namespace FieldList

variable {entries : List String}

/-- Entries without a comma name the same fields in one text as one by one. -/
theorem ofText_intercalate (h : ∀ entry ∈ entries, ',' ∉ entry.toList) :
    ofText (",".intercalate entries) = ofList entries := by
  by_cases hne : entries = []
  · rw [hne]
    rfl
  · have hpieces : Text.splitAll ',' (",".intercalate entries).toList =
        entries.map String.toList := by
      rw [String.toList_intercalate]
      exact Text.splitAll_intercalate (by simpa using hne) (by simpa using h)
    rw [ofText, hpieces, List.map_map]
    simp [Function.comp_def]

theorem intercalate_blank (first : String) (others : List String) :
    ", ".intercalate (first :: others) = ",".intercalate (first :: others.map (" " ++ ·)) := by
  induction others generalizing first with
  | nil => simp
  | cons next others ih =>
    have hblank : ",".intercalate ((" " ++ next) :: others.map (" " ++ ·)) =
        " " ++ ",".intercalate (next :: others.map (" " ++ ·)) := by
      cases others <;> simp [String.append_assoc]
    rw [String.intercalate_cons_cons, ih, List.map_cons, String.intercalate_cons_cons, hblank,
      ← String.toList_inj]
    simp

/-- So they do where a blank stands after each comma. -/
theorem ofText_intercalate_blank (h : ∀ entry ∈ entries, ',' ∉ entry.toList) :
    ofText (", ".intercalate entries) = ofList entries := by
  cases entries with
  | nil => rfl
  | cons first others =>
    have hblanks : ∀ entry ∈ first :: others.map (" " ++ ·), ',' ∉ entry.toList := by
      simpa using h
    rw [intercalate_blank, ofText_intercalate hblanks, ofList, ofList]
    simp [Function.comp_def, Text.trim_blank_append]

end FieldList

namespace Selection

/-- The entries as they are given: one by one, or between the commas of a text. -/
def entries : Selection → List String
  | text s => (Text.splitAll ',' s.toList).map String.ofList
  | list entries => entries

theorem fields_eq (selection : Selection) :
    selection.fields = FieldList.ofList selection.entries := by
  cases selection <;> rfl

theorem not_mem_entries_text (s : String) : ∀ entry ∈ (text s).entries, ',' ∉ entry.toList := by
  intro entry hentry
  obtain ⟨piece, hpiece, rfl⟩ := List.mem_map.1 hentry
  rw [String.toList_ofList]
  exact Text.not_mem_of_mem_splitAll hpiece

theorem intercalate_entries_text (s : String) : ",".intercalate (text s).entries = s := by
  rw [← String.toList_inj, String.toList_intercalate, entries, List.map_map]
  simp only [Function.comp_def, String.toList_ofList, List.map_id']
  exact Text.intercalate_splitAll ',' s.toList

/-- The two forms of a field list. Entries without a comma name the same fields in a text as in a
list, and so give the same selection of a plan and the same order of a table; every text has such
entries. The fields are the entries that are not blank, trimmed and in their order; they are named
again by a list of them and, if they have no comma, by a text. -/
theorem fields_text_eq_list {entries : List String} (h : ∀ entry ∈ entries, ',' ∉ entry.toList) :
    ((text (",".intercalate entries)).fields = (list entries).fields ∧
      (∀ plan : Plan, plan.call (.select (text (",".intercalate entries))) =
        plan.call (.select (list entries))) ∧
      ∀ model : Vector.Model,
        { model with orderBy := (text (",".intercalate entries)).fields }.createSql =
          { model with orderBy := (list entries).fields }.createSql) ∧
    (∀ s : String, (∀ entry ∈ (text s).entries, ',' ∉ entry.toList) ∧
      ",".intercalate (text s).entries = s) ∧
    ∀ selection : Selection,
      selection.fields =
        (selection.entries.filter fun entry => !Text.blank entry).map Text.trim ∧
      (∀ field ∈ selection.fields, field ≠ "" ∧ Text.IsTrimmed field.toList) ∧
      (list selection.fields).fields = selection.fields ∧
      ((∀ field ∈ selection.fields, ',' ∉ field.toList) →
        (text (", ".intercalate selection.fields)).fields = selection.fields) := by
  have hforms : (text (",".intercalate entries)).fields = (list entries).fields :=
    FieldList.ofText_intercalate h
  refine ⟨⟨hforms, fun plan => ?_, fun model => ?_⟩,
    fun s => ⟨not_mem_entries_text s, intercalate_entries_text s⟩, fun selection => ?_⟩
  · rw [Plan.call, hforms, Plan.call]
  · rw [hforms]
  · have hagain : FieldList.ofList selection.fields = selection.fields := by
      rw [fields_eq, FieldList.ofList_ofList]
    refine ⟨?_, fun field hfield => ?_, hagain, fun hcomma => ?_⟩
    · rw [fields_eq, FieldList.ofList_eq_map]
    · rw [fields_eq] at hfield
      exact ⟨FieldList.ne_empty_of_mem_ofList hfield, FieldList.isTrimmed_of_mem_ofList hfield⟩
    · exact (FieldList.ofText_intercalate_blank hcomma).trans hagain

/-- Entries with blanks around them, one of no character and one of a blank beyond ASCII. -/
theorem fields_text_eq_list_blanks :
    let entries := [" id", "name\t", "", "\u2003"]
    (∀ entry ∈ entries, ',' ∉ entry.toList) ∧
      (text " id,name\t,,\u2003").fields = (list entries).fields ∧
      (list entries).fields = ["id", "name"] ∧
      (text "id, name").fields = ["id", "name"] := by
  intro entries
  have hentries : ∀ entry ∈ entries, ',' ∉ entry.toList := by decide
  obtain ⟨⟨hforms, -⟩, -, hagain⟩ := fields_text_eq_list hentries
  have hfields : (list entries).fields = ["id", "name"] := by decide
  obtain ⟨-, -, -, htext⟩ := hagain (list entries)
  rw [hfields] at htext
  exact ⟨hentries, hforms, hfields, htext (by decide)⟩

end Selection

end FluentQuery
