import FluentQuery.Text.Blank
import FluentQuery.Text.Scan

/-!
Lists of field names. A text holds them between commas; a list holds them one by one, and its
entries are not split. Either way they are trimmed, and empty ones are dropped.
-/
namespace FluentQuery.FieldList

/-- The entries, trimmed, without those that trimming leaves empty. -/
def ofList (entries : List String) : List String :=
  (entries.map Text.trim).filter (· ≠ "")

def ofText (s : String) : List String :=
  ofList ((Text.splitAll ',' s.toList).map String.ofList)

variable {field : String} {entries : List String}

theorem ne_empty_of_mem_ofList (h : field ∈ ofList entries) : field ≠ "" := by
  simpa using (List.mem_filter.1 h).2

theorem isTrimmed_of_mem_ofList (h : field ∈ ofList entries) : Text.IsTrimmed field.toList := by
  obtain ⟨entry, -, rfl⟩ := List.mem_map.1 (List.mem_filter.1 h).1
  rw [Text.toList_trim]
  exact Text.isTrimmed_trimmed entry.toList

theorem ofList_eq_map (entries : List String) :
    ofList entries = (entries.filter fun entry => !Text.blank entry).map Text.trim := by
  have hblank : ((fun field => decide (field ≠ "")) ∘ Text.trim) =
      fun entry => !Text.blank entry := by
    funext entry
    cases hb : Text.blank entry with
    | true => simp [Text.trim_eq_empty_iff.2 hb]
    | false => simp [Text.trim_eq_empty_iff, hb]
  rw [ofList, List.filter_map, hblank]

theorem ofList_eq_self (h : ∀ entry ∈ entries, entry ≠ "" ∧ Text.IsTrimmed entry.toList) :
    ofList entries = entries := by
  have htrim : entries.map Text.trim = entries :=
    (List.map_congr_left fun entry he => Text.trim_eq_self (h entry he).2).trans (List.map_id _)
  rw [ofList, htrim]
  exact List.filter_eq_self.2 fun entry he => by simpa using (h entry he).1

@[simp] theorem ofList_ofList (entries : List String) : ofList (ofList entries) = ofList entries :=
  ofList_eq_self fun _ h => ⟨ne_empty_of_mem_ofList h, isTrimmed_of_mem_ofList h⟩

end FluentQuery.FieldList
