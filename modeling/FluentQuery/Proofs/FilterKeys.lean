import FluentQuery.Assoc
import FluentQuery.Vector.Search
import Mathlib.Data.List.Infix

/-!
Keys of conditions: a field, two underscores and the name of an operator. Main statement: where the
field has no two underscores in a row, the key is read as it is meant just if the field does not end
with an underscore, which would be taken for the first of the two.
-/
namespace FluentQuery

namespace Text

variable {separator before after cs : List Char}

theorem splitFirst_append (hne : separator ≠ []) (after : List Char) :
    splitFirst separator (separator ++ after) = some ([], after) := by
  obtain ⟨s, separator, rfl⟩ := List.exists_cons_of_ne_nil hne
  have hlead := afterLead_append (s :: separator) after
  rw [List.cons_append] at hlead ⊢
  rw [splitFirst, hlead]

theorem splitFirst_cons {c : Char} (h : ¬ separator <+: c :: cs) :
    splitFirst separator (c :: cs) =
      (splitFirst separator cs).map fun (before, after) => (c :: before, after) := by
  have hlead : afterLead separator (c :: cs) = none := by
    refine Option.eq_none_iff_forall_not_mem.2 fun rest hrest => h ⟨rest, ?_⟩
    exact (afterLead_eq_some_iff.1 hrest).symm
  rw [splitFirst, hlead]

/-- A text is split at a separator that does not end any later than its other occurrences do. -/
theorem splitFirst_of_first (hne : separator ≠ [])
    (hfirst : ¬ separator <:+: before ++ separator.dropLast) (after : List Char) :
    splitFirst separator (before ++ (separator ++ after)) = some (before, after) := by
  induction before with
  | nil => exact splitFirst_append hne after
  | cons c before ih =>
    have hsplit : separator ++ after = separator.dropLast ++ separator.getLast hne :: after := by
      rw [← List.singleton_append, ← List.append_assoc, List.dropLast_append_getLast]
    have hfront : ¬ separator <+: c :: (before ++ (separator ++ after)) := by
      intro hlead
      have hwhole : c :: (before ++ separator.dropLast) <+: c :: (before ++ (separator ++ after)) :=
        ⟨separator.getLast hne :: after, by simp [hsplit]⟩
      have hlength : separator.length ≤ (c :: (before ++ separator.dropLast)).length := by
        simp only [List.length_cons, List.length_append, List.length_dropLast]
        omega
      exact hfirst (List.prefix_of_prefix_length_le hlead hwhole hlength).isInfix
    have hrest : ¬ separator <:+: before ++ separator.dropLast :=
      fun hinside => hfirst (hinside.trans (List.suffix_cons c _).isInfix)
    rw [List.cons_append, splitFirst_cons hfront, ih hrest]
    rfl

theorem splitFirst_eq_none (h : ¬ separator <:+: cs) : splitFirst separator cs = none := by
  induction cs with
  | nil =>
    have hlead : afterLead separator [] = none := by
      refine Option.eq_none_iff_forall_not_mem.2 fun rest hrest => h ?_
      rw [afterLead_eq_some_iff.1 hrest]
      exact (List.prefix_append separator rest).isInfix
    rw [splitFirst, hlead, Option.map_none]
  | cons c cs ih =>
    rw [splitFirst_cons fun hlead => h hlead.isInfix,
      ih fun hinside => h (hinside.trans (List.suffix_cons c cs).isInfix), Option.map_none]

end Text

namespace Operator

def lookups : List (String × String) :=
  [("eq", "="), ("ne", "!="), ("gt", ">"), ("gte", ">="), ("lt", "<"), ("lte", "<=")]

theorem text_ofSuffix? (suffix : String) :
    (ofSuffix? suffix).map text = Assoc.get? suffix lookups := by
  unfold ofSuffix?
  split
  case h_7 heq hne hgt hgte hlt hlte =>
    have hnew : suffix ∉ Assoc.keys lookups := by
      simpa [Assoc.keys, lookups] using ⟨heq, hne, hgt, hgte, hlt, hlte⟩
    rw [Assoc.get?_of_not_mem hnew, Option.map_none]
  all_goals rfl

end Operator

namespace Vector.Search

variable {field suffix : String}

theorem filter_of_split {key : String}
    (h : Text.splitFirst ['_', '_'] key.toList = some (field.toList, suffix.toList))
    (search : Search) (value : Value) :
    search.filter key value = match Assoc.get? suffix Operator.lookups with
      | some operator => .ok { search with
          filters := search.filters ++ [field ++ " " ++ operator ++ " " ++ value.literal] }
      | none => .error (.unknownFilterOperator suffix) := by
  rw [filter, splitKey, h, ← Operator.text_ofSuffix?]
  simp only [String.ofList_toList]
  cases Operator.ofSuffix? suffix <;> rfl

theorem filter_of_plain {key : String} (h : ¬ ['_', '_'] <:+: key.toList) (search : Search)
    (value : Value) :
    search.filter key value =
      .ok { search with filters := search.filters ++ [key ++ " = " ++ value.literal] } := by
  have hcondition : key ++ " = " ++ value.literal =
      key ++ " " ++ Operator.eq.text ++ " " ++ value.literal := by
    simp [← String.toList_inj, Operator.eq]
  rw [filter, splitKey, Text.splitFirst_eq_none h, hcondition]
  rfl

/-- An underscore at the end of the field goes to the separator, and the second of the separator to
the suffix. -/
theorem split_key (h : ¬ ['_', '_'] <:+: field.toList) (suffix : String) :
    (¬ ['_'] <:+ field.toList → Text.splitFirst ['_', '_'] (field ++ "__" ++ suffix).toList =
      some (field.toList, suffix.toList)) ∧
    (['_'] <:+ field.toList → ∃ front : String, field = front ++ "_" ∧
      Text.splitFirst ['_', '_'] (field ++ "__" ++ suffix).toList =
        some (front.toList, ("_" ++ suffix).toList)) := by
  have hne : ['_', '_'] ≠ [] := List.cons_ne_nil _ _
  constructor
  · intro hend
    have hfirst : ¬ ['_', '_'] <:+: field.toList ++ ['_', '_'].dropLast := by
      rw [show ['_', '_'].dropLast = ['_'] from rfl, List.infix_concat_iff, not_or]
      refine ⟨fun hsuffix => hend ?_, h⟩
      have hboth : ['_'] ++ ['_'] <:+ field.toList ++ ['_'] := hsuffix
      exact ((List.suffix_append_inj_of_length_eq rfl).1 hboth).1
    have hsplit := Text.splitFirst_of_first hne hfirst suffix.toList
    simpa using hsplit
  · rintro ⟨front, hfront⟩
    refine ⟨String.ofList front, ?_, ?_⟩
    · simp [← String.toList_inj, hfront]
    · rw [← hfront] at h
      have hsplit := Text.splitFirst_of_first hne h ('_' :: suffix.toList)
      simpa [← hfront] using hsplit

theorem filter_of_underscore (h : ¬ ['_', '_'] <:+: field.toList) (hend : ['_'] <:+ field.toList)
    (search : Search) (suffix : String) (value : Value) :
    search.filter (field ++ "__" ++ suffix) value =
      .error (.unknownFilterOperator ("_" ++ suffix)) := by
  obtain ⟨front, -, hsplit⟩ := (split_key h suffix).2 hend
  have hnone : Assoc.get? ("_" ++ suffix) Operator.lookups = none :=
    Assoc.get?_of_not_mem (by simp [Assoc.keys, Operator.lookups, ← String.toList_inj])
  rw [filter_of_split hsplit, hnone]

/-- Conditions on a field without two underscores in a row. A key of the field and a suffix is read
as it is meant just where the field does not end with an underscore, and is refused where it does.
The field alone means equality, and any other suffix is refused. -/
theorem filter_lookup (search : Search) (value : Value) (h : ¬ ['_', '_'] <:+: field.toList) :
    (∀ suffix operator, (suffix, operator) ∈ Operator.lookups →
      (search.filter (field ++ "__" ++ suffix) value = .ok { search with
          filters := search.filters ++ [field ++ " " ++ operator ++ " " ++ value.literal] } ↔
        ¬ ['_'] <:+ field.toList) ∧
      (['_'] <:+ field.toList → search.filter (field ++ "__" ++ suffix) value =
        .error (.unknownFilterOperator ("_" ++ suffix)))) ∧
    search.filter field value =
      .ok { search with filters := search.filters ++ [field ++ " = " ++ value.literal] } ∧
    ∀ text, text ∉ Assoc.keys Operator.lookups →
      ∃ e, search.filter (field ++ "__" ++ text) value = .error e ∧ e.kind = .validation := by
  refine ⟨fun suffix operator hlookup => ⟨⟨?_, ?_⟩, ?_⟩, filter_of_plain h search value, ?_⟩
  · intro hok hend
    rw [filter_of_underscore h hend] at hok
    cases hok
  · intro hend
    have hget : Assoc.get? suffix Operator.lookups = some operator :=
      (Assoc.get?_eq_some_iff (by decide)).2 hlookup
    rw [filter_of_split ((split_key h suffix).1 hend), hget]
  · exact fun hend => filter_of_underscore h hend search suffix value
  · intro text htext
    by_cases hend : ['_'] <:+ field.toList
    · exact ⟨_, filter_of_underscore h hend search text value, rfl⟩
    · refine ⟨.unknownFilterOperator text, ?_, rfl⟩
      rw [filter_of_split ((split_key h text).1 hend), Assoc.get?_of_not_mem htext]

/-- A field with underscores at its start and inside, after a condition on another one. -/
theorem filter_lookup_user_id :
    let search : Search := { ofModel ⟨"comments", [], Model.defaultEngine, [], []⟩ with
      filters := ["lang = 'en'"] }
    ¬ ['_', '_'] <:+: "_user_id".toList ∧ ("gte", ">=") ∈ Operator.lookups ∧
      search.filter "_user_id__gte" (.int64 10) =
        .ok { search with filters := ["lang = 'en'", "_user_id >= 10"] } ∧
      ∃ e, search.filter "_user_id__between" (.int64 10) = .error e ∧ e.kind = .validation := by
  intro search
  have hplain : ¬ ['_', '_'] <:+: "_user_id".toList := by decide
  have hlookup : ("gte", ">=") ∈ Operator.lookups := by decide
  have hcondition : "_user_id" ++ " " ++ ">=" ++ " " ++ (Value.int64 10).literal =
      "_user_id >= 10" := by
    decide +kernel
  obtain ⟨hkey, -, hother⟩ := filter_lookup search (.int64 10) hplain
  have hok := (hkey _ _ hlookup).1.2 (by decide)
  rw [hcondition] at hok
  exact ⟨hplain, hlookup, hok, hother "between" (by decide)⟩

/-- The underscore at the end of a field is taken for the first of the separator. -/
theorem filter_lookup_refused :
    let search := ofModel ⟨"comments", [], Model.defaultEngine, [], []⟩
    "rank_" ≠ "" ∧ ¬ ['_', '_'] <:+: "rank_".toList ∧ ("gte", ">=") ∈ Operator.lookups ∧
      search.filter ("rank_" ++ "__" ++ "gte") (.int64 10) =
        .error (.unknownFilterOperator "_gte") ∧
      search.filter ("rank_" ++ "__" ++ "gte") (.int64 10) ≠
        .ok { search with filters := search.filters ++ ["rank_ >= 10"] } := by
  intro search
  have hrefused : search.filter ("rank_" ++ "__" ++ "gte") (.int64 10) =
      .error (.unknownFilterOperator "_gte") := filter_of_underscore (by decide) (by decide) _ _ _
  refine ⟨by decide, by decide, by decide, hrefused, ?_⟩
  rw [hrefused]
  exact fun h => by cases h

end Vector.Search

end FluentQuery
