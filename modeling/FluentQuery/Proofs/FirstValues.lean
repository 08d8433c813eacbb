import FluentQuery.Proofs.RecordColumns
import Mathlib.Data.List.Forall2

/-!
The types of the columns of records. Main statement: a key has the type of its value in the first
record that has one other than null there. So the order of the keys within the records does not
count, nor do records without such a value wherever they stand, nor do records at the end once a
value has been found.
-/
namespace FluentQuery.Columns

variable {records others : List Record} {key type : String}

inductive Infers (records : List Record) (key : String) : String → Prop
  | first {before after : List Record} {record : Record} {value : Json}
      (hrecords : records = before ++ record :: after)
      (hbefore : ∀ earlier ∈ before, valueAt earlier key = .null)
      (hvalue : Assoc.get? key record = some value) (hne : value ≠ .null) :
      Infers records key (tagOf value)
  | none (hkey : ∃ record ∈ records, key ∈ Assoc.keys record)
      (hnull : ∀ record ∈ records, valueAt record key = .null) : Infers records key "String"

/-- The second records are the first ones with more records among them, none of which has a value
other than null under the key. -/
inductive Padded (key : String) : List Record → List Record → Prop
  | nil : Padded key [] []
  | kept (record : Record) {records padded : List Record} (h : Padded key records padded) :
      Padded key (record :: records) (record :: padded)
  | inserted {record : Record} {records padded : List Record} (hnull : valueAt record key = .null)
      (h : Padded key records padded) : Padded key records (record :: padded)

/-- The second records are the first ones with their entries in another order. A record has each of
its keys once. -/
def Reordered (records reordered : List Record) : Prop :=
  List.Forall₂ (fun record other => (Assoc.keys record).Nodup ∧ record.Perm other) records reordered

def firstValue? (records : List Record) (key : String) : Option Json :=
  (records.map fun record => valueAt record key).find? fun cell => !cell.isNull

theorem firstValue?_append (records more : List Record) (key : String) :
    firstValue? (records ++ more) key = (firstValue? records key).or (firstValue? more key) := by
  rw [firstValue?, List.map_append, List.find?_append]
  rfl

theorem firstValue?_cons (record : Record) (records : List Record) (key : String) :
    firstValue? (record :: records) key =
      (firstValue? [record] key).or (firstValue? records key) :=
  firstValue?_append [record] records key

theorem firstValue?_eq_none_iff :
    firstValue? records key = none ↔ ∀ record ∈ records, valueAt record key = .null := by
  simp [firstValue?, Json.isNull_eq_true_iff]

theorem firstValue?_eq_some_iff {value : Json} :
    firstValue? records key = some value ↔
      ∃ before record after, records = before ++ record :: after ∧
        (∀ earlier ∈ before, valueAt earlier key = .null) ∧
        Assoc.get? key record = some value ∧ value ≠ .null := by
  constructor
  · intro h
    obtain ⟨hvalue, before, after, hcells, hbefore⟩ := List.find?_eq_some_iff_append.1 h
    obtain ⟨earlier, rest, rfl, rfl, hrest⟩ := List.map_eq_append_iff.1 hcells
    obtain ⟨record, later, rfl, rfl, -⟩ := List.map_eq_cons_iff.1 hrest
    have hne : valueAt record key ≠ .null := Json.isNull_eq_false_iff.1 (by simpa using hvalue)
    refine ⟨earlier, record, later, rfl, ?_, (valueAt_eq_iff hne).1 rfl, hne⟩
    simpa [Json.isNull_eq_true_iff] using hbefore
  · rintro ⟨before, record, after, rfl, hbefore, hvalue, hne⟩
    have hfirst : firstValue? [record] key = some value := by
      rw [firstValue?, List.map_singleton, (valueAt_eq_iff hne).2 hvalue]
      simp [Json.isNull_eq_false_iff.2 hne]
    rw [firstValue?_append, firstValue?_eq_none_iff.2 hbefore, Option.none_or, firstValue?_cons,
      hfirst, Option.some_or]

theorem tag_eq_firstValue? (records : List Record) (key : String) :
    tag (records.map fun record => valueAt record key) =
      ((firstValue? records key).map tagOf).getD "String" := by
  unfold tag firstValue?
  split
  · next cell h => rw [h]; rfl
  · next h => rw [h]; rfl

theorem get?_schema (hkey : key ∈ keysOf records) :
    Assoc.get? key (ofRecords records).schema =
      some (((firstValue? records key).map tagOf).getD "String") := by
  rw [schema_ofRecords, Assoc.get?_map hkey, tag_eq_firstValue?]

theorem get?_schema_eq_none (hkey : key ∉ keysOf records) :
    Assoc.get? key (ofRecords records).schema = none := by
  apply Assoc.get?_of_not_mem
  rwa [keys_schema_ofRecords]

theorem mem_keysOf_of_firstValue? {value : Json} (h : firstValue? records key = some value) :
    key ∈ keysOf records := by
  obtain ⟨before, record, after, rfl, -, hvalue, -⟩ := firstValue?_eq_some_iff.1 h
  refine mem_keysOf.2 ⟨record, by simp, ?_⟩
  exact List.mem_map.2 ⟨_, Assoc.mem_of_get? hvalue, rfl⟩

theorem get?_schema_eq_some_iff :
    Assoc.get? key (ofRecords records).schema = some type ↔ Infers records key type := by
  constructor
  · intro h
    have hkey : key ∈ keysOf records := Decidable.byContradiction fun hkey => by
      rw [get?_schema_eq_none hkey] at h
      cases h
    rw [get?_schema hkey] at h
    cases hfirst : firstValue? records key with
    | none =>
      rw [hfirst] at h
      cases h
      exact .none (mem_keysOf.1 hkey) (firstValue?_eq_none_iff.1 hfirst)
    | some value =>
      rw [hfirst] at h
      cases h
      obtain ⟨before, record, after, hrecords, hbefore, hvalue, hne⟩ :=
        firstValue?_eq_some_iff.1 hfirst
      exact .first hrecords hbefore hvalue hne
  · rintro (⟨hrecords, hbefore, hvalue, hne⟩ | ⟨hkey, hnull⟩)
    · have hfirst := firstValue?_eq_some_iff.2 ⟨_, _, _, hrecords, hbefore, hvalue, hne⟩
      rw [get?_schema (mem_keysOf_of_firstValue? hfirst), hfirst]
      rfl
    · rw [get?_schema (mem_keysOf.2 hkey), firstValue?_eq_none_iff.2 hnull]
      rfl

theorem keysOf_congr (h : ∀ key, key ∈ keysOf records ↔ key ∈ keysOf others) :
    keysOf records = keysOf others := by
  have hperm : (keysOf records).Perm (keysOf others) :=
    (List.perm_ext_iff_of_nodup (nodup_keysOf records) (nodup_keysOf others)).2 h
  refine hperm.eq_of_pairwise (fun first second _ _ hlt hgt => ?_)
    (Assoc.sorted_keys_sortedOfPairs _) (Assoc.sorted_keys_sortedOfPairs _)
  exact absurd (String.lt_trans hlt hgt) (String.lt_irrefl first)

theorem Reordered.map_valueAt (h : Reordered records others) (key : String) :
    (others.map fun record => valueAt record key) = records.map fun record => valueAt record key := by
  induction h with
  | nil => rfl
  | cons h _ ih =>
    rw [List.map_cons, ih, List.map_cons, valueAt, Assoc.get?_perm h.1 h.2 key, valueAt]

theorem Reordered.mem_keysOf_iff (h : Reordered records others) (key : String) :
    key ∈ keysOf others ↔ key ∈ keysOf records := by
  rw [mem_keysOf, mem_keysOf]
  induction h with
  | nil => simp
  | cons h _ ih =>
    have hkeys := (h.2.map Prod.fst).mem_iff (a := key)
    simp only [List.exists_mem_cons_iff, ih]
    rw [Assoc.keys, ← hkeys, Assoc.keys]

theorem Reordered.ofRecords_eq (h : Reordered records others) :
    ofRecords others = ofRecords records := by
  rw [ofRecords, keysOf_congr h.mem_keysOf_iff, ofRecords]
  exact List.map_congr_left fun key _ => congrArg (Prod.mk key) (h.map_valueAt key)

theorem Padded.firstValue?_eq (h : Padded key records others) :
    firstValue? others key = firstValue? records key := by
  induction h with
  | nil => rfl
  | kept record h ih => rw [firstValue?_cons, ih, ← firstValue?_cons]
  | inserted hnull h ih =>
    have hnone := firstValue?_eq_none_iff.2 (List.forall_mem_singleton.2 hnull)
    rw [firstValue?_cons, hnone, Option.none_or, ih]

theorem Padded.subset (h : Padded key records others) : records ⊆ others := by
  induction h with
  | nil => exact List.Subset.refl []
  | kept record h ih => exact List.cons_subset_cons record ih
  | inserted hnull h ih => exact List.subset_cons_of_subset _ ih

theorem Padded.get?_schema (h : Padded key records others)
    (hkey : ∃ record ∈ records, key ∈ Assoc.keys record) :
    Assoc.get? key (ofRecords others).schema = Assoc.get? key (ofRecords records).schema := by
  obtain ⟨record, hrecord, hmem⟩ := hkey
  have hothers : key ∈ keysOf others := mem_keysOf.2 ⟨record, h.subset hrecord, hmem⟩
  have hrecords : key ∈ keysOf records := mem_keysOf.2 ⟨record, hrecord, hmem⟩
  rw [Columns.get?_schema hothers, Columns.get?_schema hrecords, h.firstValue?_eq]

theorem get?_schema_append (hvalue : ∃ record ∈ records, valueAt record key ≠ .null)
    (more : List Record) :
    Assoc.get? key (ofRecords (records ++ more)).schema =
      Assoc.get? key (ofRecords records).schema := by
  have hne : firstValue? records key ≠ none := by
    rw [Ne, firstValue?_eq_none_iff]
    simpa using hvalue
  obtain ⟨value, hfirst⟩ := Option.ne_none_iff_exists'.1 hne
  have hboth : firstValue? (records ++ more) key = some value := by
    rw [firstValue?_append, hfirst, Option.some_or]
  rw [get?_schema (mem_keysOf_of_firstValue? hboth), get?_schema (mem_keysOf_of_firstValue? hfirst),
    hboth, hfirst]

/-- The types of the columns of records. The keys are those that occur, sorted, and each column has
one cell for each record. The type of a key is that of its first value other than null. It is the
same for records with their entries in another order, with records among them that have no such
value under the key and, once there is one, with any records after them. -/
theorem schema_of_first_values (records : List Record) :
    (∀ key, key ∈ Assoc.keys (ofRecords records).schema ↔
      ∃ record ∈ records, key ∈ Assoc.keys record) ∧
    (Assoc.keys (ofRecords records).schema).Pairwise (· < ·) ∧
    (∀ column ∈ ofRecords records,
      List.Forall₂ (fun record cell => cell = valueAt record column.1) records column.2) ∧
    (∀ key type, Assoc.get? key (ofRecords records).schema = some type ↔
      Infers records key type) ∧
    (∀ reordered, Reordered records reordered →
      (ofRecords reordered).schema = (ofRecords records).schema) ∧
    (∀ key type padded, Padded key records padded →
      Assoc.get? key (ofRecords records).schema = some type →
        Assoc.get? key (ofRecords padded).schema = some type) ∧
    ∀ key more, (∃ record ∈ records, valueAt record key ≠ .null) →
      Assoc.get? key (ofRecords (records ++ more)).schema =
        Assoc.get? key (ofRecords records).schema := by
  refine ⟨fun key => ?_, ?_, fun column hcolumn => ?_, fun key type => get?_schema_eq_some_iff,
    fun reordered h => ?_, fun key type padded h htype => ?_,
    fun key more hvalue => get?_schema_append hvalue more⟩
  · rw [keys_schema_ofRecords, mem_keysOf]
  · rw [keys_schema_ofRecords]
    exact Assoc.sorted_keys_sortedOfPairs _
  · obtain ⟨key, -, rfl⟩ := List.mem_map.1 hcolumn
    exact List.forall₂_map_right_iff.2 (List.forall₂_same.2 fun _ _ => rfl)
  · rw [h.ofRecords_eq]
  · have hkey : key ∈ Assoc.keys (ofRecords records).schema :=
      List.mem_map.2 ⟨_, Assoc.mem_of_get? htype, rfl⟩
    rw [keys_schema_ofRecords, mem_keysOf] at hkey
    rw [h.get?_schema hkey, htype]

/-- A town that is null at first, and a record without one; a key whose values are of two types. -/
theorem schema_of_first_values_visits :
    let first : Record := [("id", .int ⟨1, by decide⟩), ("town", .null)]
    let second : Record := [("id", .str "two"), ("town", .str "Oslo")]
    let records := [first, second]
    let reordered := [first.reverse, second.reverse]
    let padded := [[("town", .null)], first, [("name", .bool true)], second]
    let more := [[("town", .bool true), ("id", .null)]]
    (ofRecords records).schema = [("id", "Int64"), ("town", "String")] ∧
      Infers records "id" "Int64" ∧
      (Reordered records reordered ∧
        (ofRecords reordered).schema = (ofRecords records).schema) ∧
      (Padded "town" records padded ∧
        Assoc.get? "town" (ofRecords padded).schema = some "String") ∧
      (∃ record ∈ records, valueAt record "town" ≠ .null) ∧
      Assoc.get? "town" (ofRecords (records ++ more)).schema = some "String" := by
  intro first second records reordered padded more
  obtain ⟨-, -, -, htype, hreordered, hpadded, happend⟩ := schema_of_first_values records
  have hschema : (ofRecords records).schema = [("id", "Int64"), ("town", "String")] := by rfl
  have htown : Assoc.get? "town" (ofRecords records).schema = some "String" := by
    rw [hschema]
    rfl
  have hid : Assoc.get? "id" (ofRecords records).schema = some "Int64" := by
    rw [hschema]
    rfl
  have hperm : Reordered records reordered :=
    .cons ⟨by decide, (List.reverse_perm first).symm⟩
      (.cons ⟨by decide, (List.reverse_perm second).symm⟩ .nil)
  have hpad : Padded "town" records padded :=
    .inserted rfl (.kept first (.inserted rfl (.kept second .nil)))
  have hvalue : ∃ record ∈ records, valueAt record "town" ≠ .null :=
    ⟨second, by simp [records], by simp [second, valueAt, Assoc.get?]⟩
  refine ⟨hschema, (htype _ _).1 hid, ⟨hperm, hreordered _ hperm⟩,
    ⟨hpad, hpadded _ _ _ hpad htown⟩, hvalue, ?_⟩
  rw [happend _ _ hvalue, htown]

end FluentQuery.Columns
