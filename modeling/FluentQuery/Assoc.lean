/-!
Association lists. `put` keeps the order of first insertion, `putSorted` the order of the keys by
code points. Main statements: what the keys are after an insertion, that they stay distinct or
sorted, and which value a key then has.
-/
namespace FluentQuery.Assoc

variable {α β : Type}

/-- Gives the key the value: in its place if the key is there, at the end otherwise. -/
def put [DecidableEq α] (key : α) (value : β) : List (α × β) → List (α × β)
  | [] => [(key, value)]
  | entry :: entries =>
    if entry.1 = key then (key, value) :: entries else entry :: put key value entries

def get? [DecidableEq α] (key : α) : List (α × β) → Option β
  | [] => none
  | entry :: entries => if entry.1 = key then some entry.2 else get? key entries

def keys (entries : List (α × β)) : List α := entries.map Prod.fst

def ofPairs [DecidableEq α] (pairs : List (α × β)) : List (α × β) :=
  pairs.foldl (fun entries pair => put pair.1 pair.2 entries) []

theorem keys_put [DecidableEq α] (key : α) (value : β) (entries : List (α × β)) :
    keys (put key value entries) =
      if key ∈ keys entries then keys entries else keys entries ++ [key] := by
  induction entries with
  | nil => rfl
  | cons entry entries ih =>
    by_cases h : entry.1 = key
    · simp [put, keys, h]
    · have h' : ¬ key = entry.1 := fun e => h e.symm
      simp only [keys] at ih
      by_cases hm : key ∈ entries.map Prod.fst <;> simp [put, keys, h, h', ih, hm]

theorem nodup_keys_put [DecidableEq α] {key : α} {value : β} {entries : List (α × β)}
    (h : (keys entries).Nodup) : (keys (put key value entries)).Nodup := by
  rw [keys_put]
  split
  · exact h
  · next hk =>
    refine List.nodup_append.2 ⟨h, by simp, fun a ha b hb => ?_⟩
    rintro rfl
    exact hk (List.mem_singleton.1 hb ▸ ha)

theorem nodup_keys_foldl_put [DecidableEq α] (pairs : List (α × β)) {entries : List (α × β)}
    (h : (keys entries).Nodup) :
    (keys (pairs.foldl (fun entries pair => put pair.1 pair.2 entries) entries)).Nodup := by
  induction pairs generalizing entries with
  | nil => exact h
  | cons pair pairs ih => exact ih (nodup_keys_put h)

theorem nodup_keys_ofPairs [DecidableEq α] (pairs : List (α × β)) :
    (keys (ofPairs pairs)).Nodup := nodup_keys_foldl_put pairs List.nodup_nil

theorem foldl_put_ne_nil [DecidableEq α] (pairs : List (α × β)) {entries : List (α × β)}
    (h : entries ≠ []) :
    pairs.foldl (fun entries pair => put pair.1 pair.2 entries) entries ≠ [] := by
  induction pairs generalizing entries with
  | nil => exact h
  | cons pair pairs ih =>
    refine ih ?_
    cases entries with
    | nil => exact absurd rfl h
    | cons entry entries =>
      simp only [put]
      split <;> exact List.cons_ne_nil _ _

theorem get?_put [DecidableEq α] (key other : α) (value : β) (entries : List (α × β)) :
    get? other (put key value entries) =
      if other = key then some value else get? other entries := by
  induction entries with
  | nil => simp [put, get?, eq_comm]
  | cons entry entries ih =>
    by_cases h : entry.1 = key
    · by_cases ho : other = key
      · simp [put, get?, h, ho]
      · have ho' : ¬ key = other := fun e => ho e.symm
        simp [put, get?, h, ho, ho']
    · by_cases ho : entry.1 = other
      · have hk : ¬ other = key := fun e => h (ho.trans e)
        simp [put, get?, ho, hk]
      · simp [put, get?, h, ho, ih]

theorem get?_of_not_mem [DecidableEq α] {key : α} {entries : List (α × β)}
    (h : key ∉ keys entries) : get? key entries = none := by
  induction entries with
  | nil => rfl
  | cons entry entries ih =>
    simp only [keys, List.map_cons, List.mem_cons, not_or] at h
    rw [get?, if_neg (Ne.symm h.1), ih h.2]

theorem get?_append [DecidableEq α] (key : α) (first second : List (α × β)) :
    get? key (first ++ second) = (get? key first).or (get? key second) := by
  induction first with
  | nil => rfl
  | cons entry first ih =>
    by_cases h : entry.1 = key
    · simp [get?, h]
    · simp [get?, h, ih]

/-- A key is looked up in the first entry that has it. -/
theorem get?_eq_some_iff_first [DecidableEq α] {key : α} {value : β} {entries : List (α × β)} :
    get? key entries = some value ↔
      ∃ before after, entries = before ++ (key, value) :: after ∧ key ∉ keys before := by
  constructor
  · intro h
    induction entries with
    | nil => cases h
    | cons entry entries ih =>
      rw [get?] at h
      split at h
      · next he =>
        cases h
        exact ⟨[], entries, by rw [← he, List.nil_append], List.not_mem_nil⟩
      · next hne =>
        obtain ⟨before, after, rfl, hbefore⟩ := ih h
        refine ⟨entry :: before, after, rfl, fun hm => ?_⟩
        exact (List.mem_cons.1 hm).elim (fun he => hne he.symm) hbefore
  · rintro ⟨before, after, rfl, hbefore⟩
    rw [get?_append, get?_of_not_mem hbefore, Option.none_or, get?, if_pos rfl]

theorem mem_of_get? [DecidableEq α] {key : α} {value : β} {entries : List (α × β)}
    (h : get? key entries = some value) : (key, value) ∈ entries := by
  obtain ⟨before, after, rfl, -⟩ := get?_eq_some_iff_first.1 h
  exact List.mem_append_right _ List.mem_cons_self

theorem get?_eq_some_iff [DecidableEq α] {key : α} {value : β} {entries : List (α × β)}
    (h : (keys entries).Nodup) : get? key entries = some value ↔ (key, value) ∈ entries := by
  refine ⟨mem_of_get?, fun hm => ?_⟩
  obtain ⟨before, after, rfl⟩ := List.append_of_mem hm
  rw [keys, List.map_append, List.nodup_append] at h
  have hbefore : key ∉ keys before := fun hk => h.2.2 key hk key List.mem_cons_self rfl
  exact get?_eq_some_iff_first.2 ⟨before, after, rfl, hbefore⟩

theorem get?_perm [DecidableEq α] {entries others : List (α × β)} (hkeys : (keys entries).Nodup)
    (hperm : entries.Perm others) (key : α) : get? key others = get? key entries := by
  have hothers : (keys others).Nodup := (hperm.map Prod.fst).nodup_iff.1 hkeys
  refine Option.ext fun value => ?_
  rw [get?_eq_some_iff hothers, get?_eq_some_iff hkeys, hperm.mem_iff]

/-- Of pairs with one key that are put one after another, the last counts. -/
theorem get?_foldl_put [DecidableEq α] (key : α) (pairs entries : List (α × β)) :
    get? key (pairs.foldl (fun entries pair => put pair.1 pair.2 entries) entries) =
      (get? key pairs.reverse).or (get? key entries) := by
  induction pairs generalizing entries with
  | nil => rfl
  | cons pair pairs ih =>
    rw [List.foldl_cons, ih, get?_put, List.reverse_cons, get?_append, Option.or_assoc]
    by_cases h : key = pair.1
    · simp [get?, h]
    · simp [get?, h, Ne.symm h]

theorem get?_ofPairs [DecidableEq α] (key : α) (pairs : List (α × β)) :
    get? key (ofPairs pairs) = get? key pairs.reverse := by
  rw [ofPairs, get?_foldl_put, get?, Option.or_none]

theorem keys_foldl_put [DecidableEq α] (pairs entries : List (α × β)) :
    keys (pairs.foldl (fun entries pair => put pair.1 pair.2 entries) entries) =
      keys entries ++ ((keys pairs).filter (· ∉ keys entries)).eraseDups := by
  induction pairs generalizing entries with
  | nil => simp [keys]
  | cons pair pairs ih =>
    have hkeys : keys (pair :: pairs) = pair.1 :: keys pairs := rfl
    rw [List.foldl_cons, ih, keys_put, hkeys]
    by_cases h : pair.1 ∈ keys entries
    · rw [if_pos h, List.filter_cons_of_neg (by simp [h])]
    · have hfilter : (keys pairs).filter (· ∉ keys entries ++ [pair.1]) =
          ((keys pairs).filter (· ∉ keys entries)).filter fun key => !key == pair.1 := by
        rw [List.filter_filter]
        refine List.filter_congr fun key _ => ?_
        by_cases hk : key = pair.1 <;> simp [hk]
      rw [if_neg h, List.filter_cons_of_pos (by simp [h]), List.eraseDups_cons, hfilter,
        List.append_assoc, List.singleton_append]

/-- The keys of pairs that are put one after another are their distinct keys, each in its first
place. -/
theorem keys_ofPairs [DecidableEq α] (pairs : List (α × β)) :
    keys (ofPairs pairs) = (keys pairs).eraseDups := by
  rw [ofPairs, keys_foldl_put, List.filter_eq_self.2 fun _ _ => by simp [keys]]
  rfl

theorem mem_keys_ofPairs [DecidableEq α] {pairs : List (α × β)} {key : α} :
    key ∈ keys (ofPairs pairs) ↔ key ∈ keys pairs := by
  rw [keys_ofPairs, List.mem_eraseDups]

theorem ofPairs_concat [DecidableEq α] (pairs : List (α × β)) (key : α) (value : β) :
    ofPairs (pairs ++ [(key, value)]) = put key value (ofPairs pairs) := by
  rw [ofPairs, List.foldl_append]
  rfl

section Places

variable {ι α : Type} [DecidableEq α] {places : List α} {place : ι → α} {listed : List ι}

theorem pairwise_places_concat (hplaces : ∀ i ∈ listed, place i ∈ places)
    (h : listed.Pairwise fun i j => places.idxOf (place i) < places.idxOf (place j)) (last : α) :
    listed.Pairwise fun i j =>
      (places ++ [last]).idxOf (place i) < (places ++ [last]).idxOf (place j) := by
  refine h.imp_of_mem fun hi hj hlt => ?_
  rwa [List.idxOf_append, if_pos (hplaces _ hi), List.idxOf_append, if_pos (hplaces _ hj)]

theorem pairwise_places_new (hplaces : ∀ i ∈ listed, place i ∈ places)
    (h : listed.Pairwise fun i j => places.idxOf (place i) < places.idxOf (place j)) {new : ι}
    (hnew : place new ∉ places) :
    (listed ++ [new]).Pairwise fun i j => (places ++ [place new]).idxOf (place i) <
      (places ++ [place new]).idxOf (place j) := by
  refine List.pairwise_append.2
    ⟨pairwise_places_concat hplaces h _, List.pairwise_singleton _ _, fun i hi j hj => ?_⟩
  obtain rfl := List.mem_singleton.1 hj
  rw [List.idxOf_append, if_pos (hplaces _ hi), List.idxOf_append, if_neg hnew]
  exact Nat.lt_of_lt_of_le (List.idxOf_lt_length_of_mem (hplaces _ hi)) (Nat.le_add_left _ _)

end Places

/-- A key has the value of the last pair that gives it one. -/
theorem get?_ofPairs_eq_some_iff [DecidableEq α] {key : α} {value : β} {pairs : List (α × β)} :
    get? key (ofPairs pairs) = some value ↔
      ∃ before after, pairs = before ++ (key, value) :: after ∧ key ∉ keys after := by
  rw [get?_ofPairs, get?_eq_some_iff_first]
  constructor
  · rintro ⟨before, after, hpairs, hbefore⟩
    refine ⟨after.reverse, before.reverse, ?_, by simpa [keys] using hbefore⟩
    simpa using congrArg List.reverse hpairs
  · rintro ⟨before, after, rfl, hafter⟩
    exact ⟨after.reverse, before.reverse, by simp, by simpa [keys] using hafter⟩

theorem get?_ofPairs_of_last [DecidableEq α] {pairs : List (α × β)} {i : Nat} {key : α}
    {value : β} (h : pairs[i]? = some (key, value)) (hlast : key ∉ keys (pairs.drop (i + 1))) :
    get? key (ofPairs pairs) = some value := by
  obtain ⟨hi, hget⟩ := List.getElem?_eq_some_iff.1 h
  refine get?_ofPairs_eq_some_iff.2 ⟨pairs.take i, pairs.drop (i + 1), ?_, hlast⟩
  rw [← hget, ← List.drop_eq_getElem_cons hi, List.take_append_drop]

theorem mem_of_mem_put [DecidableEq α] {key : α} {value : β} {entries : List (α × β)}
    {entry : α × β} (h : entry ∈ put key value entries) :
    entry = (key, value) ∨ entry ∈ entries := by
  induction entries with
  | nil => exact .inl (List.mem_singleton.1 h)
  | cons first entries ih =>
    rw [put] at h
    split at h
    · exact (List.mem_cons.1 h).imp_right (List.mem_cons_of_mem _)
    · rcases List.mem_cons.1 h with h | h
      · exact .inr (h ▸ List.mem_cons_self)
      · exact (ih h).imp_right (List.mem_cons_of_mem _)

theorem mem_of_mem_foldl_put [DecidableEq α] {pairs entries : List (α × β)} {entry : α × β}
    (h : entry ∈ pairs.foldl (fun entries pair => put pair.1 pair.2 entries) entries) :
    entry ∈ pairs ∨ entry ∈ entries := by
  induction pairs generalizing entries with
  | nil => exact .inr h
  | cons pair pairs ih =>
    rcases ih h with hpairs | hput
    · exact .inl (List.mem_cons_of_mem _ hpairs)
    · rcases mem_of_mem_put hput with he | hentries
      · exact .inl (he ▸ List.mem_cons_self)
      · exact .inr hentries

theorem mem_of_mem_ofPairs [DecidableEq α] {pairs : List (α × β)} {entry : α × β}
    (h : entry ∈ ofPairs pairs) : entry ∈ pairs :=
  (mem_of_mem_foldl_put h).resolve_right List.not_mem_nil

theorem put_of_not_mem [DecidableEq α] {key : α} {entries : List (α × β)}
    (h : key ∉ keys entries) (value : β) : put key value entries = entries ++ [(key, value)] := by
  induction entries with
  | nil => rfl
  | cons entry entries ih =>
    simp only [keys, List.map_cons, List.mem_cons, not_or] at h
    rw [put, if_neg (Ne.symm h.1), ih h.2, List.cons_append]

theorem ofPairs_eq_self [DecidableEq α] {pairs : List (α × β)} (h : (keys pairs).Nodup) :
    ofPairs pairs = pairs := by
  suffices ∀ entries : List (α × β), (keys (entries ++ pairs)).Nodup →
      pairs.foldl (fun entries pair => put pair.1 pair.2 entries) entries = entries ++ pairs from
    this [] h
  clear h
  induction pairs with
  | nil => simp
  | cons pair pairs ih =>
    intro entries hn
    have hnew : pair.1 ∉ keys entries := by
      simp only [keys, List.map_append, List.map_cons, List.nodup_append] at hn
      exact fun hm => hn.2.2 _ hm _ List.mem_cons_self rfl
    rw [List.foldl_cons, put_of_not_mem hnew, ih _ (by simpa using hn)]
    simp

theorem get?_map [DecidableEq α] {key : α} {names : List α} (h : key ∈ names) (f : α → β) :
    get? key (names.map fun name => (name, f name)) = some (f key) := by
  induction names with
  | nil => cases h
  | cons name names ih =>
    by_cases hn : name = key
    · simp [get?, hn]
    · have hm : key ∈ names := (List.mem_cons.1 h).resolve_left (Ne.symm hn)
      simp [get?, hn, ih hm]

/-- Gives the key the value in a list that is sorted by its keys. -/
def putSorted (key : String) (value : β) : List (String × β) → List (String × β)
  | [] => [(key, value)]
  | entry :: entries =>
    if entry.1 = key then (key, value) :: entries
    else if key < entry.1 then (key, value) :: entry :: entries
    else entry :: putSorted key value entries

def sortedOfPairs (pairs : List (String × β)) : List (String × β) :=
  pairs.foldl (fun entries pair => putSorted pair.1 pair.2 entries) []

theorem mem_keys_putSorted {key other : String} (value : β) (entries : List (String × β)) :
    other ∈ keys (putSorted key value entries) ↔ other = key ∨ other ∈ keys entries := by
  induction entries with
  | nil => simp [putSorted, keys]
  | cons entry entries ih =>
    simp only [putSorted]
    split
    · next h => simp [keys, h]
    · split
      · simp [keys]
      · simp only [keys, List.map_cons, List.mem_cons] at ih ⊢
        rw [ih, or_left_comm]

theorem sorted_keys_putSorted (key : String) (value : β) {entries : List (String × β)}
    (h : (keys entries).Pairwise (· < ·)) :
    (keys (putSorted key value entries)).Pairwise (· < ·) := by
  induction entries with
  | nil => simp [putSorted, keys]
  | cons entry entries ih =>
    obtain ⟨hfirst, hrest⟩ := List.pairwise_cons.1 h
    simp only [putSorted]
    split
    · next he => exact List.pairwise_cons.2 ⟨he ▸ hfirst, hrest⟩
    · next hne =>
      split
      · next hlt =>
        refine List.pairwise_cons.2 ⟨fun other ho => ?_, h⟩
        rcases List.mem_cons.1 ho with rfl | ho
        · exact hlt
        · exact String.lt_trans hlt (hfirst other ho)
      · next hle =>
        have hlt : entry.1 < key := String.not_le.1 fun hge =>
          hne (String.le_antisymm (String.not_lt.1 hle) hge)
        refine List.pairwise_cons.2 ⟨fun other ho => ?_, ih hrest⟩
        rcases (mem_keys_putSorted value entries).1 ho with rfl | ho
        · exact hlt
        · exact hfirst other ho

theorem mem_keys_sortedOfPairs {other : String} (pairs : List (String × β)) :
    other ∈ keys (sortedOfPairs pairs) ↔ other ∈ keys pairs := by
  suffices ∀ entries : List (String × β), other ∈ keys (pairs.foldl
      (fun entries pair => putSorted pair.1 pair.2 entries) entries) ↔
      other ∈ keys pairs ∨ other ∈ keys entries from
    (this []).trans (by simp [keys])
  induction pairs with
  | nil => simp [keys]
  | cons pair pairs ih =>
    intro entries
    rw [List.foldl_cons, ih, mem_keys_putSorted]
    simp only [keys, List.map_cons, List.mem_cons]
    rw [or_left_comm, or_assoc]

theorem sorted_keys_sortedOfPairs (pairs : List (String × β)) :
    (keys (sortedOfPairs pairs)).Pairwise (· < ·) := by
  suffices ∀ entries : List (String × β), (keys entries).Pairwise (· < ·) →
      (keys (pairs.foldl (fun entries pair => putSorted pair.1 pair.2 entries) entries)).Pairwise
        (· < ·) from this [] List.Pairwise.nil
  induction pairs with
  | nil => exact fun _ h => h
  | cons pair pairs ih => exact fun entries h => ih _ (sorted_keys_putSorted _ _ h)

end FluentQuery.Assoc
