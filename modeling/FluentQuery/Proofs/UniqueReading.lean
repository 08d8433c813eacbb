import FluentQuery.Proofs.StatementReading

/-!
Reading statements of plans whose names are all identifiers. An identifier may be any of the words
of a statement, so that only its place tells it from them. Main statement: the statements of two
such plans are the same text just where they say the same.
-/
namespace FluentQuery

namespace JoinClause.Reading

theorem condition_ne_empty (pair : String × String) : condition pair ≠ "" := by
  intro h
  have hchars := congrArg String.toList h
  simp [condition] at hchars

/-- The two keys of a condition stand on the sides of its only mark. -/
theorem condition_inj {pair other : String × String}
    (hpair : Unmarked pair.1 ∧ Unmarked pair.2) (h : condition pair = condition other) :
    pair = other := by
  have hchars : pair.1.toList ++ '=' :: pair.2.toList =
      other.1.toList ++ '=' :: other.2.toList := by
    simpa [condition] using congrArg String.toList h
  obtain ⟨hleft, -, hright⟩ := (List.append_cons_inj_of_notMem hpair.1.not_mem_equals
    hpair.2.not_mem_equals).1 hchars
  exact Prod.ext (String.toList_inj.1 hleft) (String.toList_inj.1 hright)

theorem conditions_inj {pairs others : List (String × String)}
    (hpairs : ∀ pair ∈ pairs, Unmarked pair.1 ∧ Unmarked pair.2)
    (h : pairs.map (fun pair => [condition pair]) = others.map fun pair => [condition pair]) :
    pairs = others := by
  induction pairs generalizing others with
  | nil => simpa using h.symm
  | cons pair pairs ih =>
    cases others with
    | nil => simp at h
    | cons other others =>
      obtain ⟨hpair, hpairs⟩ := List.forall_mem_cons.1 hpairs
      obtain ⟨hfirst, hrest⟩ := List.cons.inj h
      rw [condition_inj hpair (List.cons.inj hfirst).1, ih hpairs hrest]

theorem parts_ne_nil (pairs : List (String × String)) : parts pairs ≠ [] := by
  unfold parts
  split
  · simp
  · simp [*]

theorem length_of_mem_parts {pairs : List (String × String)} :
    ∀ part ∈ parts pairs, part.length = 1 := by
  intro part hpart
  unfold parts at hpart
  split at hpart
  · rw [List.mem_singleton.1 hpart]
    rfl
  · obtain ⟨pair, -, rfl⟩ := List.mem_map.1 hpart
    rfl

theorem ne_map_condition {pairs : List (String × String)} :
    [[""]] ≠ pairs.map fun pair => [condition pair] := by
  intro h
  obtain ⟨pair, -, hpair⟩ := List.mem_map.1 (h ▸ List.mem_singleton_self [""])
  exact condition_ne_empty pair (List.cons.inj hpair).1

theorem parts_inj {pairs others : List (String × String)}
    (hpairs : ∀ pair ∈ pairs, Unmarked pair.1 ∧ Unmarked pair.2)
    (h : parts pairs = parts others) : pairs = others := by
  unfold parts at h
  split at h
  · split at h
    · next hnil hnil' => rw [hnil, hnil']
    · exact absurd h ne_map_condition
  · split at h
    · exact absurd h.symm ne_map_condition
    · exact conditions_inj hpairs h

/-- A clause ends where no further condition follows. -/
theorem words_append_inj {clause other : Reading} (hclause : clause.Plain) (hother : other.Plain)
    {rest more : List String} (hrest : rest.head? ≠ some "AND") (hmore : more.head? ≠ some "AND")
    (h : clause.words ++ rest = other.words ++ more) : clause = other ∧ rest = more := by
  simp only [words, List.cons_append, List.cons.injEq, true_and] at h
  obtain ⟨htarget, halias, hconditions⟩ := h
  obtain ⟨hparts, hend⟩ := Text.intercalate_append_inj (parts_ne_nil _) (parts_ne_nil _)
    length_of_mem_parts length_of_mem_parts hrest hmore hconditions
  obtain ⟨name, hname⟩ := hclause.target
  obtain ⟨name', hname'⟩ := hother.target
  refine ⟨?_, hend⟩
  cases clause
  cases other
  have hpairs := parts_inj hclause.pairs hparts
  simp_all [Table.sql]

theorem head?_joins {clauses : List Reading} {rest : List String}
    (hrest : rest.head? ≠ some "AND") : (clauses.flatMap words ++ rest).head? ≠ some "AND" := by
  cases clauses with
  | nil => exact hrest
  | cons clause clauses => simp [words]

/-- The joins end where no further clause of that kind follows. -/
theorem joins_append_inj {clauses others : List Reading}
    (hclauses : ∀ clause ∈ clauses, clause.Plain) (hothers : ∀ clause ∈ others, clause.Plain)
    {rest more : List String} (hrest : rest.head? ∉ [some "AND", some "JOIN"])
    (hmore : more.head? ∉ [some "AND", some "JOIN"])
    (h : clauses.flatMap words ++ rest = others.flatMap words ++ more) :
    clauses = others ∧ rest = more := by
  have hrestAnd : rest.head? ≠ some "AND" := fun he => hrest (by simp [he])
  have hmoreAnd : more.head? ≠ some "AND" := fun he => hmore (by simp [he])
  induction clauses generalizing others with
  | nil =>
    cases others with
    | nil => exact ⟨rfl, h⟩
    | cons other others =>
      have hrestJoin : rest = other.words ++ (others.flatMap words ++ more) := by simpa using h
      exact absurd (by simp [hrestJoin, words]) hrest
  | cons clause clauses ih =>
    cases others with
    | nil =>
      have hmoreJoin : more = clause.words ++ (clauses.flatMap words ++ rest) := by
        simpa using h.symm
      exact absurd (by simp [hmoreJoin, words]) hmore
    | cons other others =>
      obtain ⟨hclause, hclauses⟩ := List.forall_mem_cons.1 hclauses
      obtain ⟨hother, hothers⟩ := List.forall_mem_cons.1 hothers
      simp only [List.flatMap_cons, List.append_assoc] at h
      obtain ⟨hfirst, htail⟩ :=
        words_append_inj hclause hother (head?_joins hrestAnd) (head?_joins hmoreAnd) h
      obtain ⟨hlist, hend⟩ := ih hclauses hothers htail
      exact ⟨by rw [hfirst, hlist], hend⟩

end JoinClause.Reading

namespace Plan.Reading

theorem explain_append_inj {explain explain' : Bool} {rest more : List String}
    (h : explainWords explain ++ "SELECT" :: rest = explainWords explain' ++ "SELECT" :: more) :
    explain = explain' ∧ rest = more := by
  cases explain with
  | false =>
    cases explain' with
    | false => exact ⟨rfl, (List.cons.inj h).2⟩
    | true => exact absurd (List.cons.inj h).1 (by decide)
  | true =>
    cases explain' with
    | false => exact absurd (List.cons.inj h).1 (by decide)
    | true => exact ⟨rfl, (List.cons.inj (List.cons.inj h).2).2⟩

theorem limit_inj {limit limit' : Option Nat} (h : limitWords limit = limitWords limit') :
    limit = limit' := by
  cases limit <;> cases limit' <;> simp [limitWords] at h ⊢
  exact naturalText_injective h

theorem head?_limitWords (limit : Option Nat) : (limitWords limit).head? ≠ some "AND" := by
  cases limit <;> simp [limitWords]

theorem head?_filterWords (predicates : List String) (limit : Option Nat) :
    (filterWords predicates ++ limitWords limit).head? ∉ [some "AND", some "JOIN"] := by
  unfold filterWords
  split
  · cases limit <;> simp [limitWords]
  · simp

/-- The conditions and the limit. -/
theorem filter_append_inj {predicates others : List String} {limit limit' : Option Nat}
    (hpredicates : ∀ predicate ∈ predicates, (Text.words predicate).length = 3)
    (hothers : ∀ predicate ∈ others, (Text.words predicate).length = 3)
    (h : filterWords predicates ++ limitWords limit = filterWords others ++ limitWords limit') :
    predicates = others ∧ limit = limit' := by
  unfold filterWords at h
  split at h
  · next hnil =>
    split at h
    · next hnil' => exact ⟨by rw [hnil, hnil'], limit_inj h⟩
    · cases limit <;> simp [limitWords] at h
  · next hne =>
    split at h
    · cases limit' <;> simp [limitWords] at h
    · next hne' =>
      obtain ⟨hwords, hlimit⟩ := Text.intercalate_append_inj (by simpa using hne)
        (by simpa using hne') (by simpa using hpredicates) (by simpa using hothers)
        (head?_limitWords limit) (head?_limitWords limit') (List.cons.inj h).2
      exact ⟨(List.map_inj_right fun _ _ => Text.words_injective).1 hwords, limit_inj hlimit⟩

theorem not_unmarked_star (aliasName : String) : ¬ Unmarked (star aliasName) := by
  intro h
  refine h.not_mem_star ?_
  unfold star
  split <;> simp

/-- Selecting all columns shows as a star, which is no field. -/
theorem fields_inj {fields others : List String} {aliasName : String}
    (hfields : ∀ field ∈ fields, Unmarked field) (hothers : ∀ field ∈ others, Unmarked field)
    (h : (if fields = [] then [star aliasName] else fields) =
      if others = [] then [star aliasName] else others) : fields = others := by
  split at h
  · next hnil =>
    split at h
    · next hnil' => rw [hnil, hnil']
    · exact absurd (hothers _ (h ▸ List.mem_singleton_self _)) (not_unmarked_star aliasName)
  · split at h
    · exact absurd (hfields _ (h ▸ List.mem_singleton_self _)) (not_unmarked_star aliasName)
    · exact h

theorem eq_of_words_eq {reading other : Reading} (hreading : reading.Plain) (hother : other.Plain)
    (h : reading.words = other.words) : reading = other := by
  obtain ⟨hexplain, hselect⟩ := explain_append_inj h
  obtain ⟨hitems, hfrom⟩ := Text.listed_append_inj reading.items_ne_nil other.items_ne_nil
    (fun item hitem => (hreading.items item hitem).2)
    (fun item hitem => (hother.items item hitem).2) hselect
  simp only [List.cons.injEq, true_and] at hfrom
  obtain ⟨hsource, halias, hjoins⟩ := hfrom
  obtain ⟨hjoins, hfilter⟩ := JoinClause.Reading.joins_append_inj hreading.joins hother.joins
    (head?_filterWords _ _) (head?_filterWords _ _) hjoins
  obtain ⟨hpredicates, hlimit⟩ :=
    filter_append_inj hreading.predicates hother.predicates hfilter
  have hfields : reading.fields = other.fields := by
    rw [items, items, halias, hjoins, List.append_left_inj] at hitems
    exact fields_inj hreading.fields hother.fields hitems
  obtain ⟨name, hname⟩ := hreading.source
  obtain ⟨name', hname'⟩ := hother.source
  cases reading
  cases other
  simp_all [Table.sql]

end Plan.Reading

namespace Plan

/-- Plans of identifiers have the same statement just where they agree in whether they ask for an
explanation, in source, alias and limit, in their predicates, in the fields once these are
qualified, and in target, alias and qualified keys of each join. -/
theorem sql_eq_iff_reading_eq {plan other : Plan} (hplan : plan.Simple) (hother : other.Simple) :
    plan.sql = other.sql ↔ plan.reading = other.reading := by
  constructor
  · intro h
    refine Reading.eq_of_words_eq hplan.plain hother.plain ?_
    rw [← hplan.words_sql, ← hother.words_sql, h]
  · intro h
    refine Text.words_injective ?_
    rw [hplan.words_sql, hother.words_sql, h]

/-- Identifiers that are words of statements, under their own names and qualified. -/
theorem sql_eq_iff_reading_eq_keywords :
    let plan (fields : List String) (keys : List (String × String)) (field : String) : Plan :=
      (⟨.raw "FROM", "JOIN", fields, [], [⟨.raw "WHERE", "SELECT", ⟨keys⟩⟩], some 10, true, none,
        none⟩ : Plan).filter field .gte (.int64 (-7))
    let first := plan ["AS", "AND.ON"] [("AND", "ON"), ("AS", "LIMIT.9")] "LIMIT"
    let second := plan ["JOIN.AS", "AND.ON"] [("JOIN.AND", "SELECT.ON"), ("AS", "LIMIT.9")]
      "JOIN.LIMIT"
    first.Simple ∧ second.Simple ∧ first ≠ second ∧ first.sql = second.sql ∧
      first.sql = "EXPLAIN SELECT JOIN.AS, AND.ON, SELECT.* FROM FROM AS JOIN" ++
        " JOIN WHERE AS SELECT ON JOIN.AND=SELECT.ON AND JOIN.AS=LIMIT.9" ++
        " WHERE JOIN.LIMIT >= -7 LIMIT 10" := by
  intro plan first second
  have hbare : ∀ {name : String}, isBareName name = true → IsBareField name := .inl
  have hdotted : ∀ {table column : String}, isBareName table = true → isBareName column = true →
      IsBareField (table ++ "." ++ column) := fun ht hc => .inr ⟨_, _, ht, hc, rfl⟩
  have hjoin : isBareName "JOIN" = true := rfl
  have hselect : isBareName "SELECT" = true := rfl
  have hgte : Operator.gte ∈ [Operator.eq, .ne, .lt, .gt, .lte, .gte] := by decide
  have hsimple : ∀ fields keys field, (∀ name ∈ fields, IsBareField name) →
      (∀ pair ∈ keys, IsBareField pair.1 ∧ IsBareField pair.2) → IsBareField field →
      (plan fields keys field).Simple := by
    intro fields keys field hfields hkeys hfield
    refine ⟨rfl, ⟨"FROM", rfl, rfl⟩, hjoin, hfields, ?_, ?_⟩
    · intro clause hclause
      rw [List.mem_singleton.1 hclause]
      exact ⟨⟨"WHERE", rfl, rfl⟩, hselect, hkeys⟩
    · intro predicate hpredicate
      exact ⟨⟨field, .gte, .int64 (-7)⟩, ⟨hfield, hgte, _, rfl⟩, List.mem_singleton.1 hpredicate⟩
  have hand : IsBareField "AND" := hbare rfl
  have has : IsBareField "AS" := hbare rfl
  have hon : IsBareField "ON" := hbare rfl
  have handOn : IsBareField "AND.ON" := @hdotted "AND" "ON" rfl rfl
  have hnine : IsBareField "LIMIT.9" := @hdotted "LIMIT" "9" rfl rfl
  have hfirst : first.Simple := by
    refine hsimple _ _ _ ?_ ?_ (hbare rfl)
    · simpa using ⟨has, handOn⟩
    · simpa using ⟨⟨hand, hon⟩, has, hnine⟩
  have hsecond : second.Simple := by
    refine hsimple _ _ _ ?_ ?_ (@hdotted "JOIN" "LIMIT" rfl rfl)
    · simpa using ⟨@hdotted "JOIN" "AS" rfl rfl, handOn⟩
    · simpa using ⟨⟨@hdotted "JOIN" "AND" rfl rfl, @hdotted "SELECT" "ON" rfl rfl⟩, has, hnine⟩
  exact ⟨hfirst, hsecond, by decide, (sql_eq_iff_reading_eq hfirst hsecond).2 (by decide +kernel),
    by decide +kernel⟩

end Plan

end FluentQuery
