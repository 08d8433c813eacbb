import FluentQuery.Proofs.Occurrences
import FluentQuery.Proofs.TableText
import FluentQuery.Table.Alias

/-!
The aliases of remote tables, which are searched for in the whole text of the table function. Main
statement: where no field ends its quotes early or names the function, the search finds nothing but
the function itself, and so the alias is made of the fields for the database and the table.
-/
namespace FluentQuery

def RemoteTable.texts (t : RemoteTable) : List String :=
  [t.host, t.database, t.table, t.user, t.password] ++ t.schema.toList

namespace Table

def remoteLead : List Char := "postgresql(".toList

theorem remoteLead_ne_nil : remoteLead ≠ [] := by decide

theorem span_server {server : List Char} (h : ',' ∉ server) (rest : List Char) :
    (server ++ ',' :: rest).span (fun c => decide (c ≠ ',')) = (server, ',' :: rest) :=
  span_eq_iff.2 ⟨fun _ hc => decide_eq_true fun he => h (he ▸ hc), by decide, rfl⟩

def namesAfter? (cs : List Char) : Option (List Char × List Char) := do
  let (database, cs) ← takeNamed (← takeField cs)
  let (table, _) ← takeNamed (← takeField cs)
  some (database, table)

theorem namesAfter?_written (database table : Field) (rest : List Char) :
    namesAfter? (database.written [] (table.written [] rest)) =
      if database.content ≠ [] ∧ table.content ≠ [] then some (database.content, table.content)
      else none := by
  by_cases hdatabase : database.content = []
  · simp [namesAfter?, takeField_written, takeNamed_eq, hdatabase]
  · by_cases htable : table.content = [] <;>
      simp [namesAfter?, takeField_written, takeNamed_eq, hdatabase, htable]

theorem remoteNames?_lead {server : List Char} (hne : server ≠ []) (hserver : ',' ∉ server)
    (rest : List Char) :
    remoteNames? (remoteLead ++ (server ++ ',' :: rest)) = namesAfter? (',' :: rest) := by
  have hlead : Text.afterLead "postgresql(".toList (remoteLead ++ (server ++ ',' :: rest)) =
      some (server ++ ',' :: rest) := Text.afterLead_append _ _
  simp only [remoteNames?, hlead, Option.bind_eq_bind, Option.bind_some, span_server hserver,
    List.isEmpty_iff, if_neg hne, namesAfter?]

/-! The text of a table function, quote by quote. -/

def accessChars (t : RemoteTable) : List Char :=
  [',', ' '] ++ '\'' :: (t.user.toList ++ '\'' :: ([',', ' '] ++ '\'' ::
    (t.password.toList ++ '\'' :: ((schemaText t.schema).toList ++ [')']))))

def fieldsChars (t : RemoteTable) : List Char :=
  [',', ' '] ++ '\'' :: (t.database.toList ++ '\'' :: ([',', ' '] ++ '\'' ::
    (t.table.toList ++ '\'' :: accessChars t)))

def serverChars (t : RemoteTable) : List Char :=
  t.host.toList ++ ':' :: Nat.toDigits 10 t.port.toNat

theorem toList_sql (t : RemoteTable) :
    t.sql.toList = remoteLead ++ '\'' :: (serverChars t ++ '\'' :: fieldsChars t) := by
  have hlead : remoteLead = "postgresql(".toList := rfl
  rw [hlead, sql_remote]
  generalize "postgresql(" = lead
  simp [serverChars, fieldsChars, accessChars, singleQuoted, naturalText]

theorem not_infix_of_length_lt {cs : List Char} (h : cs.length < remoteLead.length) :
    ¬ remoteLead <:+: cs :=
  fun hin => Nat.not_lt.2 hin.length_le h

theorem infix_quote_iff {front back : List Char} : remoteLead <:+: front ++ '\'' :: back ↔
    remoteLead <:+: front ∨ remoteLead <:+: back :=
  Text.infix_append_cons_iff remoteLead_ne_nil (by decide)

section Quiet

variable {t : RemoteTable} (h : ∀ s ∈ t.texts, '\'' ∉ s.toList ∧ ¬ remoteLead <:+: s.toList)

include h

theorem not_infix_schema : ¬ remoteLead <:+: (schemaText t.schema).toList ++ [')'] := by
  cases hschema : t.schema with
  | none => exact not_infix_of_length_lt (by decide)
  | some schema =>
    have hquiet := (h schema (by simp [RemoteTable.texts, hschema])).2
    have htext : (schemaText (some schema)).toList ++ [')'] =
        ", schema=".toList ++ '\'' :: (schema.toList ++ '\'' :: [')']) := by
      simp [schemaText, singleQuoted]
    rw [htext, infix_quote_iff, infix_quote_iff, not_or, not_or]
    exact ⟨not_infix_of_length_lt (by decide), hquiet, not_infix_of_length_lt (by decide)⟩

theorem not_infix_server : ¬ remoteLead <:+: serverChars t := by
  have hdigits : ¬ remoteLead <:+: Nat.toDigits 10 t.port.toNat := by
    have hletter : 'p' ∉ Nat.toDigits 10 t.port.toNat := not_mem_toDigits rfl _
    exact fun hin => hletter (hin.subset (by decide))
  rw [serverChars, Text.infix_append_cons_iff remoteLead_ne_nil (by decide)]
  exact not_or.2 ⟨(h t.host (by simp [RemoteTable.texts])).2, hdigits⟩

/-- The function is named at the front only. -/
theorem not_infix_tail : ¬ remoteLead <:+: t.sql.toList.tail := by
  have htail : t.sql.toList.tail =
      remoteLead.tail ++ '\'' :: (serverChars t ++ '\'' :: fieldsChars t) := by
    rw [toList_sql, List.tail_append_of_ne_nil remoteLead_ne_nil]
  have hlead : ¬ remoteLead <:+: remoteLead.tail := not_infix_of_length_lt (by decide)
  have hblank : ¬ remoteLead <:+: [',', ' '] := not_infix_of_length_lt (by decide)
  rw [htail, fieldsChars, accessChars]
  simp only [infix_quote_iff, not_or]
  refine ⟨hlead, not_infix_server h, hblank, ?_, hblank, ?_, hblank, ?_, hblank, ?_,
    not_infix_schema h⟩
  all_goals exact (h _ (by simp [RemoteTable.texts])).2

end Quiet

/-! What is found. -/

theorem infix_of_remoteNames? {cs : List Char} {names : List Char × List Char}
    (h : remoteNames? cs = some names) : remoteLead <:+: cs := by
  unfold remoteNames? at h
  obtain ⟨rest, hlead, -⟩ := Option.bind_eq_some_iff.1 h
  rw [Text.afterLead_eq_some_iff.1 hlead]
  exact (List.prefix_append _ rest).isInfix

theorem takeField_eq_none {front rest : List Char} {c : Char} (hfront : '\'' ∉ front)
    (hc : c ≠ '\'') (hblank : Text.isBlank c = false) :
    takeField (',' :: (front ++ c :: rest)) = none := by
  refine Option.eq_none_iff_forall_not_mem.2 fun read hread => ?_
  obtain ⟨field, -, hwritten⟩ := takeField_eq_some_iff.1 hread
  have hgap : front ++ c :: rest = field.gap ++ quoted field.content read.2 :=
    (List.cons.inj hwritten).2
  rcases List.append_eq_append_iff.1 hgap with ⟨more, hmore, hrest⟩ | ⟨more, hmore, hrest⟩
  · cases more with
    | nil => exact hc (List.cons.inj hrest).1
    | cons d more =>
      obtain ⟨rfl, -⟩ := List.cons.inj hrest
      simp [field.gap_blank c (by simp [hmore])] at hblank
  · cases more with
    | nil => exact hc (List.cons.inj hrest).1.symm
    | cons d more =>
      obtain ⟨rfl, -⟩ := List.cons.inj hrest
      exact hfront (by simp [hmore])

theorem remoteNames?_sql_of_comma {t : RemoteTable} (hhost : '\'' ∉ t.host.toList)
    (hcomma : ',' ∈ t.host.toList) : remoteNames? t.sql.toList = none := by
  obtain ⟨front, back, hsplit, hfront⟩ := List.eq_append_cons_of_mem hcomma
  have hback : '\'' ∉ back := fun hm => hhost (by simp [hsplit, hm])
  have hserver : ',' ∉ '\'' :: front := by simp [hfront]
  have hchars : t.sql.toList = remoteLead ++ (('\'' :: front) ++ ',' :: (back ++ ':' ::
      (Nat.toDigits 10 t.port.toNat ++ '\'' :: fieldsChars t))) := by
    simp [toList_sql, serverChars, hsplit]
  rw [hchars, remoteNames?_lead (List.cons_ne_nil _ _) hserver, namesAfter?,
    takeField_eq_none hback (by decide) (by decide)]
  rfl

theorem remoteNames?_sql {t : RemoteTable} (hcomma : ',' ∉ t.host.toList)
    (hdatabase : '\'' ∉ t.database.toList) (htable : '\'' ∉ t.table.toList) :
    remoteNames? t.sql.toList =
      if t.database.toList ≠ [] ∧ t.table.toList ≠ [] then
        some (t.database.toList, t.table.toList) else none := by
  have hserver : ',' ∉ '\'' :: (serverChars t ++ ['\'']) := by
    have hdigits : ',' ∉ Nat.toDigits 10 t.port.toNat := not_mem_toDigits rfl _
    simp [serverChars, hcomma, hdigits]
  have hchars : t.sql.toList = remoteLead ++ ('\'' :: (serverChars t ++ ['\'']) ++
      (Field.ofText t.database hdatabase).written []
        ((Field.ofText t.table htable).written [] (accessChars t))) := by
    simp [toList_sql, fieldsChars, Field.ofText, Field.written, quoted]
  rw [hchars]
  exact (remoteNames?_lead (List.cons_ne_nil _ _) hserver _).trans (namesAfter?_written _ _ _)

/-- The alias of a remote table. Where no field holds a quote or names the function, it is made of
the database and the table if both have a name and the host has no comma, and it is a fixed one
otherwise, whatever the port, the user, the password and the schema are. -/
theorem aliasName_remote {t : RemoteTable}
    (h : ∀ s ∈ t.texts, '\'' ∉ s.toList ∧ ¬ "postgresql(".toList <:+: s.toList) :
    aliasName (.remote t) =
      if ',' ∉ t.host.toList ∧ t.database ≠ "" ∧ t.table ≠ "" then t.database ++ "_" ++ t.table
      else "pg" := by
  have hfront : Text.firstAmong remoteNames? t.sql.toList = remoteNames? t.sql.toList := by
    refine Text.firstAmong_eq_front fun rest hrest => ?_
    refine Option.eq_none_iff_forall_not_mem.2 fun names hnames => not_infix_tail h ?_
    exact (infix_of_remoteNames? hnames).trans hrest.isInfix
  have hplain : ∀ s ∈ t.texts, '\'' ∉ s.toList := fun s hs => (h s hs).1
  simp only [RemoteTable.texts, List.cons_append, List.forall_mem_cons] at hplain
  obtain ⟨hhost, hdatabase, htable, -⟩ := hplain
  rw [aliasName, remoteAlias, hfront]
  by_cases hcomma : ',' ∈ t.host.toList
  · rw [remoteNames?_sql_of_comma hhost hcomma, if_neg (fun hall => hall.1 hcomma)]
  · rw [remoteNames?_sql hcomma hdatabase htable]
    simp only [ne_eq, String.toList_eq_nil_iff, hcomma, not_false_eq_true, true_and]
    by_cases hnamed : ¬ t.database = "" ∧ ¬ t.table = ""
    · simp only [if_pos hnamed, String.ofList_toList]
    · simp only [if_neg hnamed]

/-- Fields with commas, brackets and the name of the function without its bracket, and the same
fields behind a host with a comma. -/
theorem aliasName_remote_shop :
    let shop : RemoteTable :=
      ⟨"db:1", 5432, "shop, old", "postgresql", "(o", "file(", some "postgresql ("⟩
    let shops : RemoteTable := { shop with host := "db:1, db:2" }
    (∀ s ∈ shop.texts, '\'' ∉ s.toList ∧ ¬ "postgresql(".toList <:+: s.toList) ∧
      aliasName (.remote shop) = "shop, old_postgresql" ∧
      (∀ s ∈ shops.texts, '\'' ∉ s.toList ∧ ¬ "postgresql(".toList <:+: s.toList) ∧
      aliasName (.remote shops) = "pg" := by
  intro shop shops
  have hshop : ∀ s ∈ shop.texts, '\'' ∉ s.toList ∧ ¬ "postgresql(".toList <:+: s.toList := by
    decide +kernel
  have hshops : ∀ s ∈ shops.texts, '\'' ∉ s.toList ∧ ¬ "postgresql(".toList <:+: s.toList := by
    decide +kernel
  refine ⟨hshop, (aliasName_remote hshop).trans ?_, hshops, (aliasName_remote hshops).trans ?_⟩
  · decide +kernel
  · decide +kernel

end Table
end FluentQuery
