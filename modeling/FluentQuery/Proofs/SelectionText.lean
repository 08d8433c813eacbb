import FluentQuery.FieldList
import FluentQuery.Proofs.CommandText
import FluentQuery.Proofs.RedirectedPlan

/-!
The selection of columns under the name of a reader. Main statements: where all names are
identifiers, the statement of a plan that selects fields of a reader becomes such a selection, and
its text is read as the query that it was written for.
-/
namespace FluentQuery

namespace Embedded

open Sql


def selectedField (reader key : String) (gap : List Char) : List Lexeme :=
  [.name reader [], .mark '.' [], .name key gap]

def selectedItem (reader key : String) : Item :=
  .operand (.column (some reader) key false) none (reader ++ "." ++ key)

def selectionSource (reader : String) : List Lexeme :=
  [.name "FROM" [' '], .name readerTable [' '], .name "AS" [' '], .name reader []]

theorem chars_selectedField (reader key : String) (gap : List Char) :
    (selectedField reader key gap).flatMap Lexeme.chars =
      (reader ++ "." ++ key).toList ++ gap := by
  simp [selectedField, Lexeme.chars, Lexeme.name, Lexeme.mark]

theorem spanText_selectedField {reader key : String} (h : isPlainName key.toList = true)
    {gap : List Char} (hgap : gap = [] ∨ gap = [' ']) :
    spanText (selectedField reader key gap) = reader ++ "." ++ key := by
  refine spanText_eq (chars_selectedField reader key gap) ?_ fun c hc => ?_
  · rcases hgap with rfl | rfl <;> simp [isNumeralBlank]
  · have hlast : c ∈ key.toList.getLast? := by
      cases hk : key.toList with
      | nil => rw [hk] at h; cases h
      | cons d ds => simpa [hk, List.getLast?_append] using hc
    exact not_isNumeralBlank_getLast? h c hlast

theorem takeItem_selectedField {reader key : String} (hreader : isIdentifier reader = true)
    (hkey : isIdentifier key = true) {gap : List Char} (hgap : gap = [] ∨ gap = [' '])
    {rest : List Lexeme} (has : takeWord "as" rest = none)
    (hname : takeName (joiningWords ++ matchingWords) rest = none) :
    takeItem (selectedField reader key gap ++ rest) = some (selectedItem reader key, rest) := by
  have hfirst : takeName leadingWords (selectedField reader key gap ++ rest) =
      some (reader, .mark '.' [] :: .name key gap :: rest) := by
    simp only [takeName, selectedField, List.cons_append, List.nil_append, Lexeme.name,
      name?_of_identifier hreader (fun _ h => h), Option.map_some]
  have hsecond : takeName [] (.name key gap :: rest) = some (key, rest) := by
    simp only [takeName, Lexeme.name, name?_of_identifier hkey (List.nil_subset _),
      Option.map_some]
  have hdot : ∀ tail, takeMark '.' (.mark '.' [] :: tail) = some tail := fun _ => rfl
  have hstar : takeMark '*' (selectedField reader key gap ++ rest) = none := rfl
  have hstarred : takeMark '*' (.name key gap :: rest) = none := rfl
  have hcount : takeCount (selectedField reader key gap ++ rest) = none := by
    simp only [takeCount, selectedField, List.cons_append, takeWord, Option.bind_eq_bind]
    split <;> rfl
  have hcolumn : takeColumn (selectedField reader key gap ++ rest) =
      some (.column (some reader) key false, rest) := by
    simp only [takeColumn, hfirst, Option.bind_eq_bind, Option.bind_some, hdot, hsecond]
  have hoperand : takeOperand (selectedField reader key gap ++ rest) =
      some (.column (some reader) key false, rest) := by
    have hnull : Text.lowered reader ≠ "null" := not_reserved_of_identifier hreader (by decide)
    rw [← hcolumn]
    simp [takeOperand, selectedField, Lexeme.name, numberCell?, Lexeme.isWord, hnull]
  have halias : takeAlias (joiningWords ++ matchingWords) rest = some (none, rest) := by
    simp [takeAlias, has, hname]
  have hlength : (selectedField reader key gap ++ rest).length - rest.length =
      (selectedField reader key gap).length := by simp
  have hspan : spanText (selectedField reader key gap) = reader ++ "." ++ key :=
    spanText_selectedField (isPlainName_of_identifier hkey) hgap
  simp only [takeItem, hstar, hfirst, Option.bind_eq_bind, Option.bind_some, hdot, hstarred,
    Option.bind_none, hcount, hoperand, halias, hlength, List.take_left, hspan]
  rfl

theorem takeTables_selectionSource {reader : String} (hreader : isIdentifier reader = true) :
    takeTables (selectionSource reader) = some (([⟨readerTable, some reader⟩], []), []) := by
  have hfrom : takeWord "from" (selectionSource reader) =
      some [.name readerTable [' '], .name "AS" [' '], .name reader []] := rfl
  have htable : takeTable [.name readerTable [' '], .name "AS" [' '], .name reader []] =
      some (⟨readerTable, some reader⟩, []) := by
    have hname : takeName [] [.name reader []] = some (reader, []) := by
      simp only [takeName, Lexeme.name, name?_of_identifier hreader (List.nil_subset _),
        Option.map_some]
    have halias : takeAlias joiningWords [.name "AS" [' '], .name reader []] =
        some (some reader, []) := by
      have has : takeWord "as" [.name "AS" [' '], .name reader []] =
        some [.name reader []] := rfl
      simp only [takeAlias, has, hname, Option.map_some]
    have hfirst : takeName [] [.name readerTable [' '], .name "AS" [' '], .name reader []] =
      some (readerTable, [.name "AS" [' '], .name reader []]) := rfl
    simp only [takeTable, hfirst, Option.bind_eq_bind, Option.bind_some, halias]
  simp only [takeTables, hfrom, htable, Option.bind_eq_bind, Option.bind_some]
  rfl

def selectionSql (reader : String) (keys : List String) : String :=
  "SELECT " ++ ", ".intercalate (keys.map fun key => reader ++ "." ++ key) ++ " FROM " ++
    readerTable ++ " AS " ++ reader

theorem chain_selectedField {reader key : String} (hreader : isPlainName reader.toList = true)
    (hkey : isPlainName key.toList = true) {gap rest : List Char}
    (hnext : (gap ++ rest).head?.all (fun c => !isNameChar c && c ≠ '\'') = true)
    (hgap : Gap gap rest) : Chain (selectedField reader key gap) rest := by
  refine ⟨Lexeme.stands_name hreader rfl (.inl rfl), Lexeme.stands_dot ?_,
    Lexeme.stands_name hkey hnext hgap, trivial⟩
  obtain ⟨c, cs, hcs, hstart⟩ := start_of_plain hkey
  simp [Lexeme.chars, Lexeme.name, hcs, not_isDigit_of_start hstart]

theorem not_isBlank_of_plain {c : Char} {cs : List Char} (h : isPlainName cs = true)
    (hc : c ∈ cs) : Text.isBlank c = false := by
  obtain ⟨hlow, hhigh⟩ := toNat_of_mem_plain h hc
  simp [Text.isBlank]
  omega

theorem isTrimmed_selectionSql {reader : String} (h : isPlainName reader.toList = true)
    (keys : List String) : Text.IsTrimmed (selectionSql reader keys).toList := by
  constructor
  · intro c hc
    have hfirst : c = 'S' := by simpa [selectionSql, eq_comm] using hc
    rw [hfirst]
    decide
  · intro c hc
    have hlast : c ∈ reader.toList.getLast? := by
      obtain ⟨d, ds, hd, -⟩ := start_of_plain h
      simpa [selectionSql, List.getLast?_append, hd, List.getLast?_cons] using hc
    exact not_isBlank_of_plain h (List.mem_of_getLast? hlast)

def selectionRest (reader : String) (keys : List String) : List Lexeme :=
  listed (selectedField reader) [' '] keys ++ selectionSource reader

section Selection

variable {reader : String} {keys : List String}

theorem toList_selectionSql (hne : keys ≠ []) : (selectionSql reader keys).toList =
    (.name "SELECT" [' '] :: selectionRest reader keys).flatMap Lexeme.chars := by
  rw [selectionRest, List.flatMap_cons, List.flatMap_append,
    chars_listed (chars_selectedField reader) [' '] hne]
  simp [selectionSql, selectionSource, Lexeme.chars, Lexeme.name, Function.comp_def,
    String.toList_intercalate]

theorem fixed_selectionRest (hreader : isPlainName reader.toList = true)
    (hkeys : ∀ key ∈ keys, isPlainName key.toList = true) :
    ∀ lexeme ∈ selectionRest reader keys, lexeme.Fixed := by
  have hfield : ∀ {gap : List Char}, '\x00' ∉ gap → ∀ key ∈ keys,
      ∀ lexeme ∈ selectedField reader key gap, lexeme.Fixed := by
    intro gap hgap key hk
    simp only [selectedField, List.forall_mem_cons]
    exact ⟨Lexeme.fixed_name hreader (by decide), Lexeme.fixed_mark (by decide) (by decide),
      Lexeme.fixed_name (hkeys key hk) hgap, by simp⟩
  simp only [selectionRest, selectionSource, List.forall_mem_append, List.forall_mem_cons]
  exact ⟨forall_mem_listed (Lexeme.fixed_mark (by decide) (by decide)) (hfield (by decide))
      (hfield (by decide)), Lexeme.fixed_name (by decide) (by decide),
    Lexeme.fixed_name (by decide) (by decide), Lexeme.fixed_name (by decide) (by decide),
    Lexeme.fixed_name hreader (by decide), by simp⟩

theorem head_selectionRest (hreader : isPlainName reader.toList = true) (hne : keys ≠ []) :
    ((selectionRest reader keys).flatMap Lexeme.chars ++ []).head?.all
      (fun c => !isNumeralBlank c) = true := by
  obtain ⟨key, keys, rfl⟩ := List.exists_cons_of_ne_nil hne
  obtain ⟨c, cs, hc, -⟩ := start_of_plain hreader
  have hblank : isNumeralBlank c = false :=
    not_isNumeralBlank_of_plain hreader (hc ▸ List.mem_cons_self)
  cases keys <;> simp [selectionRest, listed, selectedField, Lexeme.chars, Lexeme.name, hc, hblank]

theorem chain_selectionRest (hreader : isPlainName reader.toList = true)
    (hkeys : ∀ key ∈ keys, isPlainName key.toList = true) :
    Chain (selectionRest reader keys) [] := by
  obtain ⟨c, cs, hc, hstart⟩ := start_of_plain hreader
  have hblank : isNumeralBlank c = false :=
    not_isNumeralBlank_of_plain hreader (hc ▸ List.mem_cons_self)
  have hsource : Chain (selectionSource reader) [] := by
    refine ⟨?_, ?_, ?_, Lexeme.stands_name hreader rfl (.inl rfl), trivial⟩
    · exact Lexeme.stands_name (by decide) rfl (.inr ⟨rfl, rfl⟩)
    · exact Lexeme.stands_name (by decide) rfl (.inr ⟨rfl, rfl⟩)
    · refine Lexeme.stands_name (by decide) rfl (.inr ⟨rfl, ?_⟩)
      simp [Lexeme.chars, Lexeme.name, hc, hblank]
  refine Chain.append (chain_listed (chars_selectedField reader) ?_ ?_ ?_) hsource
  · intro key _
    exact ⟨c, cs ++ '.' :: key.toList, by simp [hc], hblank⟩
  · exact fun key hk tail => chain_selectedField hreader (hkeys key hk) rfl (.inl rfl)
  · exact fun key hk => chain_selectedField hreader (hkeys key hk) rfl (.inr ⟨rfl, rfl⟩)

theorem takeList_selectionRest (hreader : isIdentifier reader = true)
    (hkeys : ∀ key ∈ keys, isIdentifier key = true) (hne : keys ≠ []) :
    takeList takeItem (selectionRest reader keys).length (selectionRest reader keys) =
      some (keys.map (selectedItem reader), selectionSource reader) := by
  have hfuel : keys.length ≤ (selectionRest reader keys).length := by
    have hlength := length_le_length_listed (selectedField reader) [' '] keys
    simp only [selectionRest, selectionSource, List.length_append, List.length_cons]
    omega
  refine takeList_listed ?_ ?_ rfl hne hfuel
  · exact fun key hk tail => takeItem_selectedField hreader (hkeys key hk) (.inl rfl) rfl rfl
  · exact fun key hk => takeItem_selectedField hreader (hkeys key hk) (.inr rfl) rfl rfl

theorem ofText?_selectionSql (hreader : isIdentifier reader = true) (hne : keys ≠ [])
    (hkeys : ∀ key ∈ keys, isIdentifier key = true) :
    Command.ofText? (selectionSql reader keys) = some (.query
      ⟨keys.map (selectedItem reader), [⟨readerTable, some reader⟩], [], none⟩) := by
  have hplain := isPlainName_of_identifier hreader
  have hplains := fun key hk => isPlainName_of_identifier (hkeys key hk)
  have hfixed : ∀ lexeme ∈ .name "SELECT" [' '] :: selectionRest reader keys, lexeme.Fixed := by
    rw [List.forall_mem_cons]
    exact ⟨Lexeme.fixed_name (by decide) (by decide), fixed_selectionRest hplain hplains⟩
  have hchain : Chain (.name "SELECT" [' '] :: selectionRest reader keys) [] := by
    refine ⟨Lexeme.stands_name (by decide) rfl (.inr ⟨rfl, ?_⟩), chain_selectionRest hplain hplains⟩
    exact head_selectionRest hplain hne
  have hselect : takeCommand (.name "SELECT" [' '] :: selectionRest reader keys) =
      takeQuery (selectionRest reader keys) := rfl
  have hwhere : takeWhere [] = some ([], []) := rfl
  have hlimit : takeLimit [] = some (none, []) := rfl
  rw [ofText?_fixed (toList_selectionSql hne) (isTrimmed_selectionSql hplain keys) hchain hfixed,
    ofLexemes?_cons (by simp [Lexeme.name]), hselect]
  simp only [takeQuery, takeList_selectionRest hreader hkeys hne, Option.bind_eq_bind,
    Option.bind_some, takeTables_selectionSource hreader, hwhere, hlimit]
  rfl

end Selection

/-! The plan whose statement becomes such a selection. -/

/-- The table function of readers has characters that are in no name. -/
theorem not_namesReader_of_plain {cs : List Char} (h : isPlainName cs = true) :
    ¬ NamesReader cs := by
  intro hn
  have hopen : '(' ∈ lowerAll cs := hn.subset (by decide)
  obtain ⟨c, hc, hlower⟩ := List.mem_map.1 hopen
  obtain ⟨hlow, hhigh⟩ := toNat_of_mem_plain h hc
  have hall : ∀ n < 123, 48 ≤ n → (Char.ofNat n).toLower ≠ '(' := by decide
  exact hall c.toNat (by omega) hlow (by rw [Char.ofNat_toNat]; exact hlower)

theorem isTrimmed_of_plain {cs : List Char} (h : isPlainName cs = true) : Text.IsTrimmed cs :=
  ⟨fun _ hc => not_isBlank_of_plain h (List.mem_of_head? hc),
    fun _ hc => not_isBlank_of_plain h (List.mem_of_getLast? hc)⟩

theorem ofList_of_plain {names : List String}
    (h : ∀ name ∈ names, isPlainName name.toList = true) : FieldList.ofList names = names := by
  refine FieldList.ofList_eq_self fun name hn => ⟨?_, isTrimmed_of_plain (h name hn)⟩
  rintro rfl
  cases h "" hn

def selectionPlan (handle : Handle) (keys : List String) : Plan :=
  ⟨.reader (some handle), handle.name, keys, [], [], none, false, none, none⟩

theorem silent_selectionPlan {handle : Handle} (hreader : isPlainName handle.name.toList = true)
    {keys : List String} (hkeys : ∀ key ∈ keys, isPlainName key.toList = true) :
    (selectionPlan handle keys).Silent where
  aliasName := not_namesReader_of_plain hreader
  fields := fun key hk => not_namesReader_of_plain (hkeys key hk)
  predicates := by simp [selectionPlan]
  joinAliases := by simp [selectionPlan]
  keys := by simp [selectionPlan]
  tables := by
    intro table ht hr
    rw [List.mem_singleton.1 ht] at hr
    cases hr

theorem sql_redirected_selectionPlan {handle : Handle}
    (hreader : isPlainName handle.name.toList = true) {keys : List String} (hne : keys ≠ [])
    (hkeys : ∀ key ∈ keys, isPlainName key.toList = true) :
    (selectionPlan handle keys).redirected.sql = selectionSql handle.name keys := by
  have hname : handle.name.isEmpty = false := by
    obtain ⟨c, cs, hc, -⟩ := start_of_plain hreader
    exact Bool.eq_false_iff.2 fun he => by simp [String.isEmpty_iff.1 he] at hc
  have hfields : keys.map (fun key => qualified key handle.name) =
      keys.map fun key => handle.name ++ "." ++ key := by
    refine List.map_congr_left fun key hk => ?_
    have hdot := not_mem_plain (hkeys key hk) (show isNameChar '.' = false by decide)
    simp [qualified, hdot, hname]
  have hselected : (selectionPlan handle keys).redirected.selectList =
      keys.map fun key => handle.name ++ "." ++ key := by
    simpa [Plan.selectList, Plan.redirected, selectionPlan, hne] using hfields
  have hsource : aliased (selectionPlan handle keys).redirected.source.sql handle.name =
      readerTable ++ " AS " ++ handle.name := by
    simp [aliased, hname, selectionPlan, Plan.redirected, Table.redirected, Table.sql]
  have hclauses : (selectionPlan handle keys).redirected.clauses =
      ["SELECT " ++ ", ".intercalate (selectionPlan handle keys).redirected.selectList,
        "FROM " ++ aliased (selectionPlan handle keys).redirected.source.sql handle.name] := rfl
  rw [Plan.sql, show (selectionPlan handle keys).redirected.raw = none from rfl, hclauses,
    hselected, hsource]
  rw [← String.toList_inj]
  simp [selectionSql, String.toList_intercalate]

theorem redirect?_selectionPlan {handle : Handle} (hreader : isPlainName handle.name.toList = true)
    {keys : List String} (hne : keys ≠ [])
    (hkeys : ∀ key ∈ keys, isPlainName key.toList = true) :
    redirect? (selectionPlan handle keys).sql = some (selectionSql handle.name keys) := by
  have hposition : HasPosition none (selectionPlan handle keys).sql.toList :=
    Plan.hasPosition_sql rfl ⟨_, List.mem_cons_self, rfl⟩
  have hsilent := silent_selectionPlan hreader hkeys
  rw [redirect?_eq_some hposition, Plan.redirected_sql rfl, hsilent.redirected_clauses,
    ← Plan.toList_sql rfl, String.ofList_toList, sql_redirected_selectionPlan hreader hne hkeys]

end Embedded

end FluentQuery
