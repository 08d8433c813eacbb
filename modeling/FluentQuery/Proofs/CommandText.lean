import FluentQuery.Proofs.ReaderTable

/-!
The commands of the texts that are written for a reader. Main statements: where all names are plain,
the texts of its table's creation and of an insertion into it are read as the commands that they
were written for.
-/
namespace FluentQuery

namespace Sql

def isIdentifier (name : String) : Bool :=
  isPlainName name.toList && !(reservedWords ++ leadingWords).contains (Text.lowered name)

theorem isPlainName_of_identifier {name : String} (h : isIdentifier name = true) :
    isPlainName name.toList = true := by
  rw [isIdentifier, Bool.and_eq_true] at h
  exact h.1

theorem not_reserved_of_identifier {name word : String} (h : isIdentifier name = true)
    (hword : word ∈ reservedWords) : Text.lowered name ≠ word := by
  rintro rfl
  simp [isIdentifier, hword] at h

/-- An identifier is a name wherever the leading words are not. -/
theorem name?_of_identifier {name : String} (h : isIdentifier name = true) {refused : List String}
    (hrefused : refused ⊆ leadingWords) : Token.name? refused (.word name) = some name := by
  simp only [isIdentifier, Bool.and_eq_true, Bool.not_eq_true', List.contains_eq_mem,
    List.mem_append, decide_eq_false_iff_not, not_or] at h
  have hword : ¬ (reservedWords.contains (Text.lowered name) ||
      refused.contains (Text.lowered name)) = true := by
    simp only [List.contains_eq_mem, Bool.or_eq_true, decide_eq_true_eq, not_or]
    exact ⟨h.2.1, fun hr => h.2.2 (hrefused hr)⟩
  simp only [Token.name?, if_neg hword]

theorem not_mem_plain {name : String} (h : isPlainName name.toList = true) {c : Char}
    (hc : isNameChar c = false) : c ∉ name.toList := by
  intro hm
  rw [isNameChar_of_mem h hm] at hc
  cases hc

/-- The command of a text that is trimmed and whose lexemes are known. -/
theorem ofText?_chars {sql : String} {lexemes : List Lexeme}
    (hsql : sql.toList = lexemes.flatMap Lexeme.chars) (htrimmed : Text.IsTrimmed sql.toList)
    (hchain : Chain lexemes []) (hnull : ∀ lexeme ∈ lexemes, '\x00' ∉ lexeme.chars) :
    Command.ofText? sql = Command.ofLexemes? (numbered 0 lexemes) := by
  rw [Command.ofText?, Text.trimmed_eq_self htrimmed, hsql, lexemes?_chars hchain hnull,
    Option.bind_some]

/-- A lexeme without a null character that is no parameter. -/
def Lexeme.Fixed (lexeme : Lexeme) : Prop :=
  '\x00' ∉ lexeme.chars ∧ ∀ index, lexeme.token ≠ .parameter index

theorem Lexeme.fixed_name {name : String} (h : isPlainName name.toList = true) {gap : List Char}
    (hgap : '\x00' ∉ gap) : (Lexeme.name name gap).Fixed := by
  have hname := not_mem_plain h (show isNameChar '\x00' = false by decide)
  exact ⟨by simp [Lexeme.name, Lexeme.chars, hname, hgap], by simp [Lexeme.name]⟩

theorem Lexeme.fixed_quoted {name : String} (h : isPlainName name.toList = true) {gap : List Char}
    (hgap : '\x00' ∉ gap) : (Lexeme.quoted name gap).Fixed := by
  have hname := not_mem_plain h (show isNameChar '\x00' = false by decide)
  exact ⟨by simp [Lexeme.quoted, Lexeme.chars, hname, hgap], by simp [Lexeme.quoted]⟩

theorem Lexeme.fixed_mark {c : Char} (hc : c ≠ '\x00') {gap : List Char} (hgap : '\x00' ∉ gap) :
    (Lexeme.mark c gap).Fixed :=
  ⟨by simp [Lexeme.mark, Lexeme.chars, hc.symm, hgap], by simp [Lexeme.mark]⟩

theorem numbered_append {lexemes : List Lexeme} (h : ∀ lexeme ∈ lexemes, lexeme.Fixed) (n : Nat)
    (rest : List Lexeme) : numbered n (lexemes ++ rest) = lexemes ++ numbered n rest := by
  induction lexemes with
  | nil => rfl
  | cons lexeme lexemes ih =>
    have htoken := (h lexeme List.mem_cons_self).2
    rw [List.cons_append, numbered]
    split
    · next index he => exact absurd he (htoken index)
    · rw [ih fun other ho => h other (List.mem_cons_of_mem _ ho)]
      rfl

theorem ofText?_fixed {sql : String} {lexemes : List Lexeme}
    (hsql : sql.toList = lexemes.flatMap Lexeme.chars) (htrimmed : Text.IsTrimmed sql.toList)
    (hchain : Chain lexemes []) (hfixed : ∀ lexeme ∈ lexemes, lexeme.Fixed) :
    Command.ofText? sql = Command.ofLexemes? lexemes := by
  have hnumbered := numbered_append hfixed 0 []
  rw [List.append_nil, show numbered 0 [] = [] from rfl, List.append_nil] at hnumbered
  rw [ofText?_chars hsql htrimmed hchain fun lexeme hl => (hfixed lexeme hl).1, hnumbered]

section Listed

variable {α β : Type} {item : α → List Char → List Lexeme} {take : Reading β} {value : α → β}
  {last : List Char} {as : List α} {rest : List Lexeme}

theorem length_le_length_listed (item : α → List Char → List Lexeme) (last : List Char)
    (as : List α) : as.length ≤ (listed item last as).length + 1 := by
  induction as with
  | nil => exact Nat.zero_le _
  | cons a as ih =>
    cases as with
    | nil => exact Nat.le_add_left 1 _
    | cons b as =>
      simp only [listed, List.length_append, List.length_cons] at ih ⊢
      omega

/-- A list is read if each of its items is, in front of a comma and in front of what follows. -/
theorem takeList_listed
    (hcomma : ∀ a ∈ as, ∀ tail, take (item a [] ++ Lexeme.mark ',' [' '] :: tail) =
      some (value a, Lexeme.mark ',' [' '] :: tail))
    (hlast : ∀ a ∈ as, take (item a last ++ rest) = some (value a, rest))
    (hrest : takeMark ',' rest = none) (hne : as ≠ []) {fuel : Nat} (hfuel : as.length ≤ fuel) :
    takeList take fuel (listed item last as ++ rest) = some (as.map value, rest) := by
  induction as generalizing fuel with
  | nil => exact absurd rfl hne
  | cons a as ih =>
    obtain ⟨fuel, rfl⟩ : ∃ n, fuel = n + 1 := Nat.exists_eq_add_one.2 (by simp at hfuel; omega)
    cases as with
    | nil => simp [takeList, listed, hlast a List.mem_cons_self, hrest]
    | cons b as =>
      have hothers := ih (fun d hd => hcomma d (List.mem_cons_of_mem _ hd))
        (fun d hd => hlast d (List.mem_cons_of_mem _ hd)) (List.cons_ne_nil b as)
        (Nat.le_of_succ_le_succ hfuel)
      have hmark : ∀ tail, takeMark ',' (Lexeme.mark ',' [' '] :: tail) = some tail :=
        fun _ => rfl
      simp only [takeList, listed, List.append_assoc, List.cons_append,
        hcomma a List.mem_cons_self, Option.bind_eq_bind, Option.bind_some, hmark, hothers,
        List.map_cons]

theorem takeParenthesized_listed {gap : List Char}
    (hcomma : ∀ a ∈ as, ∀ tail, take (item a [] ++ Lexeme.mark ',' [' '] :: tail) =
      some (value a, Lexeme.mark ',' [' '] :: tail))
    (hlast : ∀ a ∈ as, take (item a [] ++ Lexeme.mark ')' gap :: rest) =
      some (value a, Lexeme.mark ')' gap :: rest)) (hne : as ≠ []) :
    takeParenthesized take
        (Lexeme.mark '(' [] :: (listed item [] as ++ Lexeme.mark ')' gap :: rest)) =
      some (as.map value, rest) := by
  have hfuel : as.length ≤ (listed item [] as ++ Lexeme.mark ')' gap :: rest).length := by
    have hlength := length_le_length_listed item [] as
    simp only [List.length_append, List.length_cons]
    omega
  have hopen : ∀ tail, takeMark '(' (Lexeme.mark '(' [] :: tail) = some tail := fun _ => rfl
  have hclose : ∀ tail, takeMark ')' (Lexeme.mark ')' gap :: tail) = some tail := fun _ => rfl
  simp only [takeParenthesized, hopen, Option.bind_eq_bind, Option.bind_some,
    takeList_listed hcomma hlast rfl hne hfuel, hclose]

end Listed

end Sql

namespace Embedded

open Sql

/-! The creation of the table. -/

def declaration (column : String × String) (gap : List Char) : List Lexeme :=
  [.quoted column.1 [' '], .name (declaredType column.2) gap]

theorem declaredType_eq (tag : String) :
    declaredType tag = "INTEGER" ∨ declaredType tag = "REAL" ∨ declaredType tag = "TEXT" := by
  unfold declaredType
  split
  · exact .inl rfl
  · split
    · exact .inr (.inl rfl)
    · exact .inr (.inr rfl)

theorem isPlainName_declaredType (tag : String) :
    isPlainName (declaredType tag).toList = true := by
  rcases declaredType_eq tag with h | h | h <;> rw [h] <;> decide

theorem chars_declaration (column : String × String) (gap : List Char) :
    (declaration column gap).flatMap Lexeme.chars =
      (quotedName column.1 ++ " " ++ declaredType column.2).toList ++ gap := by
  simp [declaration, Lexeme.chars, Lexeme.quoted, Lexeme.name, quotedName]

theorem chain_declaration {column : String × String} (h : isPlainName column.1.toList = true)
    {c : Char} (hc : (!isNameChar c && c ≠ '\'') = true) (rest : List Char) :
    Chain (declaration column []) (c :: rest) := by
  have htype := isPlainName_declaredType column.2
  refine ⟨Lexeme.stands_quoted (not_mem_plain h (by decide)) rfl (.inr ⟨rfl, ?_⟩),
    Lexeme.stands_name htype hc (.inl rfl), trivial⟩
  rcases declaredType_eq column.2 with he | he | he <;> rw [he] <;> rfl

theorem takeTypeWords_declaredType (tag : String) {lexeme : Lexeme}
    (hname : lexeme.token.name? joiningWords = none) (rest : List Lexeme) (fuel : Nat) :
    takeTypeWords (fuel + 2) (.name (declaredType tag) [] :: lexeme :: rest) = lexeme :: rest := by
  have htype : ∀ tail, takeName joiningWords (.name (declaredType tag) [] :: tail) =
      some (declaredType tag, tail) := by
    intro tail
    rcases declaredType_eq tag with h | h | h <;> rw [h] <;> rfl
  have hstop : takeName joiningWords (lexeme :: rest) = none := by simp [takeName, hname]
  simp only [takeTypeWords, htype, hstop]

theorem spanText_eq {lexemes : List Lexeme} {text : String} {gap : List Char}
    (hchars : lexemes.flatMap Lexeme.chars = text.toList ++ gap)
    (hgap : ∀ c ∈ gap, isNumeralBlank c = true)
    (hlast : ∀ c ∈ text.toList.getLast?, isNumeralBlank c = false) : spanText lexemes = text := by
  have hkeep : text.toList.reverse.dropWhile isNumeralBlank = text.toList.reverse := by
    cases hr : text.toList.reverse with
    | nil => rfl
    | cons c cs =>
      have hc : c ∈ text.toList.getLast? := by simp [← List.head?_reverse, hr]
      exact List.dropWhile_cons_of_neg (by simp [hlast c hc])
  have hdrop : (text.toList ++ gap).reverse.dropWhile isNumeralBlank = text.toList.reverse := by
    rw [List.reverse_append, List.dropWhile_append_of_pos fun c hc =>
      hgap c (List.mem_reverse.1 hc), hkeep]
  show String.ofList ((lexemes.flatMap Lexeme.chars).reverse.dropWhile isNumeralBlank).reverse =
    text
  rw [hchars, hdrop, List.reverse_reverse, String.ofList_toList]

theorem not_isNumeralBlank_getLast? {name : String} (h : isPlainName name.toList = true) :
    ∀ c ∈ name.toList.getLast?, isNumeralBlank c = false := fun _ hc =>
  not_isNumeralBlank_of_plain h (List.mem_of_getLast? hc)

theorem takeDeclaration_declaration (column : String × String) {lexeme : Lexeme}
    (hname : lexeme.token.name? joiningWords = none) (hmark : lexeme.token ≠ .mark '(')
    (rest : List Lexeme) :
    takeDeclaration (declaration column [] ++ lexeme :: rest) =
      some (⟨column.1, .ofType (declaredType column.2)⟩, lexeme :: rest) := by
  have hfirst : takeName [] (declaration column [] ++ lexeme :: rest) =
      some (column.1, .name (declaredType column.2) [] :: lexeme :: rest) := rfl
  have htypes := takeTypeWords_declaredType column.2 hname rest rest.length
  have hopen : takeMark '(' (lexeme :: rest) = none := by simp [takeMark, hmark]
  have hspan : spanText [.name (declaredType column.2) []] = declaredType column.2 :=
    @spanText_eq _ _ [] (by simp [Lexeme.chars, Lexeme.name]) (by simp)
      (not_isNumeralBlank_getLast? (isPlainName_declaredType column.2))
  have hone : (rest.length + 1 + 1) - (rest.length + 1) = 1 := by omega
  simp only [takeDeclaration, hfirst, Option.bind_eq_bind, Option.bind_some, List.length_cons,
    htypes, hopen, hone, List.take_succ_cons, List.take_zero, hspan]

theorem fixed_declaration {column : String × String} (h : isPlainName column.1.toList = true) :
    ∀ lexeme ∈ declaration column [], lexeme.Fixed := by
  intro lexeme hl
  rcases List.mem_cons.1 hl with rfl | hl
  · exact Lexeme.fixed_quoted h (by decide)
  · rw [List.mem_singleton.1 hl]
    exact Lexeme.fixed_name (isPlainName_declaredType column.2) (by decide)

theorem fixed_creationLead : ∀ lexeme ∈ creationLead, lexeme.Fixed := by
  intro lexeme hl
  simp only [creationLead, List.mem_cons, List.not_mem_nil, or_false] at hl
  rcases hl with rfl | rfl | rfl | rfl <;> exact Lexeme.fixed_name (by decide) (by decide)

theorem ofText?_creationSql_plain {schema : Schema} (hne : schema ≠ [])
    (h : ∀ column ∈ schema, isPlainName column.1.toList = true) :
    Command.ofText? (creationSql schema) = some (.create true readerTable
      (schema.map fun column => ⟨column.1, .ofType (declaredType column.2)⟩)) := by
  obtain ⟨columns, hcolumns⟩ : ∃ columns, columns = listed declaration [] schema := ⟨_, rfl⟩
  have hchars : (creationSql schema).toList = (creationLead ++
      .mark '(' [] :: (columns ++ [Lexeme.mark ')' []])).flatMap Lexeme.chars := by
    rw [toList_creationSql, List.flatMap_append, List.flatMap_cons, List.flatMap_append, hcolumns,
      chars_listed chars_declaration [] hne, String.toList_intercalate, List.map_map]
    simp [Lexeme.mark, Lexeme.chars, Function.comp_def]
  have htrimmed : Text.IsTrimmed (creationSql schema).toList :=
    toList_creationSql schema ▸ isTrimmed_of_lead head_creationLead _
  have hchain : Chain (creationLead ++ .mark '(' [] :: (columns ++ [Lexeme.mark ')' []])) [] := by
    have hclose : Chain [Lexeme.mark ')' []] [] :=
      ⟨Lexeme.stands_mark (by simp) (.inl rfl), trivial⟩
    have hlisted : Chain columns [')'] := by
      rw [hcolumns]
      refine chain_listed chars_declaration ?_ ?_ ?_
      · intro column _
        exact ⟨'"', _, by simp [quotedName]; rfl, by decide⟩
      · exact fun column hc tail => chain_declaration (h column hc) (by decide) tail
      · exact fun column hc => chain_declaration (h column hc) (by decide) []
    exact Chain.append (chain_creationLead _)
      ⟨Lexeme.stands_mark (by simp) (.inl rfl), Chain.append hlisted hclose⟩
  have hfixed : ∀ lexeme ∈ creationLead ++ .mark '(' [] :: (columns ++ [Lexeme.mark ')' []]),
      lexeme.Fixed := by
    have hlisted : ∀ lexeme ∈ columns, lexeme.Fixed := by
      rw [hcolumns]
      exact forall_mem_listed (Lexeme.fixed_mark (by decide) (by decide))
        (fun column hc => fixed_declaration (h column hc))
        (fun column hc => fixed_declaration (h column hc))
    simp only [List.forall_mem_append, List.forall_mem_cons]
    exact ⟨fixed_creationLead, Lexeme.fixed_mark (by decide) (by decide), hlisted,
      Lexeme.fixed_mark (by decide) (by decide), by simp⟩
  rw [ofText?_fixed hchars htrimmed hchain hfixed, ofLexemes?_creation, hcolumns,
    takeParenthesized_listed
      (fun column _ tail => takeDeclaration_declaration column rfl (by simp [Lexeme.mark]) tail)
      (fun column _ => takeDeclaration_declaration column rfl (by simp [Lexeme.mark]) []) hne]
  rfl

/-! The insertion of a row. -/

def columnName (name : String) (gap : List Char) : List Lexeme := [.quoted name gap]

def placeholder {α : Type} (_ : α) (gap : List Char) : List Lexeme := [.parameter 0 gap]

def numberedPlaceholder (index : Nat) (gap : List Char) : List Lexeme := [.parameter index gap]

theorem chars_columnName (name : String) (gap : List Char) :
    (columnName name gap).flatMap Lexeme.chars = (quotedName name).toList ++ gap := by
  simp [columnName, Lexeme.chars, Lexeme.quoted, quotedName]

theorem chars_placeholder {α : Type} (a : α) (gap : List Char) :
    (placeholder a gap).flatMap Lexeme.chars = ['?'] ++ gap := by
  simp [placeholder, Lexeme.chars, Lexeme.parameter]

theorem chain_columnName {name : String} (h : isPlainName name.toList = true) {c : Char}
    (hc : c ≠ '"') (rest : List Char) : Chain (columnName name []) (c :: rest) :=
  ⟨Lexeme.stands_quoted (not_mem_plain h (by decide)) (by simpa using hc) (.inl rfl), trivial⟩

theorem chain_placeholder {α : Type} (a : α) (rest : List Char) : Chain (placeholder a []) rest :=
  ⟨Lexeme.stands_parameter (.inl rfl), trivial⟩

/-- The parameters get their numbers in turn. -/
theorem numbered_listed_placeholder {α : Type} (as : List α) (n : Nat) {rest : List Lexeme}
    (hrest : ∀ n, numbered n rest = rest) :
    numbered n (listed placeholder [] as ++ rest) =
      listed numberedPlaceholder [] (List.range' n as.length) ++ rest := by
  induction as generalizing n with
  | nil => exact hrest n
  | cons a as ih =>
    cases as with
    | nil => simp [listed, placeholder, numberedPlaceholder, numbered, Lexeme.parameter, hrest]
    | cons b as =>
      have htail := ih (n + 1)
      simp only [listed, placeholder, numberedPlaceholder, List.length_cons, List.range'_succ,
        List.cons_append, List.nil_append, Lexeme.parameter, Lexeme.mark, numbered] at htail ⊢
      rw [htail]

/-- The lexemes of an insertion up to its parameters. -/
def insertionFront (names : List String) : List Lexeme :=
  insertionLead ++ .mark '(' [] :: (listed columnName [] names ++
    [.mark ')' [' '], .name "VALUES" [' '], .mark '(' []])

theorem fixed_insertionFront {names : List String}
    (h : ∀ name ∈ names, isPlainName name.toList = true) :
    ∀ lexeme ∈ insertionFront names, lexeme.Fixed := by
  have hlead : ∀ lexeme ∈ insertionLead, lexeme.Fixed := by
    intro lexeme hl
    simp only [insertionLead, List.mem_cons, List.not_mem_nil, or_false] at hl
    rcases hl with rfl | rfl | rfl <;> exact Lexeme.fixed_name (by decide) (by decide)
  have hname : ∀ name ∈ names, ∀ lexeme ∈ columnName name [], lexeme.Fixed := by
    intro name hn lexeme hl
    rw [List.mem_singleton.1 hl]
    exact Lexeme.fixed_quoted (h name hn) (by decide)
  have hlisted := forall_mem_listed (Lexeme.fixed_mark (by decide) (by decide)) hname hname
  simp only [insertionFront, List.forall_mem_append, List.forall_mem_cons]
  exact ⟨hlead, Lexeme.fixed_mark (by decide) (by decide), hlisted,
    Lexeme.fixed_mark (by decide) (by decide), Lexeme.fixed_name (by decide) (by decide),
    Lexeme.fixed_mark (by decide) (by decide), by simp⟩

theorem chain_insertionFront {names : List String}
    (h : ∀ name ∈ names, isPlainName name.toList = true) (rest : List Char) :
    Chain (insertionFront names) rest := by
  have hlisted : ∀ tail, Chain (listed columnName [] names) (')' :: tail) := by
    intro tail
    refine chain_listed chars_columnName ?_ ?_ ?_
    · intro name _
      exact ⟨'"', _, by simp [quotedName]; rfl, by decide⟩
    · exact fun name hn tail => chain_columnName (h name hn) (by decide) tail
    · exact fun name hn => chain_columnName (h name hn) (by decide) tail
  refine Chain.append (chain_insertionLead _)
    ⟨Lexeme.stands_mark (by simp) (.inl rfl), Chain.append (hlisted _) ⟨?_, ?_, ?_, trivial⟩⟩
  · exact Lexeme.stands_mark (by simp) (.inr ⟨rfl, rfl⟩)
  · exact Lexeme.stands_name (by decide) rfl (.inr ⟨rfl, rfl⟩)
  · exact Lexeme.stands_mark (by simp) (.inl rfl)

theorem ofLexemes?_insertionFront {names : List String} (hne : names ≠ []) {indices : List Nat}
    (hindices : indices ≠ []) :
    Command.ofLexemes? (insertionFront names ++
        (listed numberedPlaceholder [] indices ++ [Lexeme.mark ')' []])) =
      some (.insert readerTable (some names) [indices.map Operand.parameter]) := by
  obtain ⟨row, hrow⟩ : ∃ row, row = Lexeme.mark '(' [] ::
      (listed numberedPlaceholder [] indices ++ [Lexeme.mark ')' []]) := ⟨_, rfl⟩
  have hsplit : insertionFront names ++
      (listed numberedPlaceholder [] indices ++ [Lexeme.mark ')' []]) =
      insertionLead ++ .mark '(' [] :: (listed columnName [] names ++
        .mark ')' [' '] :: .name "VALUES" [' '] :: row) := by
    simp [insertionFront, hrow]
  have hcolumns := @takeParenthesized_listed _ _ columnName (takeName []) id names
    (.name "VALUES" [' '] :: row) [' '] (fun _ _ _ => rfl) (fun _ _ => rfl) hne
  have hvalues : takeWord "values" (.name "VALUES" [' '] :: row) = some row := rfl
  have hparameters : takeParenthesized takeOperand row =
      some (indices.map Operand.parameter, []) := by
    rw [hrow]
    exact takeParenthesized_listed (fun _ _ _ => rfl) (fun _ _ => rfl) hindices
  have hrows : takeList (takeParenthesized takeOperand) row.length row =
      some ([indices.map Operand.parameter], []) := by
    obtain ⟨fuel, hfuel⟩ : ∃ fuel, row.length = fuel + 1 := ⟨_, by rw [hrow]; rfl⟩
    simp [hfuel, takeList, hparameters, takeMark]
  rw [hsplit, ofLexemes?_insertion, hcolumns]
  simp only [Option.bind_some, hvalues, hrows, Option.map_some, List.map_id]
  rfl

theorem ofText?_insertionSql_plain {names : List String} (hne : names ≠ [])
    (h : ∀ name ∈ names, isPlainName name.toList = true) :
    Command.ofText? (insertionSql names) = some (.insert readerTable (some names)
      [(List.range' 0 names.length).map Operand.parameter]) := by
  have hchars : (insertionSql names).toList = (insertionFront names ++
      (listed placeholder [] names ++ [Lexeme.mark ')' []])).flatMap Lexeme.chars := by
    rw [toList_insertionSql, insertionFront]
    simp only [List.flatMap_append, List.flatMap_cons, chars_listed chars_columnName [] hne,
      chars_listed chars_placeholder [] hne, String.toList_append, String.toList_intercalate,
      List.map_map]
    simp [Lexeme.mark, Lexeme.name, Lexeme.chars, Function.comp_def]
  have htrimmed : Text.IsTrimmed (insertionSql names).toList :=
    toList_insertionSql names ▸ isTrimmed_of_lead head_insertionLead _
  have hchain : Chain (insertionFront names ++
      (listed placeholder [] names ++ [Lexeme.mark ')' []])) [] := by
    have hlisted : Chain (listed placeholder [] names) [')'] :=
      chain_listed chars_placeholder (fun _ _ => ⟨'?', [], rfl, by decide⟩)
        (fun name _ _ => chain_placeholder name _) (fun name _ => chain_placeholder name _)
    exact Chain.append (chain_insertionFront h _)
      (Chain.append hlisted ⟨Lexeme.stands_mark (by simp) (.inl rfl), trivial⟩)
  have hnull : ∀ lexeme ∈ insertionFront names ++
      (listed placeholder [] names ++ [Lexeme.mark ')' []]), '\x00' ∉ lexeme.chars := by
    have hplaceholder : ∀ name ∈ names, ∀ lexeme ∈ placeholder name [], '\x00' ∉ lexeme.chars := by
      intro name _ lexeme hl
      rw [List.mem_singleton.1 hl]
      decide
    simp only [List.forall_mem_append, List.forall_mem_cons]
    exact ⟨fun lexeme hl => (fixed_insertionFront h lexeme hl).1,
      forall_mem_listed (by decide) hplaceholder hplaceholder, by decide, by simp⟩
  have hindices : List.range' 0 names.length ≠ [] := by simpa using hne
  rw [ofText?_chars hchars htrimmed hchain hnull, numbered_append (fixed_insertionFront h),
    numbered_listed_placeholder names 0 fun _ => rfl, ofLexemes?_insertionFront hne hindices]

end Embedded

end FluentQuery
