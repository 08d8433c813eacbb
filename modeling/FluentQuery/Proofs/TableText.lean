import FluentQuery.Proofs.TableForms

/-!
Reading tables from text. Main statements: a text is read as the table of its form, and as raw text
where it has none; the text of a table is read as that table just where none of its fields holds a
character that would end it.
-/
namespace FluentQuery.Table

theorem ofText_cases (s : String) :
    (∃ form : Form, form.chars = Text.trimmed s.toList ∧ ofText s = form.table) ∨
      (∀ form : Form, form.chars ≠ Text.trimmed s.toList) ∧ ofText s = raw s := by
  by_cases hreader : isReaderText (Text.trimmed s.toList) = true
  · obtain ⟨form, hform⟩ := isReaderText_iff.1 hreader
    exact .inl ⟨.reader form, hform, by simp [ofText, hreader, Form.table]⟩
  · cases hfile : fileOfChars? (Text.trimmed s.toList) with
    | some t =>
      obtain ⟨form, hform, rfl⟩ := fileOfChars?_eq_some_iff.1 hfile
      exact .inl ⟨.file form, hform, by simp [ofText, hreader, hfile, Form.table]⟩
    | none =>
      cases hremote : remoteOfChars? (Text.trimmed s.toList) with
      | some t =>
        obtain ⟨form, hform, rfl⟩ := remoteOfChars?_eq_some_iff.1 hremote
        exact .inl ⟨.remote form, hform, by simp [ofText, hreader, hfile, hremote, Form.table]⟩
      | none =>
        refine .inr ⟨fun form hform => ?_, by simp [ofText, hreader, hfile, hremote]⟩
        cases form with
        | reader form => exact hreader (isReaderText_iff.2 ⟨form, hform⟩)
        | file form =>
          rw [fileOfChars?_eq_some_iff.2 ⟨form, hform, rfl⟩] at hfile
          cases hfile
        | remote form =>
          rw [remoteOfChars?_eq_some_iff.2 ⟨form, hform, rfl⟩] at hremote
          cases hremote

theorem ofText_of_form {s : String} {form : Form} (h : form.chars = Text.trimmed s.toList) :
    ofText s = form.table := by
  rcases ofText_cases s with ⟨other, hother, hread⟩ | ⟨hnone, -⟩
  · rw [hread, Form.chars_injective (hother.trans h.symm)]
  · exact absurd h (hnone form)

theorem ofText_eq_iff {s : String} {t : Table} (ht : ∀ text, t ≠ raw text) :
    ofText s = t ↔ ∃ form : Form, form.chars = Text.trimmed s.toList ∧ form.table = t := by
  constructor
  · intro h
    rcases ofText_cases s with ⟨form, hform, hread⟩ | ⟨-, hread⟩
    · exact ⟨form, hform, hread.symm.trans h⟩
    · exact absurd (h.symm.trans hread) (ht s)
  · rintro ⟨form, hform, rfl⟩
    exact ofText_of_form hform

theorem Form.exists_iff {p : Form → Prop} : (∃ form, p form) ↔
    (∃ form, p (.reader form)) ∨ (∃ form, p (.file form)) ∨ ∃ form, p (.remote form) := by
  constructor
  · rintro ⟨form, h⟩
    cases form with
    | reader form => exact .inl ⟨form, h⟩
    | file form => exact .inr (.inl ⟨form, h⟩)
    | remote form => exact .inr (.inr ⟨form, h⟩)
  · rintro (⟨form, h⟩ | ⟨form, h⟩ | ⟨form, h⟩) <;> exact ⟨_, h⟩

theorem ofText_eq_reader_iff (s : String) :
    ofText s = reader none ↔ ∃ form : ReaderForm, form.chars = Text.trimmed s.toList := by
  rw [ofText_eq_iff (by simp), Form.exists_iff]
  simp [Form.table, Form.chars]

theorem ofText_eq_file_iff (s : String) (t : FileTable) : ofText s = file t ↔
    ∃ form : FileForm, form.chars = Text.trimmed s.toList ∧ form.table = t := by
  rw [ofText_eq_iff (by simp), Form.exists_iff]
  simp [Form.table, Form.chars]

theorem ofText_eq_remote_iff (s : String) (t : RemoteTable) : ofText s = remote t ↔
    ∃ form : RemoteForm, form.chars = Text.trimmed s.toList ∧ form.remoteTable = t := by
  rw [ofText_eq_iff (by simp), Form.exists_iff]
  simp [Form.table, Form.chars]

theorem ofText_eq_raw_iff (s : String) :
    ofText s = raw s ↔ ∀ form : Form, form.chars ≠ Text.trimmed s.toList := by
  constructor
  · intro h form hform
    rw [ofText_of_form hform] at h
    cases form <;> cases h
  · intro hnone
    rcases ofText_cases s with ⟨form, hform, -⟩ | ⟨-, hread⟩
    · exact absurd hform (hnone form)
    · exact hread

/-! A form stands without blanks around it, and each table has one if its fields are plain. -/

theorem Field.suffix_written (field : Field) (label rest : List Char) :
    rest <:+ field.written label rest :=
  ⟨',' :: (field.gap ++ (label ++ '\'' :: (field.content ++ ['\'']))), by simp [written, quoted]⟩

theorem suffix_schemaChars (schema : Option Field) : [')'] <:+ schemaChars schema := by
  cases schema with
  | none => exact List.suffix_refl _
  | some schema => exact schema.suffix_written _ _

theorem RemoteForm.suffix_fieldChars (form : RemoteForm) : [')'] <:+ form.fieldChars :=
  (suffix_schemaChars form.schema).trans <| (form.password.suffix_written _ _).trans <|
    (form.user.suffix_written _ _).trans <| (form.table.suffix_written _ _).trans <|
      form.database.suffix_written _ _

theorem Form.suffix_chars (form : Form) : [')'] <:+ form.chars := by
  cases form with
  | reader form => exact ⟨"Python(".toList ++ form.argument, List.append_assoc _ _ _⟩
  | file form =>
    refine (form.format.suffix_written [] [')']).trans ?_
    exact ⟨"file(".toList ++ '\'' :: (form.path ++ ['\'']), by
      simp only [chars, FileForm.chars, quoted, List.append_assoc, List.cons_append,
        List.nil_append]⟩
  | remote form =>
    have hserver : form.fieldChars <:+ form.serverChars :=
      ⟨form.host ++ ':' :: (form.digits ++ ['\'']), by simp [RemoteForm.serverChars]⟩
    exact (form.suffix_fieldChars.trans hserver).trans (List.suffix_append _ _)

theorem Form.head_chars (form : Form) :
    ∃ c rest, form.chars = c :: rest ∧ Text.isBlank c = false := by
  cases form with
  | reader form => exact ⟨'P', _, rfl, by decide⟩
  | file form => exact ⟨'f', _, rfl, by decide⟩
  | remote form => exact ⟨'p', _, rfl, by decide⟩

theorem Form.isTrimmed_chars (form : Form) : Text.IsTrimmed form.chars := by
  constructor
  · obtain ⟨first, rest, hform, hfirst⟩ := form.head_chars
    intro c hc
    rw [hform] at hc
    cases hc
    exact hfirst
  · obtain ⟨front, hfront⟩ := form.suffix_chars
    intro c hc
    rw [← hfront, List.getLast?_append] at hc
    cases hc
    decide

theorem ofText_of_chars {s : String} {form : Form} (h : form.chars = s.toList) :
    ofText s = form.table :=
  ofText_of_form (by rw [← h, Text.trimmed_eq_self form.isTrimmed_chars])

def Field.ofText (content : String) (h : '\'' ∉ content.toList) : Field :=
  ⟨[' '], content.toList, by simp; decide, h⟩

end FluentQuery.Table

namespace FluentQuery

structure FileTable.Plain (t : FileTable) : Prop where
  path : '\'' ∉ t.path.toList
  format : '\'' ∉ t.format.toList

/-- No field holds a quote, and the host no colon either. -/
structure RemoteTable.Plain (t : RemoteTable) : Prop where
  host : '\'' ∉ t.host.toList
  host_colon : ':' ∉ t.host.toList
  database : '\'' ∉ t.database.toList
  table : '\'' ∉ t.table.toList
  user : '\'' ∉ t.user.toList
  password : '\'' ∉ t.password.toList
  schema : ∀ schema ∈ t.schema, '\'' ∉ schema.toList

namespace Table

theorem FileForm.plain_table (form : FileForm) : form.table.Plain :=
  ⟨by simpa [table] using form.path_plain, by simpa [table] using form.format.content_plain⟩

theorem RemoteForm.plain_remoteTable (form : RemoteForm) : form.remoteTable.Plain where
  host := by simpa [remoteTable] using form.host_plain
  host_colon := by simpa [remoteTable] using form.host_colon
  database := by simpa [remoteTable] using form.database.content_plain
  table := by simpa [remoteTable] using form.table.content_plain
  user := by simpa [remoteTable] using form.user.content_plain
  password := by simpa [remoteTable] using form.password.content_plain
  schema := by
    intro schema hs
    obtain ⟨field, -, rfl⟩ := Option.map_eq_some_iff.1 hs
    simpa using field.content_plain

def FileForm.ofTable (t : FileTable) (h : t.Plain) : FileForm :=
  ⟨t.path.toList, .ofText t.format h.format, h.path⟩

theorem FileForm.chars_ofTable {t : FileTable} (h : t.Plain) :
    (ofTable t h).chars = t.sql.toList := by
  simp [ofTable, chars, FileTable.sql, singleQuoted, Field.ofText, Field.written, quoted]

theorem FileForm.table_ofTable {t : FileTable} (h : t.Plain) : (ofTable t h).table = t := by
  simp [ofTable, table, Field.ofText]

theorem ofText_file_sql {t : FileTable} (h : t.Plain) : ofText t.sql = file t := by
  rw [@ofText_of_chars t.sql (.file (.ofTable t h)) (FileForm.chars_ofTable h), Form.table,
    FileForm.table_ofTable]

theorem portOf_toDigits (n : Nat) : portOf (Nat.toDigits 10 n) = n :=
  Nat.ofDigitChars_toDigits (by decide) (by decide)

theorem map_content_pmap (schema : Option String) (h : ∀ s ∈ schema, '\'' ∉ s.toList) :
    (schema.pmap Field.ofText h).map (fun field => String.ofList field.content) = schema := by
  cases schema <;> simp [Field.ofText]

def schemaText : Option String → String
  | some schema => ", schema=" ++ singleQuoted schema
  | none => ""

theorem sql_remote (t : RemoteTable) :
    t.sql = "postgresql(" ++ singleQuoted (t.host ++ ":" ++ naturalText t.port.toNat) ++ ", " ++
      singleQuoted t.database ++ ", " ++ singleQuoted t.table ++ ", " ++ singleQuoted t.user ++
      ", " ++ singleQuoted t.password ++ schemaText t.schema ++ ")" := rfl

theorem schemaChars_pmap (schema : Option String) (h : ∀ s ∈ schema, '\'' ∉ s.toList) :
    schemaChars (schema.pmap Field.ofText h) = (schemaText schema).toList ++ [')'] := by
  cases schema with
  | none => rfl
  | some schema =>
    simp [schemaChars, schemaText, Field.ofText, Field.written, quoted, singleQuoted]

theorem portOf_toDigits_le (port : UInt16) : portOf (Nat.toDigits 10 port.toNat) ≤ 65535 := by
  rw [portOf_toDigits]
  exact Nat.le_of_lt_succ port.toNat_lt

def RemoteForm.ofTable (t : RemoteTable) (h : t.Plain) : RemoteForm where
  host := t.host.toList
  digits := Nat.toDigits 10 t.port.toNat
  database := .ofText t.database h.database
  table := .ofText t.table h.table
  user := .ofText t.user h.user
  password := .ofText t.password h.password
  schema := t.schema.pmap Field.ofText h.schema
  host_plain := h.host
  host_colon := h.host_colon
  digits_ne_nil := Nat.toDigits_ne_nil
  digits_isDigit := fun _ hd => Nat.isDigit_of_mem_toDigits (by decide) (by decide) hd
  port_le := portOf_toDigits_le t.port

theorem RemoteForm.chars_ofTable {t : RemoteTable} (h : t.Plain) :
    (ofTable t h).chars = t.sql.toList := by
  have hlead : lead = "postgresql(".toList ++ ['\''] := rfl
  rw [chars, hlead, sql_remote]
  generalize "postgresql(" = name
  simp [ofTable, serverChars, fieldChars, schemaChars_pmap, singleQuoted, naturalText,
    Field.ofText, Field.written, quoted]

theorem RemoteForm.remoteTable_ofTable {t : RemoteTable} (h : t.Plain) :
    (ofTable t h).remoteTable = t := by
  simp [ofTable, remoteTable, Field.ofText, portOf_toDigits, map_content_pmap]

theorem ofText_remote_sql {t : RemoteTable} (h : t.Plain) : ofText t.sql = remote t := by
  rw [@ofText_of_chars t.sql (.remote (.ofTable t h)) (RemoteForm.chars_ofTable h), Form.table,
    RemoteForm.remoteTable_ofTable]

def ReaderForm.named : ReaderForm := ⟨"reader".toList, by simp [Text.isWord]⟩

theorem ofText_readerFunction : ofText readerFunction = reader none :=
  @ofText_of_chars readerFunction (.reader .named) rfl

/-- What was read is read again from its own text, which may be written in another form. -/
theorem ofText_sql_ofText (s : String) : ofText (ofText s).sql = ofText s := by
  rcases ofText_cases s with ⟨form, -, hread⟩ | ⟨-, hread⟩
  · rw [hread]
    cases form with
    | reader form => exact ofText_readerFunction
    | file form => exact ofText_file_sql form.plain_table
    | remote form => exact ofText_remote_sql form.plain_remoteTable
  · rw [hread]
    exact hread

/-- A table is read back from its text just where its fields are plain. -/
theorem ofText_sql_iff :
    (∀ t : FileTable, ofText t.sql = file t ↔ '\'' ∉ t.path.toList ∧ '\'' ∉ t.format.toList) ∧
    ∀ t : RemoteTable, ofText t.sql = remote t ↔
      ('\'' ∉ t.host.toList ∧ ':' ∉ t.host.toList) ∧ '\'' ∉ t.database.toList ∧
        '\'' ∉ t.table.toList ∧ '\'' ∉ t.user.toList ∧ '\'' ∉ t.password.toList ∧
          ∀ schema ∈ t.schema, '\'' ∉ schema.toList := by
  refine ⟨fun t => ⟨fun h => ?_, fun h => ofText_file_sql ⟨h.1, h.2⟩⟩,
    fun t => ⟨fun h => ?_, fun ⟨⟨hhost, hcolon⟩, hdatabase, htable, huser, hpassword, hschema⟩ =>
      ofText_remote_sql ⟨hhost, hcolon, hdatabase, htable, huser, hpassword, hschema⟩⟩⟩
  · obtain ⟨form, -, rfl⟩ := (ofText_eq_file_iff _ _).1 h
    exact ⟨form.plain_table.path, form.plain_table.format⟩
  · obtain ⟨form, -, rfl⟩ := (ofText_eq_remote_iff _ _).1 h
    have hplain := form.plain_remoteTable
    exact ⟨⟨hplain.host, hplain.host_colon⟩, hplain.database, hplain.table, hplain.user,
      hplain.password, hplain.schema⟩

/-- A text is a table function just where it is of that function's form, and the table has the
fields of the form; every other text is raw, as it is. No text has two forms, and a table that was
read is read again from its own text. -/
theorem ofText_iff_form (s : String) :
    (ofText s = reader none ↔ ∃ form : ReaderForm, form.chars = Text.trimmed s.toList) ∧
    (∀ t, ofText s = file t ↔
      ∃ form : FileForm, form.chars = Text.trimmed s.toList ∧ form.table = t) ∧
    (∀ t, ofText s = remote t ↔
      ∃ form : RemoteForm, form.chars = Text.trimmed s.toList ∧ form.remoteTable = t) ∧
    (ofText s = raw s ↔ ∀ form : Form, form.chars ≠ Text.trimmed s.toList) ∧
    (∀ a b : Form, a.chars = Text.trimmed s.toList → b.chars = Text.trimmed s.toList → a = b) ∧
    ofText (ofText s).sql = ofText s :=
  ⟨ofText_eq_reader_iff s, ofText_eq_file_iff s, ofText_eq_remote_iff s, ofText_eq_raw_iff s,
    fun _ _ ha hb => Form.chars_injective (ha.trans hb.symm), ofText_sql_ofText s⟩

example : ofText " postgresql('h:0080','d',  't','u','p')" =
    remote ⟨"h", 80, "d", "t", "u", "p", none⟩ := by decide +kernel

end Table

end FluentQuery
