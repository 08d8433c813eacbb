import FluentQuery.Table.Grammar
import Mathlib.Data.List.TakeDrop

/-!
The forms in which table functions are written. Main statements: a reader of table functions answers
just where its text is of a form, and then with the table of that form; no text has two forms.
-/
namespace FluentQuery.Table

/-! Parts of a form, each in front of the rest of the text. -/

/-- A run of characters that ends where the first other one stands. -/
theorem span_eq_iff {p : Char → Bool} {cs run rest : List Char} {c : Char} :
    cs.span p = (run, c :: rest) ↔
      (∀ x ∈ run, p x = true) ∧ p c = false ∧ cs = run ++ c :: rest := by
  rw [List.span_eq_takeWhile_dropWhile]
  constructor
  · intro h
    obtain ⟨hrun, hrest⟩ := Prod.mk.inj h
    have hall : run.all p = true := hrun ▸ List.all_takeWhile
    have hfirst := List.head?_dropWhile_not p cs
    rw [hrest] at hfirst
    refine ⟨List.all_eq_true.1 hall, hfirst, ?_⟩
    rw [← hrun, ← hrest, List.takeWhile_append_dropWhile]
  · rintro ⟨hrun, hc, rfl⟩
    rw [List.takeWhile_append_of_pos hrun, List.dropWhile_append_of_pos hrun]
    simp [hc]

def quoted (content rest : List Char) : List Char := '\'' :: (content ++ '\'' :: rest)

theorem takeQuoted_eq_some_iff {cs content rest : List Char} :
    takeQuoted cs = some (content, rest) ↔ '\'' ∉ content ∧ cs = quoted content rest := by
  have hplain : (∀ c ∈ content, decide (c ≠ '\'') = true) ↔ '\'' ∉ content := by
    simp only [decide_eq_true_eq]
    exact ⟨fun h hm => h _ hm rfl, fun h c hc he => h (he ▸ hc)⟩
  constructor
  · intro h
    unfold takeQuoted at h
    split at h
    · next cs =>
      split at h
      · next content' c rest' hspan =>
        cases h
        obtain ⟨hcontent, hc, rfl⟩ := span_eq_iff.1 hspan
        exact ⟨hplain.1 hcontent, by simpa [quoted] using hc⟩
      · cases h
    · cases h
  · rintro ⟨hcontent, rfl⟩
    have hspan : (content ++ '\'' :: rest).span (fun c => decide (c ≠ '\'')) =
        (content, '\'' :: rest) := span_eq_iff.2 ⟨hplain.2 hcontent, by decide, rfl⟩
    simp only [quoted, takeQuoted, hspan]

structure Field where
  gap : List Char
  content : List Char
  gap_blank : ∀ c ∈ gap, Text.isBlank c = true
  content_plain : '\'' ∉ content

def Field.written (field : Field) (label rest : List Char) : List Char :=
  ',' :: (field.gap ++ (label ++ quoted field.content rest))

def takeLabelled (label cs : List Char) : Option (List Char × List Char) := do
  takeQuoted (← Text.afterLead label (← afterComma cs))

theorem takeField_eq (cs : List Char) : takeField cs = takeLabelled [] cs := rfl

section Label

variable {label : List Char} (hlabel : ∀ c ∈ label.head?, Text.isBlank c = false)

include hlabel

theorem afterComma_written (field : Field) (rest : List Char) :
    afterComma (field.written label rest) = some (label ++ quoted field.content rest) := by
  have hfirst : ∀ c ∈ (label ++ quoted field.content rest).head?, Text.isBlank c = false := by
    cases label with
    | nil =>
      rintro c ⟨⟩
      decide
    | cons l label =>
      rintro c ⟨⟩
      exact hlabel _ rfl
  have htrim := Text.trimFront_eq_self hfirst
  rw [Text.trimFront] at htrim
  rw [Field.written, afterComma, Text.trimFront, List.dropWhile_append_of_pos field.gap_blank,
    htrim]

theorem takeLabelled_written (field : Field) (rest : List Char) :
    takeLabelled label (field.written label rest) = some (field.content, rest) := by
  have hquoted := takeQuoted_eq_some_iff.2 ⟨field.content_plain, Eq.refl (quoted _ rest)⟩
  simp [takeLabelled, afterComma_written hlabel, hquoted]

/-- What stands at the front of a text as one field stands there as no other. -/
theorem Field.written_injective {a b : Field} {rest rest' : List Char}
    (h : a.written label rest = b.written label rest') : a = b ∧ rest = rest' := by
  have hcontent := takeLabelled_written hlabel a rest
  rw [h, takeLabelled_written hlabel] at hcontent
  obtain ⟨hcontent, hrest⟩ := Prod.mk.inj (Option.some.inj hcontent)
  simp only [written, hcontent, hrest, List.cons.injEq, true_and] at h
  have hgap := List.append_cancel_right h
  obtain ⟨gap, content, _, _⟩ := a
  cases hgap
  cases hcontent
  exact ⟨rfl, hrest.symm⟩

end Label

theorem exists_gap {cs rest : List Char} (h : afterComma cs = some rest) :
    ∃ gap, (∀ c ∈ gap, Text.isBlank c = true) ∧ cs = ',' :: (gap ++ rest) := by
  unfold afterComma at h
  split at h
  · next cs =>
    cases h
    exact ⟨cs.takeWhile Text.isBlank, List.all_eq_true.1 List.all_takeWhile,
      congrArg _ List.takeWhile_append_dropWhile.symm⟩
  · cases h

theorem exists_field {label cs content rest : List Char}
    (h : takeLabelled label cs = some (content, rest)) :
    ∃ field : Field, field.content = content ∧ cs = field.written label rest := by
  simp only [takeLabelled, Option.bind_eq_bind, Option.bind_eq_some_iff] at h
  obtain ⟨labelled, hcomma, quotedPart, hlead, hquoted⟩ := h
  obtain ⟨gap, hgap, rfl⟩ := exists_gap hcomma
  obtain ⟨hcontent, rfl⟩ := takeQuoted_eq_some_iff.1 hquoted
  exact ⟨⟨gap, content, hgap, hcontent⟩, rfl,
    by rw [Field.written, Text.afterLead_eq_some_iff.1 hlead]⟩

theorem takeField_written (field : Field) (rest : List Char) :
    takeField (field.written [] rest) = some (field.content, rest) :=
  takeLabelled_written (by simp) field rest

theorem takeField_eq_some_iff {cs content rest : List Char} :
    takeField cs = some (content, rest) ↔
      ∃ field : Field, field.content = content ∧ cs = field.written [] rest := by
  constructor
  · intro h
    exact exists_field ((takeField_eq cs).symm.trans h)
  · rintro ⟨field, rfl, rfl⟩
    exact takeField_written field rest

def portOf (digits : List Char) : Nat := Nat.ofDigitChars 10 digits 0

theorem takePort_eq_some_iff {cs rest : List Char} {port : UInt16} {c : Char}
    (hc : c.isDigit = false) :
    takePort cs = some (port, c :: rest) ↔ ∃ digits, digits ≠ [] ∧
      (∀ d ∈ digits, d.isDigit = true) ∧ portOf digits ≤ 65535 ∧
        port = UInt16.ofNat (portOf digits) ∧ cs = digits ++ c :: rest := by
  constructor
  · intro h
    unfold takePort at h
    split at h
    next digits rest' hspan =>
    dsimp only at h
    split at h
    · cases h
    · next hport =>
      cases h
      obtain ⟨hdigits, -, rfl⟩ := span_eq_iff.1 hspan
      simp only [Bool.or_eq_true, List.isEmpty_iff, decide_eq_true_eq, not_or, Nat.not_lt] at hport
      exact ⟨digits, hport.1, hdigits, hport.2, rfl, rfl⟩
  · rintro ⟨digits, hne, hdigits, hport, rfl, rfl⟩
    have hspan : (digits ++ c :: rest).span Char.isDigit = (digits, c :: rest) :=
      span_eq_iff.2 ⟨hdigits, hc, rfl⟩
    have hsome : ¬ (digits.isEmpty || decide (65535 < portOf digits)) = true := by
      simpa using ⟨hne, hport⟩
    simp only [takePort, hspan]
    exact if_neg hsome

/-! The forms. -/

/-- `Python(word)`. -/
structure ReaderForm where
  argument : List Char
  argument_word : ∀ c ∈ argument, Text.isWord c = true

def ReaderForm.chars (form : ReaderForm) : List Char :=
  "Python(".toList ++ (form.argument ++ [')'])

/-- `file('path', 'format')`. -/
structure FileForm where
  path : List Char
  format : Field
  path_plain : '\'' ∉ path

namespace FileForm

def chars (form : FileForm) : List Char :=
  "file(".toList ++ quoted form.path (form.format.written [] [')'])

def table (form : FileForm) : FileTable :=
  ⟨String.ofList form.path, String.ofList form.format.content⟩

end FileForm

/-- `postgresql('host:digits', 'database', 'table', 'user', 'password')`, with `schema='schema'` as
a last field or without it. -/
structure RemoteForm where
  host : List Char
  digits : List Char
  database : Field
  table : Field
  user : Field
  password : Field
  schema : Option Field
  host_plain : '\'' ∉ host
  host_colon : ':' ∉ host
  digits_ne_nil : digits ≠ []
  digits_isDigit : ∀ c ∈ digits, c.isDigit = true
  port_le : portOf digits ≤ 65535

theorem label_schema : ∀ c ∈ "schema=".toList.head?, Text.isBlank c = false := by
  rintro c ⟨⟩
  decide

def schemaChars : Option Field → List Char
  | none => [')']
  | some schema => schema.written "schema=".toList [')']

namespace RemoteForm

def fieldChars (form : RemoteForm) : List Char :=
  form.database.written [] (form.table.written [] (form.user.written []
    (form.password.written [] (schemaChars form.schema))))

def lead : List Char := "postgresql('".toList

def serverChars (form : RemoteForm) : List Char :=
  form.host ++ ':' :: (form.digits ++ '\'' :: form.fieldChars)

def chars (form : RemoteForm) : List Char := lead ++ form.serverChars

/-- The remote table; zeros at the front of its port do not count. -/
def remoteTable (form : RemoteForm) : RemoteTable where
  host := String.ofList form.host
  port := UInt16.ofNat (portOf form.digits)
  database := String.ofList form.database.content
  table := String.ofList form.table.content
  user := String.ofList form.user.content
  password := String.ofList form.password.content
  schema := form.schema.map fun schema => String.ofList schema.content

end RemoteForm

inductive Form where
  | reader (form : ReaderForm)
  | file (form : FileForm)
  | remote (form : RemoteForm)

namespace Form

def chars : Form → List Char
  | reader form => form.chars
  | file form => form.chars
  | remote form => form.chars

def table : Form → Table
  | reader _ => .reader none
  | file form => .file form.table
  | remote form => .remote form.remoteTable

end Form

/-! What is read of each form, and of which texts. -/

theorem isReaderText_iff {cs : List Char} :
    isReaderText cs = true ↔ ∃ form : ReaderForm, form.chars = cs := by
  constructor
  · intro h
    unfold isReaderText at h
    split at h
    · next argument hlead =>
      have hargument := @List.takeWhile_append_dropWhile _ Text.isWord argument
      rw [eq_of_beq h] at hargument
      refine ⟨⟨argument.takeWhile Text.isWord, fun c hc => ?_⟩, ?_⟩
      · exact List.all_eq_true.1 List.all_takeWhile c hc
      · exact (congrArg _ hargument).trans (Text.afterLead_eq_some_iff.1 hlead).symm
    · cases h
  · rintro ⟨form, rfl⟩
    have hend : (form.argument ++ [')']).dropWhile Text.isWord = [')'] := by
      rw [List.dropWhile_append_of_pos form.argument_word]
      simp [Text.isWord]
    have hlead := Text.afterLead_append "Python(".toList (form.argument ++ [')'])
    unfold isReaderText ReaderForm.chars
    simp only [hlead, hend]
    rfl

theorem fileOfChars?_eq_some_iff {cs : List Char} {t : FileTable} :
    fileOfChars? cs = some t ↔ ∃ form : FileForm, form.chars = cs ∧ form.table = t := by
  constructor
  · intro h
    simp only [fileOfChars?, Option.bind_eq_bind, Option.bind_eq_some_iff] at h
    obtain ⟨afterFile, hlead, ⟨path, afterPath⟩, hpath, ⟨format, last⟩, hformat, h⟩ := h
    dsimp only at hformat h
    split at h
    · next hlast =>
      cases h
      obtain ⟨hplain, rfl⟩ := takeQuoted_eq_some_iff.1 hpath
      obtain ⟨field, rfl, rfl⟩ := takeField_eq_some_iff.1 hformat
      exact ⟨⟨path, field, hplain⟩,
        by rw [FileForm.chars, Text.afterLead_eq_some_iff.1 hlead, hlast], rfl⟩
    · cases h
  · rintro ⟨form, rfl, rfl⟩
    have hpath := takeQuoted_eq_some_iff.2
      ⟨form.path_plain, Eq.refl (quoted _ (form.format.written [] [')']))⟩
    simp only [fileOfChars?, FileForm.chars, FileForm.table, Text.afterLead_append, hpath,
      takeField_written, Option.bind_eq_bind, Option.bind_some, if_true]

theorem schemaOfChars?_eq (cs : List Char) :
    schemaOfChars? cs = if cs = [')'] then some none
      else (takeLabelled "schema=".toList cs).bind fun field =>
        if field.2 = [')'] then some (some (String.ofList field.1)) else none := by
  simp only [schemaOfChars?, takeLabelled, Option.bind_eq_bind, Option.bind_assoc]

theorem schemaOfChars?_eq_some_iff {cs : List Char} {schema : Option String} :
    schemaOfChars? cs = some schema ↔ ∃ field : Option Field, schemaChars field = cs ∧
      field.map (fun field => String.ofList field.content) = schema := by
  rw [schemaOfChars?_eq]
  constructor
  · intro h
    split at h
    · next hlast =>
      cases h
      exact ⟨none, hlast.symm, rfl⟩
    · obtain ⟨⟨content, last⟩, hcontent, hend⟩ := Option.bind_eq_some_iff.1 h
      obtain ⟨field, rfl, rfl⟩ := exists_field hcontent
      split at hend
      · next hlast =>
        cases hend
        exact ⟨some field, by rw [schemaChars, ← hlast], rfl⟩
      · cases hend
  · rintro ⟨field, rfl, rfl⟩
    cases field with
    | none => rfl
    | some field =>
      have hne : schemaChars (some field) ≠ [')'] := by simp [schemaChars, Field.written]
      have hread := takeLabelled_written label_schema field [')']
      rw [if_neg hne, schemaChars, hread]
      rfl

theorem span_host_iff {cs host rest : List Char} :
    cs.span (fun c => decide (c ≠ '\'') && decide (c ≠ ':')) = (host, ':' :: rest) ↔
      ('\'' ∉ host ∧ ':' ∉ host) ∧ cs = host ++ ':' :: rest := by
  have hplain : (∀ c ∈ host, (decide (c ≠ '\'') && decide (c ≠ ':')) = true) ↔
      '\'' ∉ host ∧ ':' ∉ host := by
    simp only [Bool.and_eq_true, decide_eq_true_eq]
    exact ⟨fun h => ⟨fun hm => (h _ hm).1 rfl, fun hm => (h _ hm).2 rfl⟩,
      fun h c hc => ⟨fun he => h.1 (he ▸ hc), fun he => h.2 (he ▸ hc)⟩⟩
  rw [span_eq_iff, hplain]
  simp

theorem span_serverChars (form : RemoteForm) :
    form.serverChars.span (fun c => decide (c ≠ '\'') && decide (c ≠ ':')) =
      (form.host, ':' :: (form.digits ++ '\'' :: form.fieldChars)) :=
  span_host_iff.2 ⟨⟨form.host_plain, form.host_colon⟩, rfl⟩

theorem remoteOfChars?_chars (form : RemoteForm) :
    remoteOfChars? form.chars = some form.remoteTable := by
  have hname := Text.afterLead_append RemoteForm.lead form.serverChars
  have hcolon : Text.afterLead [':'] (':' :: (form.digits ++ '\'' :: form.fieldChars)) =
    some (form.digits ++ '\'' :: form.fieldChars) := Text.afterLead_append _ _
  have hport := (takePort_eq_some_iff (show '\''.isDigit = false by decide)).2
    ⟨form.digits, form.digits_ne_nil, form.digits_isDigit, form.port_le, rfl,
      Eq.refl (form.digits ++ '\'' :: form.fieldChars)⟩
  have hquote : Text.afterLead ['\''] ('\'' :: form.fieldChars) = some form.fieldChars :=
    Text.afterLead_append _ _
  have hschema := schemaOfChars?_eq_some_iff.2 ⟨form.schema, rfl, rfl⟩
  simp only [remoteOfChars?, Option.bind_eq_bind, Option.bind_eq_some_iff]
  refine ⟨_, hname, ?_⟩
  rw [span_serverChars]
  exact ⟨_, hcolon, _, hport, _, hquote, _, takeField_written form.database _, _,
    takeField_written form.table _, _, takeField_written form.user _, _,
    takeField_written form.password _, _, hschema, rfl⟩

theorem remoteOfChars?_eq_some_iff {cs : List Char} {t : RemoteTable} :
    remoteOfChars? cs = some t ↔ ∃ form : RemoteForm, form.chars = cs ∧ form.remoteTable = t := by
  constructor
  · intro h
    simp only [remoteOfChars?, Option.bind_eq_bind, Option.bind_eq_some_iff] at h
    obtain ⟨afterName, hname, afterHost, hcolon, ⟨port, afterPort⟩, hport, atFields, hquote,
      ⟨database, _⟩, hdatabase, ⟨table, _⟩, htable, ⟨user, _⟩, huser, ⟨password, last⟩, hpassword,
      schema, hschema, h⟩ := h
    cases h
    obtain ⟨host, atColon, hspan⟩ : ∃ host atColon, afterName.span
      (fun c => decide (c ≠ '\'') && decide (c ≠ ':')) = (host, atColon) := ⟨_, _, rfl⟩
    rw [hspan] at hcolon ⊢
    obtain rfl : atColon = ':' :: afterHost := Text.afterLead_eq_some_iff.1 hcolon
    obtain rfl : afterPort = '\'' :: atFields := Text.afterLead_eq_some_iff.1 hquote
    obtain ⟨⟨hhost, hhost'⟩, rfl⟩ := span_host_iff.1 hspan
    obtain ⟨digits, hne, hdigits, hle, rfl, rfl⟩ := (takePort_eq_some_iff (by decide)).1 hport
    obtain ⟨database, rfl, rfl⟩ := takeField_eq_some_iff.1 hdatabase
    obtain ⟨table, rfl, rfl⟩ := takeField_eq_some_iff.1 htable
    obtain ⟨user, rfl, rfl⟩ := takeField_eq_some_iff.1 huser
    obtain ⟨password, rfl, rfl⟩ := takeField_eq_some_iff.1 hpassword
    obtain ⟨schema, rfl, rfl⟩ := schemaOfChars?_eq_some_iff.1 hschema
    exact ⟨⟨host, digits, database, table, user, password, schema, hhost, hhost', hne, hdigits,
      hle⟩, (Text.afterLead_eq_some_iff.1 hname).symm, rfl⟩
  · rintro ⟨form, rfl, rfl⟩
    exact remoteOfChars?_chars form

/-! No text has two forms. -/

theorem ReaderForm.chars_injective {a b : ReaderForm} (h : a.chars = b.chars) : a = b := by
  have hargument := List.append_cancel_right (List.append_cancel_left h)
  obtain ⟨argument, _⟩ := a
  cases hargument
  rfl

theorem FileForm.chars_injective {a b : FileForm} (h : a.chars = b.chars) : a = b := by
  have hquoted := List.append_cancel_left h
  have hpath := takeQuoted_eq_some_iff.2 ⟨a.path_plain, hquoted.symm⟩
  rw [takeQuoted_eq_some_iff.2 ⟨b.path_plain, rfl⟩] at hpath
  obtain ⟨hpath, hformat⟩ := Prod.mk.inj (Option.some.inj hpath)
  obtain ⟨hformat, -⟩ := Field.written_injective (by simp) hformat
  obtain ⟨path, format, _⟩ := a
  cases hpath
  cases hformat
  rfl

theorem schemaChars_injective {a b : Option Field} (h : schemaChars a = schemaChars b) :
    a = b := by
  cases a with
  | none =>
    cases b with
    | none => rfl
    | some b => simp [schemaChars, Field.written] at h
  | some a =>
    cases b with
    | none => simp [schemaChars, Field.written] at h
    | some b => rw [(Field.written_injective label_schema h).1]

theorem RemoteForm.chars_injective {a b : RemoteForm} (h : a.chars = b.chars) : a = b := by
  have hspan := span_serverChars a
  rw [List.append_cancel_left h, span_serverChars b] at hspan
  obtain ⟨hhost, hrest⟩ := Prod.mk.inj hspan
  have hdigits := span_eq_iff.2 ⟨a.digits_isDigit, show '\''.isDigit = false by decide,
    (List.cons.inj hrest).2⟩
  rw [span_eq_iff.2 ⟨b.digits_isDigit, show '\''.isDigit = false by decide, rfl⟩] at hdigits
  obtain ⟨hdigits, hfields⟩ := Prod.mk.inj hdigits
  obtain ⟨hdatabase, hrest⟩ := Field.written_injective (by simp) (List.cons.inj hfields).2
  obtain ⟨htable, hrest⟩ := Field.written_injective (by simp) hrest
  obtain ⟨huser, hrest⟩ := Field.written_injective (by simp) hrest
  obtain ⟨hpassword, hrest⟩ := Field.written_injective (by simp) hrest
  have hschema := schemaChars_injective hrest
  obtain ⟨host, digits, database, table, user, password, schema, _, _, _, _, _⟩ := a
  cases hhost
  cases hdigits
  cases hdatabase
  cases htable
  cases huser
  cases hpassword
  cases hschema
  rfl

/-- The first character tells the kinds of forms apart. -/
theorem Form.chars_injective {a b : Form} (h : a.chars = b.chars) : a = b := by
  have hfirst := congrArg List.head? h
  cases a with
  | reader a =>
    cases b with
    | reader b => rw [ReaderForm.chars_injective h]
    | file b => cases hfirst
    | remote b => cases hfirst
  | file a =>
    cases b with
    | reader b => cases hfirst
    | file b => rw [FileForm.chars_injective h]
    | remote b => cases hfirst
  | remote a =>
    cases b with
    | reader b => cases hfirst
    | file b => cases hfirst
    | remote b => rw [RemoteForm.chars_injective h]

end FluentQuery.Table
