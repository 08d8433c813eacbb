import FluentQuery.Proofs.Occurrences
import FluentQuery.Proofs.PrefixCodes
import FluentQuery.Proofs.TableText
import FluentQuery.Table.Alias

/-!
The aliases of files, which are searched for in the whole text of the table function. Main
statement: the search finds nothing but the function itself, and so the alias is the stem of the
path, which is what stands after its last slash and before the last dot there.
-/
namespace FluentQuery.Table

/-! The parts of a path. -/

structure PathForm where
  folder : Option (List Char)
  stem : List Char
  extension : Option (List Char)
  stem_slash : '/' ∉ stem
  stem_dot : extension = none → '.' ∉ stem
  extension_slash : ∀ e ∈ extension, '/' ∉ e
  extension_dot : ∀ e ∈ extension, '.' ∉ e

namespace PathForm

def base (form : PathForm) : List Char :=
  form.stem ++ form.extension.elim [] ('.' :: ·)

def chars (form : PathForm) : List Char := form.folder.elim [] (· ++ ['/']) ++ form.base

theorem not_mem_base (form : PathForm) : '/' ∉ form.base := by
  intro hmem
  rcases List.mem_append.1 hmem with hstem | hrest
  · exact form.stem_slash hstem
  · cases hextension : form.extension with
    | none => simp [hextension] at hrest
    | some extension =>
      have hslash : '/' ∈ extension := by simpa [hextension] using hrest
      exact form.extension_slash extension hextension hslash

theorem splitLast_chars (form : PathForm) :
    Text.splitLast '/' form.chars = form.folder.map (·, form.base) := by
  cases hfolder : form.folder with
  | none =>
    rw [Option.map_none, Text.splitLast_eq_none_iff]
    simpa [chars, hfolder] using form.not_mem_base
  | some folder =>
    rw [Option.map_some, Text.splitLast_eq_some_iff]
    exact ⟨form.not_mem_base, by simp [chars, hfolder]⟩

theorem splitLast_base (form : PathForm) :
    Text.splitLast '.' form.base = form.extension.map (form.stem, ·) := by
  cases hextension : form.extension with
  | none =>
    rw [Option.map_none, Text.splitLast_eq_none_iff]
    simpa [base, hextension] using form.stem_dot hextension
  | some extension =>
    rw [Option.map_some, Text.splitLast_eq_some_iff]
    exact ⟨form.extension_dot extension hextension, by simp [base, hextension]⟩

theorem stem_chars (form : PathForm) : Table.stem form.chars = form.stem := by
  have hbase : ((Text.splitLast '/' form.chars).map Prod.snd).getD form.chars = form.base := by
    rw [splitLast_chars]
    cases hfolder : form.folder <;> simp [chars, hfolder]
  have hstem : ((Text.splitLast '.' form.base).map Prod.fst).getD form.base = form.stem := by
    rw [splitLast_base]
    cases hextension : form.extension <;> simp [base, hextension]
  rw [stem_eq, hbase, hstem]

/-- No path has parts in two ways. -/
theorem chars_injective {a b : PathForm} (h : a.chars = b.chars) : a = b := by
  have hchars := a.splitLast_chars
  rw [h, b.splitLast_chars] at hchars
  have hfront : a.folder = b.folder ∧ a.base = b.base := by
    cases ha : a.folder <;> cases hb : b.folder <;> simp [ha, hb] at hchars
    · exact ⟨rfl, by simpa [chars, ha, hb] using h⟩
    · exact ⟨congrArg some hchars.1.symm, hchars.2.symm⟩
  have hbase := a.splitLast_base
  rw [hfront.2, b.splitLast_base] at hbase
  have hend : a.stem = b.stem ∧ a.extension = b.extension := by
    cases ha : a.extension <;> cases hb : b.extension <;> simp [ha, hb] at hbase
    · exact ⟨by simpa [base, ha, hb] using hfront.2, rfl⟩
    · exact ⟨hbase.1.symm, congrArg some hbase.2.symm⟩
  obtain ⟨folder, stem, extension, _, _, _, _⟩ := a
  obtain ⟨rfl, -⟩ := hfront
  obtain ⟨rfl, rfl⟩ := hend
  rfl

theorem exists_base (base : List Char) (h : '/' ∉ base) (folder : Option (List Char)) :
    ∃ form : PathForm, form.folder = folder ∧ form.base = base := by
  cases hsplit : Text.splitLast '.' base with
  | none =>
    have hdot := Text.splitLast_eq_none_iff.1 hsplit
    exact ⟨⟨folder, base, none, h, fun _ => hdot, by simp, by simp⟩, rfl, List.append_nil base⟩
  | some parts =>
    obtain ⟨hdot, hparts⟩ := Text.splitLast_eq_some_iff.1 hsplit
    rw [hparts] at h
    have hstem : '/' ∉ parts.1 := fun hm => h (List.mem_append_left _ hm)
    have hextension : '/' ∉ parts.2 :=
      fun hm => h (List.mem_append_right _ (List.mem_cons_of_mem _ hm))
    exact ⟨⟨folder, parts.1, some parts.2, hstem, by simp, by simpa, by simpa⟩, rfl, hparts.symm⟩

theorem exists_chars (path : List Char) : ∃ form : PathForm, form.chars = path := by
  cases hsplit : Text.splitLast '/' path with
  | none =>
    obtain ⟨form, hfolder, hbase⟩ := exists_base path (Text.splitLast_eq_none_iff.1 hsplit) none
    exact ⟨form, by simp [chars, hfolder, hbase]⟩
  | some parts =>
    obtain ⟨hslash, hparts⟩ := Text.splitLast_eq_some_iff.1 hsplit
    obtain ⟨form, hfolder, hbase⟩ := exists_base parts.2 hslash (some parts.1)
    exact ⟨form, by simp [chars, hfolder, hbase, hparts]⟩

theorem stem_subset (form : PathForm) : form.stem ⊆ form.chars := fun _ hc =>
  List.mem_append_right _ (List.mem_append_left _ hc)

end PathForm

/-! The pattern on the text of a table function. -/

theorem filePath?_chars (form : FileForm) :
    filePath? form.chars =
      if form.path ≠ [] ∧ form.format.content ≠ [] then some form.path else none := by
  have hlead : Text.afterLead "file(".toList form.chars =
      some (quoted form.path (form.format.written [] [')'])) := Text.afterLead_append _ _
  have hpath := takeQuoted_eq_some_iff.2
    ⟨form.path_plain, Eq.refl (quoted form.path (form.format.written [] [')']))⟩
  simp only [filePath?, hlead, Option.bind_eq_bind, Option.bind_some, hpath]
  by_cases hne : form.path = []
  · simp [takeNamed_eq, hne]
  · by_cases hformat : form.format.content = [] <;>
      simp [takeNamed_eq, takeField_written, hne, hformat]

theorem count_quoted (content rest : List Char) :
    (quoted content rest).count '\'' = content.count '\'' + rest.count '\'' + 2 := by
  simp only [quoted, List.count_cons_self, List.count_append]
  omega

theorem count_written (field : Field) (rest : List Char) :
    (field.written [] rest).count '\'' = rest.count '\'' + 2 := by
  have hgap : '\'' ∉ field.gap := fun hm => by
    have hblank := field.gap_blank _ hm
    revert hblank
    decide
  rw [Field.written, List.count_cons_of_ne (by decide), List.count_append,
    List.count_eq_zero.2 hgap, List.nil_append, count_quoted,
    List.count_eq_zero.2 field.content_plain]
  omega

theorem exists_of_filePath? {cs path : List Char} (h : filePath? cs = some path) :
    ∃ (content : List Char) (format : Field) (rest : List Char),
      cs = "file(".toList ++ quoted content (format.written [] rest) := by
  simp only [filePath?, Option.bind_eq_bind, Option.bind_eq_some_iff] at h
  obtain ⟨afterName, hlead, ⟨content, afterPath⟩, hpath, named, hnamed, ⟨format, rest⟩, hformat,
    -⟩ := h
  rw [takeNamed_eq] at hnamed
  split at hnamed
  · cases hnamed
  · cases hnamed
    obtain ⟨-, rfl⟩ := takeQuoted_eq_some_iff.1 hpath
    obtain ⟨field, -, rfl⟩ := takeField_eq_some_iff.1 hformat
    exact ⟨content, field, rest, Text.afterLead_eq_some_iff.1 hlead⟩

/-- The pattern needs all four quotes of a table function, so it stands at the front or nowhere. -/
theorem filePath?_of_suffix {form : FileForm} {cs : List Char} (h : cs <:+ form.chars.tail) :
    filePath? cs = none := by
  refine Option.eq_none_iff_forall_not_mem.2 fun path hpath => ?_
  obtain ⟨content, format, rest, rfl⟩ := exists_of_filePath? hpath
  obtain ⟨before, hbefore⟩ := h
  have hlead : '\'' ∉ "file(".toList := by decide
  have hchars : form.chars = ('f' :: before ++ "file(".toList) ++
      quoted content (format.written [] rest) := by
    have hcons : form.chars = 'f' :: form.chars.tail := rfl
    rw [hcons, ← hbefore, List.cons_append, List.cons_append, List.append_assoc]
  have hcount := congrArg (List.count '\'') hchars
  rw [FileForm.chars, List.count_append, List.count_append, count_quoted, count_quoted,
    count_written, count_written, List.count_eq_zero.2 hlead,
    List.count_eq_zero.2 form.path_plain] at hcount
  have hnone : '\'' ∉ 'f' :: before ++ "file(".toList := by
    refine List.count_eq_zero.1 ?_
    have hend : [')'].count '\'' = 0 := rfl
    omega
  have hfront := (append_mark_inj hlead hnone hchars).1
  have hlength := congrArg List.length hfront
  simp at hlength

theorem firstAmong_sql {t : FileTable} (h : t.Plain) :
    Text.firstAmong filePath? t.sql.toList =
      if t.path ≠ "" ∧ t.format ≠ "" then some t.path.toList else none := by
  have hread := filePath?_chars (FileForm.ofTable t h)
  rw [← Text.firstAmong_eq_front fun _ hrest => filePath?_of_suffix hrest,
    FileForm.chars_ofTable] at hread
  simpa [FileForm.ofTable, Field.ofText] using hread

theorem aliasName_of_parts {t : FileTable} (h : t.Plain) {form : PathForm}
    (hform : form.chars = t.path.toList) :
    aliasName (.file t) =
      if t.path ≠ "" ∧ t.format ≠ "" ∧ form.stem ≠ [] then String.ofList form.stem
      else "file" := by
  have hstem : stem t.path.toList = form.stem := by rw [← hform, form.stem_chars]
  rw [aliasName, fileAlias, firstAmong_sql h]
  by_cases hpath : t.path = ""
  · simp [hpath]
  · by_cases hformat : t.format = ""
    · simp [hformat]
    · by_cases hempty : form.stem = [] <;> simp [hpath, hformat, hstem, hempty]

/-- The alias of a file whose fields hold no quote. Its path has parts in one way; the alias is the
stem if it, the path and the format are not empty, and a fixed one otherwise. It is never empty, and
holds neither a slash nor a quote. -/
theorem aliasName_file {t : FileTable} (hpath : '\'' ∉ t.path.toList)
    (hformat : '\'' ∉ t.format.toList) :
    ∃ form : PathForm, form.chars = t.path.toList ∧
      (∀ other : PathForm, other.chars = t.path.toList → other = form) ∧
      aliasName (.file t) =
        (if t.path ≠ "" ∧ t.format ≠ "" ∧ form.stem ≠ [] then String.ofList form.stem
          else "file") ∧
      aliasName (.file t) ≠ "" ∧ '/' ∉ (aliasName (.file t)).toList ∧
      '\'' ∉ (aliasName (.file t)).toList := by
  obtain ⟨form, hform⟩ := PathForm.exists_chars t.path.toList
  have halias := aliasName_of_parts ⟨hpath, hformat⟩ hform
  refine ⟨form, hform, fun other hother => PathForm.chars_injective (hother.trans hform.symm),
    halias, ?_⟩
  rw [halias]
  split
  · next hnamed =>
    have hquote : '\'' ∉ form.stem := fun hm => hpath (hform ▸ form.stem_subset hm)
    simpa [hnamed.2.2, hquote] using form.stem_slash
  · decide

/-- A path with two dots and a bracket in its last part, and one whose last part begins with its
only dot. -/
theorem aliasName_file_archive :
    let archive : FileTable := ⟨"logs.d/file(1).tar.gz", "CSV"⟩
    let hidden : FileTable := ⟨"logs.d/.csv", "CSV"⟩
    ('\'' ∉ archive.path.toList ∧ '\'' ∉ archive.format.toList) ∧
      aliasName (.file archive) = "file(1).tar" ∧
      ('\'' ∉ hidden.path.toList ∧ '\'' ∉ hidden.format.toList) ∧
      aliasName (.file hidden) = "file" := by
  intro archive hidden
  have harchive : '\'' ∉ archive.path.toList ∧ '\'' ∉ archive.format.toList := by decide
  have hhidden : '\'' ∉ hidden.path.toList ∧ '\'' ∉ hidden.format.toList := by decide
  let archived : PathForm := ⟨some "logs.d".toList, "file(1).tar".toList, some "gz".toList,
    by decide, by simp, by simp, by simp⟩
  let unnamed : PathForm := ⟨some "logs.d".toList, [], some "csv".toList,
    by decide, by simp, by simp, by simp⟩
  obtain ⟨form, -, hform, halias, -⟩ := aliasName_file harchive.1 harchive.2
  obtain ⟨form', -, hform', halias', -⟩ := aliasName_file hhidden.1 hhidden.2
  refine ⟨harchive, ?_, hhidden, ?_⟩
  · rw [halias, ← hform archived (by decide +kernel)]
    decide
  · rw [halias', ← hform' unnamed (by decide +kernel)]
    decide

end FluentQuery.Table
