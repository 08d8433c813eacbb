import FluentQuery.Output.Render
import FluentQuery.Proofs.CompactText
import FluentQuery.Proofs.Lines
import FluentQuery.Proofs.Outcomes
import FluentQuery.Proofs.ReadBack
import FluentQuery.Vector.Store

/-!
Rows as objects on lines, and what a search makes of such lines. Main statement: where an engine
answers with the lines of some rows, a search gives one object for each row, and these objects are
the data of the document of the rows.
-/
namespace FluentQuery

namespace ResultTable

/-- An object shows a row: its keys are the names of the columns, each in its first place, and a
key has the cell of the last column of its name, null where the row ends before that column. -/
structure Shows (columns : List String) (row : List Json) (object : Record) : Prop where
  keys : Assoc.keys object = columns.eraseDups
  cells : ∀ i name, columns[i]? = some name → name ∉ columns.drop (i + 1) →
    Assoc.get? name object = some (row[i]?.getD .null)

def filled (row : List Json) (width : Nat) : List Json :=
  row ++ List.replicate (width - row.length) .null

theorem getElem?_filled (row : List Json) {width i : Nat} (h : i < width) :
    (filled row width)[i]? = some (row[i]?.getD .null) := by
  by_cases hi : i < row.length
  · rw [filled, List.getElem?_append_left hi, List.getElem?_eq_getElem hi, Option.getD_some]
  · have hle : row.length ≤ i := Nat.not_lt.1 hi
    rw [filled, List.getElem?_append_right hle, List.getElem?_replicate_of_lt (by omega),
      List.getElem?_eq_none hle, Option.getD_none]

theorem keys_zip_filled (columns : List String) (row : List Json) :
    Assoc.keys (columns.zip (filled row columns.length)) = columns := by
  refine List.map_fst_zip ?_
  rw [filled, List.length_append, List.length_replicate]
  omega

theorem shows_rowObject (columns : List String) (row : List Json) :
    Shows columns row (rowObject columns row) where
  keys := by
    rw [rowObject, Assoc.keys_ofPairs]
    exact congrArg _ (keys_zip_filled columns row)
  cells := by
    intro i name hname hlast
    obtain ⟨hi, -⟩ := List.getElem?_eq_some_iff.1 hname
    refine Assoc.get?_ofPairs_of_last (i := i) ?_ ?_
    · exact List.getElem?_zip_eq_some.2 ⟨hname, getElem?_filled row hi⟩
    · have hdrop := congrArg (List.drop (i + 1)) (keys_zip_filled columns row)
      rw [Assoc.keys, ← List.map_drop] at hdrop
      rw [← hdrop] at hlast
      exact hlast

/-- The object of a row is read back where the cells fit below an object. -/
theorem readable_rowObject (columns : List String) {row : List Json}
    (h : ∀ cell ∈ row, cell.fits (Json.depthLimit - 1) = true) :
    Json.Readable (.obj (rowObject columns row)) := by
  have hkeys : (Assoc.keys (rowObject columns row)).Nodup := Assoc.nodup_keys_ofPairs _
  have hcells : ∀ entry ∈ rowObject columns row, entry.2.fits (Json.depthLimit - 1) = true := by
    intro entry hentry
    have hcell := (List.of_mem_zip (Assoc.mem_of_mem_ofPairs hentry)).2
    rcases List.mem_append.1 hcell with hrow | hnull
    · exact h _ hrow
    · rw [List.eq_of_mem_replicate hnull]
      rfl
  refine Json.readable_of_fits ?_
  rw [Json.depthLimit, Json.fits, Bool.and_eq_true]
  exact ⟨decide_eq_true hkeys, Json.entriesFit_iff.2 hcells⟩

def line (columns : List String) (row : List Json) : String :=
  (Json.obj (rowObject columns row)).text

theorem jsonLines_eq_join (columns : List String) (rows : List (List Json)) :
    jsonLines ⟨columns, rows⟩ = String.join ((rows.map (line columns)).map (· ++ "\n")) := by
  rw [jsonLines, List.map_map]
  rfl

theorem all_isBlank_line (columns : List String) (row : List Json) :
    (line columns row).toList.all Text.isBlank = false := by
  have hbracket : Text.isBlank '\x7b' = false := rfl
  rw [line, Json.toList_text, Json.chars, List.cons_append, List.all_cons, hbracket,
    Bool.false_and]

theorem pieces_jsonLines (columns : List String) (rows : List (List Json)) :
    (Text.splitAll '\n' (jsonLines ⟨columns, rows⟩).toList).filter
      (fun piece => !piece.all Text.isBlank) = rows.map fun row => (line columns row).toList := by
  have hbreaks : ∀ text ∈ rows.map (line columns), '\n' ∉ text.toList := by
    intro text htext
    obtain ⟨row, -, rfl⟩ := List.mem_map.1 htext
    exact Json.not_mem_text _
  have hkept : ∀ piece ∈ rows.map fun row => (line columns row).toList,
      (!piece.all Text.isBlank) = true := by
    intro piece hpiece
    obtain ⟨row, -, rfl⟩ := List.mem_map.1 hpiece
    rw [all_isBlank_line, Bool.not_false]
  have hlast : [([] : List Char)].filter (fun piece => !piece.all Text.isBlank) = [] := rfl
  rw [jsonLines_eq_join, Text.splitAll_join_lines hbreaks, List.map_map, List.filter_append, hlast,
    List.append_nil]
  exact List.filter_eq_self.2 hkept

theorem rowsOfLines_jsonLines (columns : List String) {rows : List (List Json)}
    (h : ∀ row ∈ rows, Json.Readable (.obj (rowObject columns row))) :
    Vector.Store.rowsOfLines (jsonLines ⟨columns, rows⟩) = .ok (rows.map (rowObject columns)) := by
  have hread : (rows.map fun row => (line columns row).toList).mapM
      (fun piece => (Json.ofChars? piece).bind Json.entries?) =
        some (rows.map (rowObject columns)) := by
    rw [List.mapM_map]
    refine Outcome.mapM_eq_some_map fun row hrow => ?_
    have hobject : Json.ofChars? (line columns row).toList = some (.obj (rowObject columns row)) :=
      h row hrow
    simp only [Function.comp_apply, hobject]
    rfl
  rw [Vector.Store.rowsOfLines, pieces_jsonLines, hread]

end ResultTable

namespace Vector.Store

variable {σ : Type} {embedder : Embedder} {engine : Engine σ} {search : Search} {state : σ}

open ResultTable (Shows rowObject shows_rowObject readable_rowObject rowsOfLines_jsonLines)

/-- An engine's answer to a search that is the lines of some rows gives one object for each row, in
their order. The document of the same rows has these objects as its data, every column in order,
and the number of the rows, as far as a number holds it. -/
theorem search_jsonLines {columns : List String} {rows : List (List Json)} {sql : String}
    (hsql : search.sql embedder = .ok sql)
    (hanswer : (engine ⟨sql, .jsonEachRow, none⟩ state).1 =
      ResultTable.render .jsonEachRow ⟨columns, rows⟩)
    (hread : ∀ row ∈ rows, Json.Readable (.obj (rowObject columns row))) :
    ∃ objects, (Store.search embedder engine search state).1 = .ok objects ∧
      List.Forall₂ (Shows columns) rows objects ∧
      ∃ count : JsonInteger, (rows.length < 18446744073709551616 → count.val = rows.length) ∧
        ResultTable.render .json ⟨columns, rows⟩ = .ok (Json.obj [
          ("meta", .arr (columns.map fun name => .obj [("name", .str name)])),
          ("data", .arr (objects.map .obj)),
          ("rows", .int count)]).text := by
  refine ⟨rows.map (rowObject columns), ?_, ?_, ?_⟩
  · have hresult : (Store.search embedder engine search state).1 =
        (engine ⟨sql, .jsonEachRow, none⟩ state).1.bind rowsOfLines := by
      rw [Store.search, hsql]
    rw [hresult, hanswer]
    exact rowsOfLines_jsonLines columns hread
  · exact List.forall₂_map_right_iff.2
      (List.forall₂_same.2 fun row _ => shows_rowObject columns row)
  · refine ⟨⟨(min rows.length 18446744073709551615 : Nat), by omega, by omega⟩, ?_, ?_⟩
    · intro hlength
      show ((min rows.length 18446744073709551615 : Nat) : Int) = rows.length
      omega
    · rw [List.map_map]
      rfl

def rowsEngine (columns : List String) (rows : List (List Json)) : Engine Unit :=
  fun statement state => (ResultTable.render statement.format ⟨columns, rows⟩, state)

/-- A column that occurs twice, rows of all lengths, and cells with quotes and line breaks. -/
theorem search_jsonLines_comments :
    let rows : List (List Json) := [[.str "old", .ofNat 1, .str "a\r\nb", .null], [],
      [.str " ", .arr [.obj [("\"", .bool true)], .float ⟨true, 0, by decide⟩]]]
    let search : Search := ⟨⟨"comments", [], Model.defaultEngine, [],
      [⟨"by_text", "text", 2, .cosine⟩]⟩, [], none, some "by_text", some "hi"⟩
    let embedder : Embedder := fun _ dim => .ok (List.replicate dim (.finite (.zero _ false)))
    (∀ row ∈ rows, Json.Readable (.obj (rowObject ["text", "id", "text"] row))) ∧
      ∃ objects, (Store.search embedder (rowsEngine ["text", "id", "text"] rows) search ()).1 =
          .ok objects ∧
        List.Forall₂ (Shows ["text", "id", "text"]) rows objects := by
  intro rows search embedder
  have hfits : rows.all (fun row => row.all fun cell => cell.fits (Json.depthLimit - 1)) = true := by
    decide +kernel
  have hread : ∀ row ∈ rows, Json.Readable (.obj (rowObject ["text", "id", "text"] row)) :=
    fun row hrow => readable_rowObject _ (List.all_eq_true.1 (List.all_eq_true.1 hfits row hrow))
  have hsql : search.sql embedder = .ok
      ("SELECT *, cosineDistance(text_embedding, [0.0,0.0]) AS similarity_score FROM comments" ++
        " WHERE 1=1 ORDER BY similarity_score ASC") := by
    decide +kernel
  obtain ⟨objects, hobjects, hshows, -⟩ :=
    @search_jsonLines Unit embedder (rowsEngine _ rows) search () _ rows _ hsql rfl hread
  exact ⟨hread, objects, hobjects, hshows⟩

end Vector.Store

end FluentQuery
