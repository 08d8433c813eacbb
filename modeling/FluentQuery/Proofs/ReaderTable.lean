import FluentQuery.Embedded.Engine
import FluentQuery.Proofs.Lexemes

/-!
The texts about the table for a reader, as the small database reads them. Main statements: a text of
each kind is void or is the one command that it looks like, whatever the columns are called.
-/
namespace FluentQuery.Embedded

open Sql

def creationLead : List Lexeme :=
  [.name "CREATE" [' '], .name "TEMP" [' '], .name "TABLE" [' '], .name readerTable [' ']]

def insertionLead : List Lexeme :=
  [.name "INSERT" [' '], .name "INTO" [' '], .name readerTable [' ']]

theorem chain_creationLead (rest : List Char) : Chain creationLead ('(' :: rest) := by
  refine ⟨?_, ?_, ?_, ?_, trivial⟩ <;>
    exact Lexeme.stands_name (by decide) rfl (.inr ⟨rfl, rfl⟩)

theorem chain_insertionLead (rest : List Char) : Chain insertionLead ('(' :: rest) := by
  refine ⟨?_, ?_, ?_, trivial⟩ <;>
    exact Lexeme.stands_name (by decide) rfl (.inr ⟨rfl, rfl⟩)

theorem head_creationLead : ∃ c rest, creationLead.flatMap Lexeme.chars = c :: rest ∧
    Text.isBlank c = false := ⟨'C', _, rfl, by decide⟩

theorem head_insertionLead : ∃ c rest, insertionLead.flatMap Lexeme.chars = c :: rest ∧
    Text.isBlank c = false := ⟨'I', _, rfl, by decide⟩

/-- The command that a reading gives, if only semicolons follow it. -/
def finished (read : Option (Command × List Lexeme)) : Option Command :=
  read.bind fun (command, rest) =>
    if rest.all (fun lexeme => lexeme.token = Token.mark ';') then some command else none

theorem ofLexemes?_cons {lexeme : Lexeme} (h : lexeme.token ≠ .mark ';') (lexemes : List Lexeme) :
    Command.ofLexemes? (lexeme :: lexemes) = finished (takeCommand (lexeme :: lexemes)) := by
  have hdrop : (lexeme :: lexemes).dropWhile (fun lexeme => decide (lexeme.token = .mark ';')) =
      lexeme :: lexemes := List.dropWhile_cons_of_neg (by simpa using h)
  simp only [Command.ofLexemes?, hdrop, finished]
  cases takeCommand (lexeme :: lexemes) <;> rfl

theorem ofLexemes?_creation (lexemes : List Lexeme) :
    Command.ofLexemes? (creationLead ++ lexemes) =
      finished ((takeParenthesized takeDeclaration lexemes).map fun (columns, rest) =>
        (.create true readerTable columns, rest)) := by
  rw [creationLead, List.cons_append, ofLexemes?_cons (by decide), Option.map_eq_bind]
  rfl

theorem ofLexemes?_insertion (gap : List Char) (lexemes : List Lexeme) :
    Command.ofLexemes? (insertionLead ++ .mark '(' gap :: lexemes) =
      finished ((takeParenthesized (takeName []) (.mark '(' gap :: lexemes)).bind
        fun (columns, rest) => (takeWord "values" rest).bind fun rest =>
          (takeList (takeParenthesized takeOperand) rest.length rest).map fun (rows, rest) =>
            (.insert readerTable (some columns) rows, rest)) := by
  rw [insertionLead, List.cons_append, ofLexemes?_cons (by decide)]
  simp only [Option.map_eq_bind]
  show finished (((takeParenthesized (takeName []) (.mark '(' gap :: lexemes)).map
    fun (columns, rest) => (some columns, rest)).bind _) = _
  rw [Option.bind_map]
  rfl

theorem isTrimmed_of_lead {lead : List Char}
    (hhead : ∃ c rest, lead = c :: rest ∧ Text.isBlank c = false) (cs : List Char) :
    Text.IsTrimmed (lead ++ '(' :: (cs ++ [')'])) := by
  obtain ⟨c, rest, rfl, hc⟩ := hhead
  have h := Text.isTrimmed_cons_append hc (show Text.isBlank ')' = false by decide)
    (rest ++ '(' :: cs)
  rwa [List.append_assoc] at h

/-- A text that starts with these lexemes and ends in a pair of parentheses has them, whatever
stands between those. -/
theorem ofText?_of_lead {lead : List Lexeme} {sql : String} {cs : List Char}
    (hsql : sql.toList = lead.flatMap Lexeme.chars ++ '(' :: (cs ++ [')']))
    (hchain : ∀ rest, Chain lead ('(' :: rest))
    (hnull : '\x00' ∉ lead.flatMap Lexeme.chars)
    (hhead : ∃ c rest, lead.flatMap Lexeme.chars = c :: rest ∧ Text.isBlank c = false) :
    Command.ofText? sql = none ∨ ∃ gap lexemes, Command.ofText? sql =
      Command.ofLexemes? (numbered 0 (lead ++ .mark '(' gap :: lexemes)) := by
  have htrimmed : Text.IsTrimmed sql.toList := hsql ▸ isTrimmed_of_lead hhead cs
  obtain ⟨rest, hrest⟩ : ∃ rest, sql.toList.takeWhile (fun c => decide (c ≠ '\x00')) =
      lead.flatMap Lexeme.chars ++ '(' :: rest := by
    refine ⟨(cs ++ [')']).takeWhile (fun c => decide (c ≠ '\x00')), ?_⟩
    rw [hsql, List.takeWhile_append_of_pos]
    · rfl
    · exact fun c hc => decide_eq_true fun he => hnull (he ▸ hc)
  have hparenthesis : piece? (['('] ++ rest) = some (0, some (some (.mark '('), ['('])) := rfl
  have htokens := (hchain rest).tokensFrom
  have hfirst := Text.tokensFrom_append (by simp) hparenthesis
  rw [List.singleton_append] at hfirst
  unfold Command.ofText? lexemes?
  rw [Text.trimmed_eq_self htrimmed, hrest, htokens, hfirst]
  cases Text.tokensFrom piece? 0 rest with
  | none => exact .inl rfl
  | some pieces =>
    refine .inr ⟨(takeGaps pieces).1, joinGaps pieces, ?_⟩
    have hjoin := joinGaps_pieces lead
      (show takeGaps ((some (.mark '('), ['(']) :: pieces) = ([], _) from rfl)
    exact congrArg (fun lexemes => Command.ofLexemes? (numbered 0 lexemes)) hjoin

theorem eq_of_finished {read : Option (Command × List Lexeme)} {command : Command}
    (h : finished read = some command) : ∃ rest, read = some (command, rest) := by
  obtain ⟨⟨found, rest⟩, hread, h⟩ := Option.bind_eq_some_iff.1 h
  dsimp only at h
  split at h
  · cases h
    exact ⟨rest, hread⟩
  · cases h

theorem toList_parenthesized {start : String} {lead : List Char}
    (h : start.toList = lead ++ ['(']) (inside : String) :
    (start ++ inside ++ ")").toList = lead ++ '(' :: (inside.toList ++ [')']) := by
  simp [h]

theorem toList_creationSql (schema : Schema) :
    (creationSql schema).toList = creationLead.flatMap Lexeme.chars ++
      '(' :: ((", ".intercalate (schema.map fun column =>
        quotedName column.1 ++ " " ++ declaredType column.2)).toList ++ [')']) :=
  toList_parenthesized (by decide) _

theorem ofText?_creationSql {schema : Schema} {command : Command}
    (h : Command.ofText? (creationSql schema) = some command) :
    ∃ columns, command = .create true readerTable columns := by
  rcases ofText?_of_lead (toList_creationSql schema) chain_creationLead (by decide)
    head_creationLead with hnone | ⟨gap, lexemes, hsome⟩
  · rw [hnone] at h
    cases h
  · have hnumbered : numbered 0 (creationLead ++ .mark '(' gap :: lexemes) =
      creationLead ++ .mark '(' gap :: numbered 0 lexemes := rfl
    rw [hsome, hnumbered, ofLexemes?_creation] at h
    obtain ⟨rest, hread⟩ := eq_of_finished h
    obtain ⟨⟨columns, after⟩, -, hcommand⟩ := Option.map_eq_some_iff.1 hread
    cases hcommand
    exact ⟨columns, rfl⟩

theorem toList_insertionSql (names : List String) :
    (insertionSql names).toList = insertionLead.flatMap Lexeme.chars ++
      '(' :: ((", ".intercalate (names.map quotedName) ++ ") VALUES (" ++
        ", ".intercalate (names.map fun _ => "?")).toList ++ [')']) := by
  have hassoc : ∀ start first second third : String,
      start ++ first ++ second ++ third ++ ")" = start ++ (first ++ second ++ third) ++ ")" := by
    simp [String.append_assoc]
  exact (congrArg String.toList (hassoc _ _ _ _)).trans (toList_parenthesized (by decide) _)

theorem ofText?_insertionSql {names : List String} {command : Command}
    (h : Command.ofText? (insertionSql names) = some command) :
    ∃ columns rows, command = .insert readerTable columns rows := by
  rcases ofText?_of_lead (toList_insertionSql names) chain_insertionLead (by decide)
    head_insertionLead with hnone | ⟨gap, lexemes, hsome⟩
  · rw [hnone] at h
    cases h
  · have hnumbered : numbered 0 (insertionLead ++ .mark '(' gap :: lexemes) =
      insertionLead ++ .mark '(' gap :: numbered 0 lexemes := rfl
    rw [hsome, hnumbered, ofLexemes?_insertion] at h
    obtain ⟨rest, hread⟩ := eq_of_finished h
    obtain ⟨⟨columns, after⟩, -, hread⟩ := Option.bind_eq_some_iff.1 hread
    obtain ⟨values, -, hread⟩ := Option.bind_eq_some_iff.1 hread
    obtain ⟨⟨rows, last⟩, -, hcommand⟩ := Option.map_eq_some_iff.1 hread
    cases hcommand
    exact ⟨some columns, rows, rfl⟩

end FluentQuery.Embedded
