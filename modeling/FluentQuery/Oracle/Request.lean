import FluentQuery.Number.Decimal
import FluentQuery.Plan.Hints
import FluentQuery.Text.Scan

/-!
What an oracle is asked, the prompt that says so, and the statement in its answer.
-/
namespace FluentQuery.Oracle

structure Request where
  question : String
  hints : Hints
  sql : String
  temperature : Single
deriving DecidableEq, Repr, Inhabited

/-- The temperature at which equal questions get equal answers. -/
def cachedTemperature : Single := .finite (.zero _ false)

/-- The temperature of all other questions. -/
def defaultTemperature : Single := (Decimal.mk false 7 (-1)).toBinary _

def hintText (aliasName : String) : ColumnHint → String
  | .typed types =>
    "- " ++ aliasName ++ "\n" ++
      String.join (types.map fun column => "    " ++ column.1 ++ ": " ++ column.2 ++ "\n")
  | .names names => "- " ++ aliasName ++ " (" ++ ", ".intercalate names ++ ")\n"

def instructions : String := String.join [
  "You write SQL for an analytical SQL engine.\n",
  "Rewrite or extend the existing query so that it answers the question.\n",
  "Keep the table functions and aliases of the existing query.\n",
  "Answer with a single SQL statement and nothing else.\n\n"]

def fence : List Char := "```".toList

def sqlFence : List Char := fence ++ "sql".toList

def prompt (request : Request) : String :=
  instructions ++ "Tables:\n" ++
    String.join (request.hints.map fun hint => hintText hint.1 hint.2) ++
    "\nExisting query:\n" ++ String.ofList sqlFence ++ "\n" ++ request.sql ++ "\n" ++
    String.ofList fence ++ "\n\nQuestion: " ++ request.question ++ "\n"

/-- An answer without the code fences in it and the blanks at its ends. -/
def unfenced (answer : String) : String :=
  String.ofList (Text.trimmed (Text.removeAll fence (Text.removeAll sqlFence
    (Text.trimmed answer.toList))))

/-- The text of the first text block in the body of a response. -/
def firstText (body : Json) : Except Error String :=
  let text := do
    let blocks ← (← body.get? "content").items?
    let block ← blocks.find? fun block => (block.get? "type").bind Json.text? == some "text"
    (← block.get? "text").text?
  match text with
  | some text => .ok text
  | none => .error .noAnswerText

end FluentQuery.Oracle
