import FluentQuery.Number.Integer

/-!
What can go wrong, by its cause. Every cause has a kind; a kind that this library words itself
also has a message.
-/
namespace FluentQuery

inductive ErrorKind where
  /-- a builder was given something that it cannot represent -/
  | validation
  /-- an engine failed outside of its database -/
  | execution
  /-- the oracle failed or gave an unusable answer -/
  | oracle
  /-- a setting has a value that it cannot have -/
  | config
  /-- the database refused a statement -/
  | database
  /-- a text is no JSON of the expected form -/
  | serialization
  /-- a configuration file is malformed or does not fit -/
  | configSyntax
  /-- a file cannot be read -/
  | io
deriving DecidableEq, Repr, Inhabited

/-- An error by its cause. The last cause of each of the four worded kinds is a text of the
caller's own. -/
inductive Error where
  | emptySource
  | emptyTarget
  | noJoinCondition
  | severalReaders (names : List String)
  | emptyInsert
  | zeroBatch
  | unknownSourceKind (kind : String)
  | noCollections
  | zeroDimension
  | dimensionMismatch (expected actual : Nat)
  | incompleteSearch
  | unknownIndex (index table : String)
  | unknownFilterOperator (suffix : String)
  | noFields (table : String)
  | unknownTable (table : String)
  | validation (text : String)
  | poisoned (reader : String)
  | noColumns (reader : String)
  | unsupportedFormat (format : String)
  | execution (text : String)
  | noAnswerText
  | requestFailed (reason : String)
  | oracle (text : String)
  | missingKey
  | zeroRequestTimeout
  | zeroBatchSetting
  | emptyDatabaseUrl
  | zeroTimeoutSetting
  | config (text : String)
  | database
  | serialization
  | configSyntax
  | io
deriving DecidableEq, Repr, Inhabited

namespace Error

def kind : Error → ErrorKind
  | emptySource | emptyTarget | noJoinCondition | severalReaders _ | emptyInsert | zeroBatch
  | unknownSourceKind _ | noCollections | zeroDimension | dimensionMismatch _ _
  | incompleteSearch | unknownIndex _ _ | unknownFilterOperator _ | noFields _ | unknownTable _
  | validation _ => .validation
  | poisoned _ | noColumns _ | unsupportedFormat _ | execution _ => .execution
  | noAnswerText | requestFailed _ | oracle _ => .oracle
  | missingKey | zeroRequestTimeout | zeroBatchSetting | emptyDatabaseUrl | zeroTimeoutSetting
  | config _ => .config
  | database => .database
  | serialization => .serialization
  | configSyntax => .configSyntax
  | io => .io

def detail : Error → String
  | emptySource => "query source must not be empty"
  | emptyTarget => "join target must not be empty"
  | noJoinCondition => "join requires at least one condition"
  | severalReaders names =>
    "query reads from more than one reader (" ++ ", ".intercalate names ++
      "); only one can be attached"
  | emptyInsert => "INSERT requires columns and values"
  | zeroBatch => "reader batch size must be > 0"
  | unknownSourceKind kind => "unsupported source type '" ++ kind ++ "'"
  | noCollections => "collection() is only available for API sources"
  | zeroDimension => "embedding dimension must be > 0"
  | dimensionMismatch expected actual =>
    "embedding dimension mismatch: expected " ++ naturalText expected ++ ", got " ++
      naturalText actual
  | incompleteSearch => "vector search needs an index and search text"
  | unknownIndex index table => "vector index '" ++ index ++ "' not found on '" ++ table ++ "'"
  | unknownFilterOperator suffix => "unknown filter operator '" ++ suffix ++ "'"
  | noFields table => "table '" ++ table ++ "' has no fields"
  | unknownTable table => "table '" ++ table ++ "' not found"
  | poisoned reader => "reader '" ++ reader ++ "' lock poisoned"
  | noColumns reader => "reader '" ++ reader ++ "' exposes no columns"
  | unsupportedFormat format => "unsupported output format '" ++ format ++ "'"
  | noAnswerText => "response has no text content"
  | requestFailed reason => "request failed: " ++ reason
  | missingKey => "oracle api_key is not set"
  | zeroRequestTimeout => "oracle timeout_secs must be > 0"
  | zeroBatchSetting => "executor.batch_size must be > 0"
  | emptyDatabaseUrl => "executor.database_url must not be empty"
  | zeroTimeoutSetting => "oracle.timeout_secs must be > 0"
  | validation text | execution text | oracle text | config text => text
  | database => "the database refused the statement"
  | serialization => "the text is not the expected JSON"
  | configSyntax => "the configuration file is not valid"
  | io => "the file cannot be read"

end Error

def ErrorKind.heading : ErrorKind → String
  | validation => "Validation error: "
  | execution => "Execution error: "
  | oracle => "Oracle error: "
  | config => "Configuration error: "
  | database => "Database error: "
  | serialization => "Serialization error: "
  | configSyntax => "Failed to parse configuration: "
  | io => "IO error: "

def Error.message (e : Error) : String := e.kind.heading ++ e.detail

end FluentQuery
