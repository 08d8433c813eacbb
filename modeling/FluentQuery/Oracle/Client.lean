import FluentQuery.Json.Parser
import FluentQuery.Json.Printer
import FluentQuery.Oracle.Request
import FluentQuery.Settings.Basic

/-!
An oracle behind an HTTP interface. The sending itself is a parameter; everything before and
after it is here.
-/
namespace FluentQuery.Oracle

/-- A client of the interface; it has a key. -/
structure Client where
  endpoint : String
  model : String
  maxTokens : Nat
  apiKey : String
  timeoutSecs : Nat
deriving DecidableEq, Repr, Inhabited

structure Message where
  endpoint : String
  headers : List (String × String)
  body : Json
  timeoutSecs : Nat
deriving Repr, Inhabited

structure Response where
  status : Nat
  body : String
deriving DecidableEq, Repr, Inhabited

namespace Client

def version : String := "2023-06-01"

/-- A client with these settings, which need a key and a timeout. -/
def ofSettings (settings : OracleSettings) : Except Error Client :=
  match settings.apiKey.filter fun key => !Text.blank key with
  | none => .error .missingKey
  | some key =>
    if settings.timeoutSecs = 0 then .error .zeroRequestTimeout
    else .ok ⟨settings.endpoint, settings.model, settings.maxTokens, key, settings.timeoutSecs⟩

def body (client : Client) (request : Request) : Json :=
  .obj [
    ("model", .str client.model),
    ("max_tokens", .ofNat client.maxTokens),
    ("temperature", .ofDouble (request.temperature.convert .double)),
    ("messages", .arr [.obj [("role", .str "user"), ("content", .str (prompt request))]])]

def message (client : Client) (request : Request) : Message :=
  ⟨client.endpoint, [("x-api-key", client.apiKey), ("anthropic-version", version)],
    client.body request, client.timeoutSecs⟩

/-- Whether a text can stand in a header: it has no control character but the tab. -/
def isHeaderText (s : String) : Bool :=
  s.toList.all fun c => c = '\t' || (0x20 ≤ c.toNat && c.toNat ≠ 0x7F)

/-- Whether a text begins as an absolute address does: with a scheme, a colon and more. -/
def isAddress (s : String) : Bool :=
  match Text.splitFirst [':'] (Text.trimmed s.toList) with
  | some (c :: scheme, rest) =>
    c.isAlpha && scheme.all (fun c => c.isAlphanum || c = '+' || c = '-' || c = '.') &&
      !rest.isEmpty
  | _ => false

def statementOf (response : Response) : Except Error String :=
  if response.status < 200 || 300 ≤ response.status then
    .error (.oracle ("status " ++ naturalText response.status))
  else match Json.ofText? response.body with
    | none => .error (.oracle "invalid response JSON")
    | some body => (firstText body).map unfenced

/-- Asks for a statement. A message that cannot be built is not sent; `send` gives the response
or the reason why there is none. -/
def generate (client : Client) (send : Message → Except String Response) (request : Request) :
    Except Error String :=
  if !isHeaderText client.apiKey || !isAddress client.endpoint then
    .error (.requestFailed "builder error")
  else match send (client.message request) with
    | .error reason => .error (.requestFailed reason)
    | .ok response => statementOf response

end Client

end FluentQuery.Oracle
