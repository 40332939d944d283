/-
  `components/tcr/client/` — the three request paths to the Trusted Content Resolver (TCR).

  1. **`Client`** — the resolver's REST interface, called directly: a JSON body posted to
     `<host>tcr/v1/<operation>`.

  2. **`BaseClient`** — the command line of the Java and Golang clients: three words, the last one
     the same JSON body.

  3. **`MinusMinusBaseClient`** — the command line of the Python and JavaScript clients: the operation
     and one `--option='value'` for each single value and for each element of a set.

  Both command lines put single quotes around the values and join the words by blanks; the quoting is
  never looked at again.  What runs the line (`runner.command`, then bash) is outside the repository
  and enters as the parameter `command`.
-/
import TrainBdd.HttpUrl
import TrainBdd.ResolveResponse
import TrainBdd.Lib.Json

namespace TrainBdd

open Python

abbrev Issuer := String
abbrev EndpointTypes := PySet String

namespace Tcr

/-- The version segment of the REST interface, a constant of `Client`. -/
def VERSION : String := "tcr/v1"

def CONNECT_TIMEOUT_IN_SECONDS : Nat := 10

/-! ## The REST interface -/

structure Client where
  host : HttpUrl

/-- A `requests.post` call. -/
structure Post where
  url : String
  json : Json.Value
  headers : List (String × String)
  timeout : Nat

/-- `json=`: the body is the value's JSON text. -/
def Post.body (self : Post) : String := Json.dumps self.json

namespace Client

/-- `f"{self.host}{self.VERSION}"`. -/
def uri (self : Client) : String := self.host.str ++ VERSION

/-- `list(set)`, as a JSON array of strings. -/
def listed (xs : PySet String) : Json.Value := .arr (xs.elems.map .str)

/-- `_payload`: the body of a resolve request. -/
def payload (issuer : Issuer) (trustFrameworkPointers : PySet TrustFrameworkPointer)
    (endpointTypes : Option EndpointTypes) : Json.Value :=
  .obj ([("issuer", .str issuer), ("trustSchemePointers", listed trustFrameworkPointers)] ++
    -- `if endpoint_types:` leaves the key out for `None` and for the empty set
    if truthy endpointTypes then (endpointTypes.map fun types => ("endpointTypes", listed types)).toList
    else [])

/-- The body of a validate request, the same dictionary in every client. -/
def validatePayload (issuer : Issuer) (did : Did) (endpoints : PySet String) : Json.Value :=
  .obj [("issuer", .str issuer), ("did", .str did), ("endpoints", listed endpoints)]

def resolve (self : Client) (issuer : Issuer) (trustFrameworkPointers : PySet TrustFrameworkPointer)
    (endpointTypes : Option EndpointTypes) : Post where
  url := self.uri ++ "/resolve"
  json := payload issuer trustFrameworkPointers endpointTypes
  headers := [("Content-Type", "application/json")]
  timeout := CONNECT_TIMEOUT_IN_SECONDS

def tcrValidate (self : Client) (issuer : Issuer) (did : Did) (endpoints : PySet String) : Post where
  url := self.uri ++ "/validate"
  json := validatePayload issuer did endpoints
  headers := [("Content-Type", "application/json")]
  timeout := CONNECT_TIMEOUT_IN_SECONDS

end Client

/-! ## The command lines -/

/-- A command-line client: the resolver it talks to, and what its runner makes of the arguments. -/
structure BaseClient extends Client where
  command : String → String

namespace BaseClient

/-- `client_arguments` of `resolve`. -/
def resolveArguments (self : BaseClient) (issuer : Issuer)
    (trustFrameworkPointers : PySet TrustFrameworkPointer) (endpointTypes : Option EndpointTypes) :
    String :=
  let dump := Json.dumps (Client.payload issuer trustFrameworkPointers endpointTypes)
  " ".intercalate [
    "uri='" ++ self.uri ++ "'",
    "endpoint='resolve'",
    "data='" ++ dump ++ "'"]

/-- `client_arguments` of `tcr_validate`. -/
def validateArguments (self : BaseClient) (issuer : Issuer) (did : Did) (endpoints : PySet String) :
    String :=
  let dump := Json.dumps (Client.validatePayload issuer did endpoints)
  " ".intercalate [
    "uri='" ++ self.uri ++ "'",
    "endpoint='validate'",
    "data='" ++ dump ++ "'"]

def resolve (self : BaseClient) (issuer : Issuer)
    (trustFrameworkPointers : PySet TrustFrameworkPointer) (endpointTypes : Option EndpointTypes) :
    String :=
  self.command (self.resolveArguments issuer trustFrameworkPointers endpointTypes)

def tcrValidate (self : BaseClient) (issuer : Issuer) (did : Did) (endpoints : PySet String) :
    String :=
  self.command (self.validateArguments issuer did endpoints)

end BaseClient

/-- The client whose command line uses `--` options. -/
structure MinusMinusBaseClient extends BaseClient

namespace MinusMinusBaseClient

/-- `client_arguments` of `resolve`. -/
def resolveArguments (self : MinusMinusBaseClient) (issuer : Issuer)
    (trustFrameworkPointers : PySet TrustFrameworkPointer) (endpointTypes : Option EndpointTypes) :
    String :=
  " ".intercalate ([
    "resolve",
    "--uri='" ++ self.uri ++ "'",
    "--issuer='" ++ issuer ++ "'"
  ] ++ trustFrameworkPointers.elems.map (fun i => "--trust-scheme-pointer='" ++ i ++ "'")
    ++ (items (endpointTypes.map (·.elems))).map (fun i => "--endpoint-type='" ++ i ++ "'"))

/-- `client_arguments` of `tcr_validate`. -/
def validateArguments (self : MinusMinusBaseClient) (issuer : Issuer) (did : Did)
    (endpoints : PySet String) : String :=
  " ".intercalate ([
    "validate",
    "--uri='" ++ self.uri ++ "'",
    "--issuer='" ++ issuer ++ "'",
    "--did='" ++ did ++ "'"
  ] ++ endpoints.elems.map (fun i => "--endpoint='" ++ i ++ "'"))

def resolve (self : MinusMinusBaseClient) (issuer : Issuer)
    (trustFrameworkPointers : PySet TrustFrameworkPointer) (endpointTypes : Option EndpointTypes) :
    String :=
  self.command (self.resolveArguments issuer trustFrameworkPointers endpointTypes)

def tcrValidate (self : MinusMinusBaseClient) (issuer : Issuer) (did : Did)
    (endpoints : PySet String) : String :=
  self.command (self.validateArguments issuer did endpoints)

end MinusMinusBaseClient

/-! ## The optional endpoint types -/

/-- The endpoint types that are sent: none for `None` and for the empty set. -/
def sentTypes (endpointTypes : Option EndpointTypes) : List String :=
  items (endpointTypes.map (·.elems))

/-- `if endpoint_types:` asks for an element. -/
theorem truthy_types_iff (endpointTypes : Option EndpointTypes) :
    truthy endpointTypes = true ↔ sentTypes endpointTypes ≠ [] := by
  match endpointTypes with
  | none => simp [sentTypes]
  | some ⟨[], _⟩ => simp [sentTypes, truthy]
  | some ⟨t :: ts, _⟩ => simp [sentTypes, truthy]

/-- The payload, by whether endpoint types are sent. -/
theorem payload_eq (issuer : Issuer) (pointers : PySet TrustFrameworkPointer)
    (endpointTypes : Option EndpointTypes) :
    Client.payload issuer pointers endpointTypes =
      .obj ([("issuer", .str issuer), ("trustSchemePointers", Client.listed pointers)] ++
        if sentTypes endpointTypes = [] then []
        else [("endpointTypes", .arr ((sentTypes endpointTypes).map .str))]) := by
  unfold Client.payload
  by_cases h : sentTypes endpointTypes = []
  · have hfalse : ¬ truthy endpointTypes = true := fun ht => (truthy_types_iff _).mp ht h
    rw [if_neg hfalse, if_pos h]
  · rw [if_pos ((truthy_types_iff _).mpr h), if_neg h]
    cases endpointTypes with
    | none => exact absurd rfl h
    | some types => rfl

end Tcr

end TrainBdd
