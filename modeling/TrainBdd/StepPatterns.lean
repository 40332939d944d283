/-
  `steps/*.py` — the vocabulary of the scenarios: which sentences the step patterns match.

  1. **Types** — `_register_types.py` registers two field types, a pointer alias and a comma-separated
     list of aliases, each by a regular expression.
  2. **Sentences** — a pattern matches a whole sentence and ignores case; both are folded first.
  3. **Steps** — every `@given`, `@when` and `@then` of the directory, by file, function and the text of
     its pattern.
  4. **Registration** — a step is refused when a pattern before it matches the text of its own.
  5. **Dispatch** — the first registered pattern that matches runs.
-/
import TrainBdd.Lib.Format
import TrainBdd.Lib.Text

namespace TrainBdd.StepPatterns

open Regex

/-! ## Types -/

/-- How a character is compared when case is ignored: the letters of the patterns are ASCII, and beside
    their capitals four more characters fold to one of them. -/
def caseFold (c : Char) : Char :=
  if 'A' ≤ c ∧ c ≤ 'Z' then Char.ofNat (c.toNat + 32)
  else if c.toNat = 0x130 ∨ c.toNat = 0x131 then 'i'
  else if c.toNat = 0x17f then 's'
  else if c.toNat = 0x212a then 'k'
  else c

/-- `\s` -/
def isSpace (c : Char) : Bool :=
  (0x9 ≤ c.toNat ∧ c.toNat ≤ 0xd) ∨ (0x1c ≤ c.toNat ∧ c.toNat ≤ 0x20) ∨
    (0x2000 ≤ c.toNat ∧ c.toNat ≤ 0x200a) ∨
    c.toNat ∈ [0x85, 0xa0, 0x1680, 0x2028, 0x2029, 0x202f, 0x205f, 0x3000]

/-- `[0-9a-z]` -/
def isAlnum (c : Char) : Bool := ('0' ≤ c ∧ c ≤ '9') ∨ ('a' ≤ c ∧ c ≤ 'z')

/-- `[-0-9a-z]` -/
def isAliasChar (c : Char) : Bool := c = '-' ∨ isAlnum c

/-- `TrustFrameworkPointerAlias`: `[0-9a-z][-0-9a-z]+[0-9a-z]`. -/
def pointerAlias : Regex Char := seq (cls isAlnum) (seq (plus (cls isAliasChar)) (cls isAlnum))

/-- `\s*,\s*` and one more alias. -/
def nextAlias : Regex Char :=
  seq (star (cls isSpace)) (seq (text [',']) (seq (star (cls isSpace)) pointerAlias))

/-- `TrustFrameworkPointerAliases`: `TypeBuilder.with_many(parse_pointer_alias)`. -/
def pointerAliases : Regex Char := seq pointerAlias (star nextAlias)

/-- What stands between the braces of a field: a name alone takes any run of the line, which a sentence
    is one of; a name with a type takes what is registered for the type. -/
def fieldRegex (field : List Char) : Regex Char :=
  match (Text.cut ':' field).2 with
  | none => anyRun
  | some type =>
    if type = "TrustFrameworkPointerAlias".toList then pointerAlias
    else if type = "TrustFrameworkPointerAliases".toList then pointerAliases
    else .zero

/-! ## Sentences -/

/-- The format of a pattern, its literals folded. -/
def readPattern (pattern : List Char) : Format Char :=
  (Format.read (fun c => c = '\x7b' || c = '\x7d') fieldRegex pattern).mapLiterals caseFold

/-- A sentence as it is compared. -/
def foldSentence (sentence : String) : List Char := sentence.toList.map caseFold

/-! ## Steps -/

inductive Keyword
  | given
  | when
  | «then»
deriving DecidableEq, Repr

/-- A decorated function. -/
structure StepDefinition where
  file : String
  function : String
  pattern : String
deriving DecidableEq, Repr

def checkPointerExists : StepDefinition :=
  ⟨"dns_zone_manager_server.py", "check_pointer_exists",
    "Trust Framework Pointers: {pointers:TrustFrameworkPointerAliases}"⟩

def checkPointerNotExists : StepDefinition :=
  ⟨"dns_zone_manager_server.py", "check_pointer_not_exists",
    "Trust Framework Pointers not exists: {pointers:TrustFrameworkPointerAliases}"⟩

def createDidForPointer : StepDefinition :=
  ⟨"dns_zone_manager_server.py", "create_did_for_pointer",
    "requests DID {did} pointer {pointer} creation"⟩

def readPointersDid : StepDefinition :=
  ⟨"dns_zone_manager_server.py", "read_pointers_did",
    "requests DID for pointer {pointer}"⟩

def checkDnsResolver : StepDefinition :=
  ⟨"resolver_on_client.py", "check_dns_resolver",
    "{dns_implementation_type} configured in TCR"⟩

def addClient : StepDefinition :=
  ⟨"resolver_on_client.py", "add_client",
    "{client_name} installed"⟩

def createDidForPointerInTspa : StepDefinition :=
  ⟨"tspa.py", "create_did_for_pointer",
    "requests DID {did} pointer {pointer} creation in TSPA Server"⟩

def createTrustListAsXmlWithContent : StepDefinition :=
  ⟨"tspa.py", "create_trust_list_as_xml_with_content",
    "create Trust List with XML payload for pointer {pointer} with content"⟩

def createTrustListAsXmlWithAlias : StepDefinition :=
  ⟨"tspa.py", "create_trust_list_as_xml_with_alias",
    "create Trust List with XML payload for pointer {pointer} with {alias_key}"⟩

def createTrustListAsJsonWithContent : StepDefinition :=
  ⟨"tspa.py", "create_trust_list_as_json_with_content",
    "create Trust List with JSON payload for pointer {pointer} with content"⟩

def createTrustListAsJsonWithAlias : StepDefinition :=
  ⟨"tspa.py", "create_trust_list_as_json_with_alias",
    "create Trust List with JSON payload for pointer {pointer} with {alias_key}"⟩

/-- The steps of a keyword, file by file. -/
def declared : Keyword → List StepDefinition
  | .given => [
    ⟨"dns_zone_manager_server.py", "check_dns_zm_server_up", "DNS Zone Manager Server is up"⟩,
    ⟨"dns_zone_manager_server.py", "remove_all_pointers",
      "all zones deleted in ZM successfully .."⟩,
    checkPointerExists,
    checkPointerNotExists,
    ⟨"keycloak.py", "check_zm_keycloak_up", "ZM Keycloak is up"⟩,
    ⟨"keycloak.py", "check_tspa_keycloak_up", "TSPA Keycloak is up"⟩,
    ⟨"keycloak.py", "load", "saved Keycloak token"⟩,
    ⟨"resolver_on_client.py", "check_tcr", "that TCR is running"⟩,
    ⟨"resolver_on_client.py", "check_validate_dns", "TCR has DNSSEC enabled"⟩,
    ⟨"resolver_on_client.py", "check_did_resolver", "DID Resolver is running"⟩,
    checkDnsResolver,
    ⟨"resolver_on_client.py", "check_pointers",
      "pointers are `{configured_or_misconfigured}` in DNS"⟩,
    addClient,
    ⟨"resolver_on_client.py", "add_pointers", "input pointers provided"⟩,
    ⟨"resolver_on_client.py", "add_issuer", "input issuer `{issuer}` provided"⟩,
    ⟨"resolver_on_client.py", "add_endpoint_types", "input Endpoint Types provided"⟩,
    ⟨"resolver_on_client.py", "add_no_endpoint_types_provided",
      "no input Endpoint Types provided"⟩,
    ⟨"tcr_validation.py", "add_did", "input DID `{did}` provided"⟩,
    ⟨"tcr_validation.py", "add_endpoints", "input Endpoints provided"⟩,
    ⟨"tspa.py", "check_tspa_server_up", "TSPA Server is up"⟩,
    ⟨"tspa.py", "check_tspa_ui_up", "TSPA UI is up"⟩]
  | .when => [
    ⟨"dns_zone_manager_server.py", "creating_pointers",
      "creating pointers: {include_pointers:TrustFrameworkPointerAliases} into {pointer:TrustFrameworkPointerAlias}"⟩,
    ⟨"dns_zone_manager_server.py", "requests_zones", "requests from ZM server all the zones"⟩,
    ⟨"dns_zone_manager_server.py", "remove_pointer_from_zm_server",
      "remove from ZM server pointer {pointer}"⟩,
    ⟨"dns_zone_manager_server.py", "remove_did_pointer_from_zm_server",
      "remove from ZM server DIDs pointer {pointer}"⟩,
    ⟨"dns_zone_manager_server.py", "requests_pointer", "requests pointer {alias}"⟩,
    createDidForPointer,
    readPointersDid,
    ⟨"keycloak.py", "fetch_keycloak_token", "fetch Keycloak token"⟩,
    ⟨"resolver_on_client.py", "run_resolver", "resolve with the client"⟩,
    ⟨"resolver_on_server.py", "run_resolver", "resolve with server"⟩,
    ⟨"tcr_validation.py", "run_validate_with_client", "validate with the client"⟩,
    ⟨"tcr_validation.py", "run_may_fail_validate_with_client",
      "may fail validate with the client"⟩,
    ⟨"tcr_validation.py", "run_validate_with_server", "validate with the server"⟩,
    ⟨"tspa.py", "tspa_creating_pointers",
      "TSPA create pointer {pointer:TrustFrameworkPointerAlias}"⟩,
    createDidForPointerInTspa,
    ⟨"tspa.py", "remove_did_pointer_from_tspa_server",
      "remove from TSPA Server DIDs pointer {pointer}"⟩,
    ⟨"tspa.py", "remove_pointer_from_tspa_server", "remove from TSPA Server pointer {pointer}"⟩,
    createTrustListAsXmlWithContent,
    createTrustListAsXmlWithAlias,
    createTrustListAsJsonWithContent,
    createTrustListAsJsonWithAlias,
    ⟨"tspa.py", "read_trust_list", "read Trust List {pointer}"⟩,
    ⟨"tspa.py", "read_vc", "read VC {pointer}"⟩,
    ⟨"tspa.py", "remove_trust_list", "remove Trust List {pointer}"⟩,
    ⟨"tspa.py", "publish_tsp", "publish TSP pointer {pointer} with {alias_key}"⟩,
    ⟨"tspa.py", "update_tsp", "update TSP pointer/tsp_id {pointer}/{tsp_id} with {alias_key}"⟩,
    ⟨"tspa.py", "delete_tsp", "delete TSP pointer/tsp_id {pointer}/{tsp_id}"⟩]
  | .«then» => [
    ⟨"dns_zone_manager_server.py", "delete_all_zones_in_listed_in_request_response",
      "delete all zones listed in requests response"⟩,
    ⟨"keycloak.py", "save", "save Keycloak token"⟩,
    ⟨"resolver_on_client.py", "check_if_resolved_response_is_valid", "resolved response is valid"⟩,
    ⟨"resolver_on_client.py", "check_all_input_pointers_are_resolved_with_at_least_one_did",
      "all input pointers are resolved with at least one DID"⟩,
    ⟨"resolver_on_client.py", "check_no_did_resolver", "no DID resolved"⟩,
    ⟨"resolver_on_client.py", "check_all_resolved_did_have_a_tl", "all resolved DID has a TL"⟩,
    ⟨"resolver_on_client.py", "check_all_resolved_did_does_not_have_a_tl",
      "all resolved DID don't have a TL"⟩,
    ⟨"tcr_validation.py", "check_if_validation_response_is_valid", "validation response is valid"⟩,
    ⟨"tcr_validation.py", "check_validation_response_content_for_exact_match_with_regexp",
      "validation response content exact match regexp"⟩,
    ⟨"tcr_validation.py", "check_did_is_verified", "DID is Verified"⟩,
    ⟨"tcr_validation.py", "check_did_is_not_verified", "DID isn't Verified"⟩]

/-! ## Registration -/

namespace StepDefinition

def format (step : StepDefinition) : Format Char := readPattern step.pattern.toList

/-- The step's pattern matches the sentence as a whole. -/
def runsOn (step : StepDefinition) (sentence : String) : Bool :=
  step.format.accepts (foldSentence sentence)

end StepDefinition

/-- What the registry raises: the step to be added, and the one in its way. -/
structure AmbiguousStep where
  new : StepDefinition
  existing : StepDefinition
deriving DecidableEq, Repr

/-- `add_step_definition`: the text of the new pattern is taken for a sentence, and no step registered
    before may run on it. -/
def addStepDefinition (registered : List StepDefinition) (new : StepDefinition) :
    Except AmbiguousStep (List StepDefinition) :=
  match registered.find? fun existing => existing = new || existing.runsOn new.pattern with
  | none => .ok (registered ++ [new])
  | some existing =>
    -- a module that is loaded twice adds nothing
    if existing = new then .ok registered else .error ⟨new, existing⟩

/-- The registry after all steps of a keyword are added in this order. -/
def register (order : List StepDefinition) : Except AmbiguousStep (List StepDefinition) :=
  order.foldlM addStepDefinition []

/-- The steps can be registered in this order. -/
def Accepted (order : List StepDefinition) : Prop := register order = .ok order

/-! ## Dispatch -/

/-- The step that runs: the first one registered whose pattern matches. -/
def dispatch (registered : List StepDefinition) (sentence : String) : Option StepDefinition :=
  registered.find? fun step => step.runsOn sentence

end TrainBdd.StepPatterns
