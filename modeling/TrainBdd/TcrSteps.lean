/-
  `steps/resolver_on_client.py`, `steps/resolver_on_server.py`, `steps/tcr_validation.py` — the steps that
  collect the inputs of the resolver and send them to it.

  1. **Steps** — each one acts on the scenario's context and on the world behind it (the resolver, the
     shell), and may raise.  Texts of the feature file are formatted with the aliases that the step
     finds, except the DID and the endpoint types, which are taken as they are written.  What sends a
     request reads its inputs first (`resolveInputs`, `validateInputs`), and then posts it (`postWith`)
     or has bash run the line that a client makes of it (`commandWith`, `runWith`).
  2. **Sentences** — the steps with their parameters given as templates, so that a scenario says what
     is meant and its text is what is written.
  3. **Texts** — `lines_stored_iff`: which lines of a text are stored, and which missing key raises.
-/
import Mathlib.Data.Finset.Image
import TrainBdd.ClientRunner
import TrainBdd.Lib.Effect
import TrainBdd.Lib.Lines
import TrainBdd.Lib.StrFormat

namespace TrainBdd.Tcr

open Python Run Effect StrFormat Lines Text

/-! ## Clients -/

/-- The command line clients, by the classes of the steps' `match`. -/
inductive Cli
  | java
  | python
  | golang
  | javaScript
deriving DecidableEq, Repr

/-- The variables of `env.py` that the resolver's steps read.  The host is the validated one: `TCR_HOST`
    or the default. -/
structure Env where
  tcrHost : HttpUrl
  java : CliEnv
  py : CliEnv
  js : CliEnv
  goScriptPath : Option String

namespace Cli

/-- `match client_name`. -/
def ofName? : String → Option Cli
  | "Java" => some java
  | "Python" => some python
  | "Golang" => some golang
  | "JavaScript" => some javaScript
  | _ => none

/-- The `runner` property. -/
def runner (env : Env) : Cli → Except RunnerError Runner
  | java => Java.runner env.java
  | python => Py.runner env.py
  | golang => Golang.runner env.goScriptPath
  | javaScript => Js.runner env.js

variable (client : Client)

/-- The arguments of `resolve`: Java and Golang inherit from `BaseClient`, Python and JavaScript from
    `MinusMinusBaseClient`. -/
def resolveArguments (issuer : Issuer) (trustFrameworkPointers : PySet TrustFrameworkPointer)
    (endpointTypes : Option EndpointTypes) : Cli → String
  | java | golang =>
    BaseClient.resolveArguments ⟨client, id⟩ issuer trustFrameworkPointers endpointTypes
  | python | javaScript =>
    MinusMinusBaseClient.resolveArguments ⟨⟨client, id⟩⟩ issuer trustFrameworkPointers endpointTypes

/-- The arguments of `tcr_validate`. -/
def validateArguments (issuer : Issuer) (did : Did) (endpoints : PySet String) : Cli → String
  | java | golang => BaseClient.validateArguments ⟨client, id⟩ issuer did endpoints
  | python | javaScript => MinusMinusBaseClient.validateArguments ⟨⟨client, id⟩⟩ issuer did endpoints

end Cli

/-! ## The program: the steps -/

/-- What a step raises; `outside` is what the core package, `requests` or the bash module raise. -/
inductive TcrError
  | attributeError (name : String)
  | formatError (error : FormatError)
  | runnerError (error : RunnerError)
  | notImplementedError
  | assertionError (text : String)
  | unicodeDecodeError
  | outside (exception : String)
deriving DecidableEq, Repr

/-- What leaves the scenario: a direct post, or a line for bash. -/
inductive Sent
  | post (post : Post)
  | bash (line : String)

/-- `bytes.decode()`. -/
def decode (bytes : ByteArray) : Except TcrError String :=
  match String.fromUTF8? bytes with
  | some text => .ok text
  | none => .error .unicodeDecodeError

/-- `bash.bash(command)`. -/
structure BashResponse where
  code : Int
  stdout : ByteArray
  stderr : ByteArray

namespace BashResponse

/-- `bash_success`: the output of a command that has to succeed. -/
def success (self : BashResponse) : Except TcrError String := do
  let output ← decode self.stdout
  -- the message of the assert is only decoded when it fails
  if ¬ self.code = 0 then
    throw (.assertionError (← decode self.stderr))
  return output

/-- What the step that may fail takes for the output. -/
def output (self : BashResponse) : Except TcrError String :=
  if self.code = 0 then decode self.stdout else decode self.stderr

end BashResponse

/-- The context of a scenario; an attribute that was never set is `none`.  `R` is `requests.Response`. -/
structure Scenario (σ R : Type) where
  world : σ
  server : Option Client := none
  client : Option (Cli × Client) := none
  trustFrameworkPointers : Option (PySet TrustFrameworkPointer) := none
  issuer : Option Issuer := none
  endpointTypes : Option EndpointTypes := none
  did : Option Did := none
  endpoints : Option (PySet String) := none
  resolveResponseStr : Option String := none
  validateResponseStr : Option String := none
  requestsResponse : Option R := none
  sent : List Sent := []

/-- What is outside the repository: the resolver's health check and REST interface, the shell, and of the
    core package how a runner makes a command of arguments and the constructors of pointers, issuers and
    DIDs (the latter two by the text that they print as); then the fields of `str.format` that are no
    keys, and the order of sets. -/
structure World (σ R : Type) where
  isUp : HttpUrl → σ → Except TcrError Bool × σ
  post : Post → σ → Except TcrError R × σ
  bash : String → σ → Except TcrError BashResponse × σ
  command : Runner → String → Except TcrError String
  fromText : String → Except TcrError (PySet TrustFrameworkPointer)
  newIssuer : String → Except TcrError Issuer
  newDid : String → Except TcrError Did
  complexField : Field → Except FormatError (List Char)
  sets : SetBuilder String

variable {σ R α : Type}

abbrev TcrM (σ R : Type) := EStateM TcrError (Scenario σ R)

/-- `context.name`. -/
abbrev getattr (name : String) (value : Scenario σ R → Option α) : TcrM σ R α :=
  required (.attributeError name) value

/-- What acts on the world behind the context. -/
def onWorld (act : σ → Except TcrError α × σ) : TcrM σ R α :=
  acting Scenario.world (fun context world => { context with world := world }) act

section Steps

variable (env : Env) (world : World σ R) (aliases : String → Option String)

/-- `text.format(**context.aliases)`. -/
def formatText (text : String) : TcrM σ R String := do
  return String.ofList (← MonadExcept.ofExcept
    ((format world.complexField aliases text.toList).mapError TcrError.formatError))

/-- `set(text.splitlines())`. -/
def lineSet (text : String) : PySet String :=
  world.sets.set ((splitLines text.toList).map String.ofList)

def checkTcr : TcrM σ R Unit := do
  let server : Client := ⟨env.tcrHost⟩
  modify ({ · with server := some server })
  if ¬ (← onWorld (world.isUp server.host)) then
    throw (.assertionError "is not up")
  modify ({ · with endpointTypes := some ⟨[], List.nodup_nil⟩ })

def addClient (clientName : String) : TcrM σ R Unit := do
  match Cli.ofName? clientName with
  | none => throw .notImplementedError
  | some cli =>
    let client : Client := ⟨(← getattr "server" Scenario.server).host⟩
    modify ({ · with client := some (cli, client) })
    if ¬ (← onWorld (world.isUp client.host)) then
      throw (.assertionError "")

def addPointers (text : String) : TcrM σ R Unit := do
  let replaced ← formatText world aliases text
  let pointers ← MonadExcept.ofExcept (world.fromText replaced)
  modify ({ · with trustFrameworkPointers := some pointers })
  if ¬ truthy pointers then
    throw (.assertionError "")

def addIssuer (issuer : String) : TcrM σ R Unit := do
  let replaced ← formatText world aliases issuer
  let issuer ← MonadExcept.ofExcept (world.newIssuer replaced)
  modify ({ · with issuer := some issuer })

def addEndpointTypes (text : String) : TcrM σ R Unit :=
  modify ({ · with endpointTypes := some (lineSet world text) })

def addNoEndpointTypesProvided : TcrM σ R Unit :=
  modify ({ · with endpointTypes := some ⟨[], List.nodup_nil⟩ })

def addDid (did : String) : TcrM σ R Unit := do
  let did ← MonadExcept.ofExcept (world.newDid did)
  modify ({ · with did := some did })

def addEndpoints (text : String) : TcrM σ R Unit := do
  let replaced ← formatText world aliases text
  modify ({ · with endpoints := some (lineSet world replaced) })

/-- The arguments of a resolve call, in the order of the call. -/
def resolveInputs : TcrM σ R (PySet TrustFrameworkPointer × Issuer × EndpointTypes) := do
  let pointers ← getattr "trust_framework_pointers" Scenario.trustFrameworkPointers
  let issuer ← getattr "issuer" Scenario.issuer
  let types ← getattr "endpoint_types" Scenario.endpointTypes
  return (pointers, issuer, types)

/-- The arguments of a validate call. -/
def validateInputs : TcrM σ R (Did × Issuer × PySet String) := do
  let did ← getattr "did" Scenario.did
  let issuer ← getattr "issuer" Scenario.issuer
  let endpoints ← getattr "endpoints" Scenario.endpoints
  return (did, issuer, endpoints)

/-- `context.requests_response = context.server.method(..)`. -/
def postWith (inputs : TcrM σ R α) (method : Client → α → Post) : TcrM σ R Unit := do
  let server ← getattr "server" Scenario.server
  let post := method server (← inputs)
  modify fun context => { context with sent := context.sent ++ [Sent.post post] }
  let response ← onWorld (world.post post)
  modify ({ · with requestsResponse := some response })

/-- Step "resolve with server". -/
def resolveWithServer : TcrM σ R Unit :=
  postWith world resolveInputs fun server (pointers, issuer, types) =>
    server.resolve issuer pointers (some types)

/-- Step "validate with the server". -/
def validateWithServer : TcrM σ R Unit :=
  postWith world validateInputs fun server (did, issuer, endpoints) =>
    server.tcrValidate issuer did endpoints

/-- `context.client.method(..)`: what the client's runner makes of the arguments. -/
def commandWith (inputs : TcrM σ R α) (arguments : Cli → Client → α → String) : TcrM σ R String := do
  let (cli, client) ← getattr "client" Scenario.client
  let given ← inputs
  let runner ← MonadExcept.ofExcept ((cli.runner env).mapError TcrError.runnerError)
  MonadExcept.ofExcept (world.command runner (arguments cli client given))

def resolveCommand : TcrM σ R String :=
  commandWith env world resolveInputs fun cli client (pointers, issuer, types) =>
    cli.resolveArguments client issuer pointers (some types)

def validateCommand : TcrM σ R String :=
  commandWith env world validateInputs fun cli client (did, issuer, endpoints) =>
    cli.validateArguments client issuer did endpoints

/-- `bash.bash(command)`. -/
def runBash (line : String) : TcrM σ R BashResponse := do
  modify fun context => { context with sent := context.sent ++ [Sent.bash line] }
  onWorld (world.bash line)

/-- A command is run, and the output that is read off its response is kept. -/
def runWith (command : TcrM σ R String) (read : BashResponse → Except TcrError String)
    (keep : String → Scenario σ R → Scenario σ R) : TcrM σ R Unit := do
  let response ← runBash world (← command)
  let output ← MonadExcept.ofExcept (read response)
  modify (keep output)

/-- Step "resolve with the client". -/
def resolveWithClient : TcrM σ R Unit :=
  runWith world (resolveCommand env world) BashResponse.success fun output context =>
    { context with resolveResponseStr := some output }

/-- Step "validate with the client". -/
def validateWithClient : TcrM σ R Unit :=
  runWith world (validateCommand env world) BashResponse.success fun output context =>
    { context with validateResponseStr := some output }

/-- Step "may fail validate with the client". -/
def mayFailValidateWithClient : TcrM σ R Unit :=
  runWith world (validateCommand env world) BashResponse.output fun output context =>
    { context with validateResponseStr := some output }

end Steps

/-! ## Sentences -/

/-- The steps with their parameters: what is formatted is a template, a text of several lines is given
    line by line. -/
inductive Sentence
  | tcrIsRunning
  | installed (clientName : String)
  | pointers (lines : List Template)
  | issuer (template : Template)
  | endpointTypes (lines : List (List Char))
  | noEndpointTypes
  | did (did : String)
  | endpoints (lines : List Template)
  | resolveWithServer
  | resolveWithClient
  | validateWithServer
  | validateWithClient
  | mayFailValidateWithClient

/-- The text of a formatted parameter. -/
def written (template : Template) : String := String.ofList template.write

/-- The step of a sentence, called with the texts of the feature file. -/
def Sentence.run (env : Env) (world : World σ R) (aliases : String → Option String) :
    Sentence → TcrM σ R Unit
  | tcrIsRunning => checkTcr env world
  | installed clientName => addClient world clientName
  | pointers lines => addPointers world aliases (written (Template.lines lines))
  | issuer template => addIssuer world aliases (written template)
  | endpointTypes lines => addEndpointTypes world (String.ofList (['\n'].intercalate lines))
  | noEndpointTypes => addNoEndpointTypesProvided
  | did text => addDid world text
  | endpoints lines => addEndpoints world aliases (written (Template.lines lines))
  | resolveWithServer => Tcr.resolveWithServer world
  | resolveWithClient => Tcr.resolveWithClient env world
  | validateWithServer => Tcr.validateWithServer world
  | validateWithClient => Tcr.validateWithClient env world
  | mayFailValidateWithClient => Tcr.mayFailValidateWithClient env world

/-- A scenario: sentences in order, each with the aliases it finds. -/
def scenario (env : Env) (world : World σ R) (sentences : List ((String → Option String) × Sentence)) :
    TcrM σ R Unit :=
  sentences.forM fun sentence => sentence.2.run env world sentence.1

/-- The lines that the sentence's text is split into are the ones it was written from. -/
def Sentence.Kept (aliases : String → Option String) : Sentence → Prop
  | endpoints lines => ∀ filled, lines.mapM (Template.fill aliases) = .ok filled → Lines.Kept filled
  | endpointTypes lines => Lines.Kept lines
  | _ => True

/-! ## Texts of several lines -/

/-- A set of lines, as it is meant. -/
def texts (lines : List (List Char)) : Finset String := (lines.map String.ofList).toFinset

section Texts

variable {world : World σ R} {aliases : String → Option String} {context context' : Scenario σ R}

/-- A text that is written from a template formats to what fills the template. -/
theorem formatText_eq (template : Template) :
    formatText world aliases (written template) context =
      match template.fill aliases with
      | .ok filled => .ok (String.ofList filled) context
      | .error e => .error (.formatError e) context := by
  rw [formatText, written, String.toList_ofList, format_write]
  cases template.fill aliases with
  | ok filled => rfl
  | error e => rfl

theorem formatText_run_iff {template : Template} {text : String} :
    formatText world aliases (written template) context = .ok text context' ↔
      (∃ filled, template.fill aliases = .ok filled ∧ text = String.ofList filled) ∧
        context = context' := by
  rw [formatText_eq]
  cases template.fill aliases with
  | error e => simp
  | ok filled => simp [eq_comm]

/-- The lines of a text as a set. -/
theorem lineSet_eq_iff (lines : List (List Char)) :
    (lineSet world (String.ofList (['\n'].intercalate lines))).elems.toFinset = texts lines ↔
      Lines.Kept lines := by
  have himage : ∀ lines : List (List Char),
      (lines.map String.ofList).toFinset = lines.toFinset.image String.ofList := by
    intro lines
    ext text
    simp
  have hset : (lineSet world (String.ofList (['\n'].intercalate lines))).elems.toFinset =
      ((splitLines (['\n'].intercalate lines)).map String.ofList).toFinset := by
    ext text
    rw [List.mem_toFinset, ← PySet.mem_iff, lineSet, world.sets.mem_set, String.toList_ofList,
      List.mem_toFinset]
  have hinjective : Function.Injective String.ofList := fun _ _ h => String.ofList_injective h
  rw [hset, texts, himage, himage, Finset.image_inj hinjective, Lines.toFinset_splitLines_iff]

/-- **What the texts of several lines store**: the endpoints raise for the first key that the aliases do
    not have, and for nothing else, and the context stays; without a missing key the set of the filled
    lines is stored exactly when the lines are kept.  The endpoint types are not formatted, so their lines
    are stored as they are written, braces and all. -/
theorem lines_stored_iff (world : World σ R) (aliases : String → Option String) (lines : List Template)
    (types : List (List Char)) (context : Scenario σ R) :
    (∀ error context',
      addEndpoints world aliases (written (Template.lines lines)) context = .error error context' ↔
        context' = context ∧ ∃ key, error = .formatError (.keyError key) ∧
          (lines.flatMap Template.keys).find? (fun key => (aliases key).isNone) = some key) ∧
    (∀ filled, lines.mapM (Template.fill aliases) = .ok filled →
      ∃ endpoints : PySet String,
        addEndpoints world aliases (written (Template.lines lines)) context =
          .ok () { context with endpoints := some endpoints } ∧
        (endpoints.elems.toFinset = texts filled ↔ Lines.Kept filled)) ∧
    ∃ stored : PySet String,
      addEndpointTypes world (String.ofList (['\n'].intercalate types)) context =
        .ok () { context with endpointTypes := some stored } ∧
      (stored.elems.toFinset = texts types ↔ Lines.Kept types) := by
  refine ⟨fun error context' => ?_, fun filled hfilled => ?_, _, rfl, lineSet_eq_iff types⟩
  · rw [← Template.keys_lines]
    have hfill : ∀ e, (Template.lines lines).fill aliases = .error e ↔ _ := fun e =>
      Template.fill_eq_error_iff
    cases hlines : (Template.lines lines).fill aliases with
    | ok text =>
      have hstored : addEndpoints world aliases (written (Template.lines lines)) context =
          .ok () { context with endpoints := some (lineSet world (String.ofList text)) } :=
        bind_eq_ok_iff.2 ⟨_, _, formatText_run_iff.2 ⟨⟨text, hlines, rfl⟩, rfl⟩, rfl⟩
      rw [hstored]
      refine iff_of_false (fun h => by cases h) ?_
      rintro ⟨-, key, -, hmissing⟩
      have hraises := (hfill _).2 ⟨key, rfl, hmissing⟩
      rw [hlines] at hraises
      cases hraises
    | error e =>
      have hraised : addEndpoints world aliases (written (Template.lines lines)) context =
          .error (.formatError e) context := by
        apply bind_raise
        rw [formatText_eq, hlines]
      obtain ⟨key, rfl, hmissing⟩ := (hfill e).1 hlines
      rw [hraised]
      constructor
      · intro h
        cases h
        exact ⟨rfl, key, rfl, hmissing⟩
      · rintro ⟨rfl, other, rfl, hother⟩
        rw [hmissing] at hother
        cases hother
        rfl
  · have hlines : (Template.lines lines).fill aliases = .ok (['\n'].intercalate filled) := by
      rw [Template.fill_lines, hfilled]
      rfl
    refine ⟨lineSet world (String.ofList (['\n'].intercalate filled)), ?_, lineSet_eq_iff filled⟩
    exact bind_eq_ok_iff.2 ⟨_, _, formatText_run_iff.2 ⟨⟨_, hlines, rfl⟩, rfl⟩, rfl⟩

end Texts

/-- A resolver that is up, and a shell on which every command succeeds. -/
def quietWorld : World Unit Unit where
  isUp _ state := (.ok true, state)
  post _ state := (.ok (), state)
  bash _ state := (.ok ⟨0, ⟨#[0x7b, 0x7d]⟩, .empty⟩, state)
  command
    | .nativeJava path, arguments => .ok ("java -jar " ++ path ++ " " ++ arguments)
    | .nativeScript path, arguments => .ok (path ++ " " ++ arguments)
    | .dockerized implementation image, arguments =>
      .ok (implementation ++ " run " ++ image ++ " " ++ arguments)
  fromText text := .ok ((SetBuilder.dedup String).set ((splitLines text.toList).map String.ofList))
  newIssuer := .ok
  newDid := .ok
  complexField _ := .error (.other "a field that is no key")
  sets := .dedup String

/-- `own` stands for a DID in every step. -/
def ownDid (name : String) : Option String := if name = "own" then some "did:a" else none

def ownField : Template := [.field ⟨['o', 'w', 'n'], by decide, by decide⟩]

theorem fill_ownField : ownField.fill ownDid = .ok ['d', 'i', 'd', ':', 'a'] := by
  have hown : ownDid (String.ofList ['o', 'w', 'n']) = some "did:a" := rfl
  have hvalue : (Piece.field ⟨['o', 'w', 'n'], by decide, by decide⟩).value ownDid =
      .ok ['d', 'i', 'd', ':', 'a'] := by
    rw [Piece.value, hown]
    exact congrArg Except.ok (toList_of_ofList rfl)
  rw [ownField, Template.fill_cons, hvalue]
  rfl

/-- The endpoints as they are stored, one of them twice. -/
def threeLines : List (List Char) := [['a'], ['d', 'i', 'd', ':', 'a'], ['a']]

theorem fill_threeLines :
    [[Piece.literal 'a'], ownField, [Piece.literal 'a']].mapM (Template.fill ownDid) =
      .ok threeLines := by
  have hletter : Template.fill ownDid [Piece.literal 'a'] = .ok ['a'] := rfl
  simp only [List.mapM_cons, List.mapM_nil, hletter, fill_ownField]
  rfl

theorem texts_threeLines : texts threeLines = {"a", "did:a"} := by
  have hfirst : String.ofList ['a'] = "a" := rfl
  have hsecond : String.ofList ['d', 'i', 'd', ':', 'a'] = "did:a" := rfl
  rw [texts, threeLines, List.map_cons, List.map_cons, List.map_singleton, hfirst, hsecond]
  ext text
  simp [or_comm]

/-- The endpoint that stands twice is stored once; an empty last line is not stored, and a brace in an
    endpoint type needs no alias. -/
theorem lines_stored_three :
    let start : Scenario Unit Unit := { world := () }
    (∃ endpoints : PySet String,
      addEndpoints quietWorld ownDid
          (written (Template.lines [[.literal 'a'], ownField, [.literal 'a']])) start =
        .ok () { start with endpoints := some endpoints } ∧
      endpoints.elems.toFinset = {"a", "did:a"}) ∧
    ∃ stored : PySet String,
      addEndpointTypes quietWorld (String.ofList (['\n'].intercalate [['\x7b'], []])) start =
        .ok () { start with endpointTypes := some stored } ∧
      stored.elems.toFinset ≠ texts [['\x7b'], []] := by
  intro start
  have hstored := lines_stored_iff quietWorld ownDid [[.literal 'a'], ownField, [.literal 'a']]
    [['\x7b'], []] start
  constructor
  · obtain ⟨endpoints, hendpoints, hkept⟩ := hstored.2.1 _ fill_threeLines
    refine ⟨endpoints, hendpoints, ?_⟩
    rw [hkept.2 (by decide), texts_threeLines]
  · obtain ⟨stored, htypes, hkept⟩ := hstored.2.2
    exact ⟨stored, htypes, fun heq => absurd (hkept.1 heq) (by decide)⟩

end TrainBdd.Tcr
