/-
  Scenarios on the resolver — the requests they end in.

  1. **Requests** — what the inputs ask the resolver (`Inputs.resolveRequest`), in which words a client is
     asked (`Inputs.ResolveWords`), and what it is for a step to send that and nothing else (`Posts`,
     `Runs`).
  2. **Rules** — a direct step (`postWith_posts`), and a step with a client (`runWith_runs`), whose line
     has the runner's own words in front (`Prepends`).
  3. **Theorem** — `requests_carry_inputs`: behind any sentences every step sends what the sentences have
     provided, and a step that lacks something sends nothing.
-/
import TrainBdd.TcrRequest
import TrainBdd.TcrScenario

namespace TrainBdd.Tcr

open Python Shell Run Effect StrFormat Lines Text

variable {σ R α : Type}

/-! ## Requests -/

namespace Inputs

/-- What "resolve with .." should ask the resolver, when everything it needs has been provided. -/
def resolveRequest (host : HttpUrl) (inputs : Inputs) : Option Request := do
  let pointers ← inputs.pointers
  let issuer ← inputs.issuer
  let types ← inputs.endpointTypes
  return {
    operation := .resolve
    url := target (Client.uri ⟨host⟩) .resolve
    issuer := issuer
    did := none
    pointers := pointers
    endpointTypes := unlessEmpty types
    endpoints := ∅ }

/-- What "validate with .." should ask. -/
def validateRequest (host : HttpUrl) (inputs : Inputs) : Option Request := do
  let did ← inputs.did
  let issuer ← inputs.issuer
  let endpoints ← inputs.endpoints
  return {
    operation := .validate
    url := target (Client.uri ⟨host⟩) .validate
    issuer := issuer
    did := some did
    pointers := ∅
    endpointTypes := none
    endpoints := endpoints }

/-- A direct request needs the resolver that "TCR is running" has set. -/
def direct (inputs : Inputs) (request : Option Request) : Option Request :=
  if inputs.started then request else none

/-- The words of "resolve with the client", on the provided issuer and on sets with the provided
    elements. -/
def ResolveWords (host : HttpUrl) (inputs : Inputs) (cli : Cli) (words : List String) : Prop :=
  ∃ (issuer : Issuer) (pointers : PySet TrustFrameworkPointer) (types : EndpointTypes),
    inputs.issuer = some issuer ∧ inputs.pointers = some pointers.elems.toFinset ∧
    inputs.endpointTypes = some types.elems.toFinset ∧
    words = match cli with
      | .java | .golang =>
        BaseClient.words ⟨⟨host⟩, id⟩ "resolve" (Json.dumps (Client.payload issuer pointers (some types)))
      | .python | .javaScript =>
        MinusMinusBaseClient.resolveWords ⟨⟨⟨host⟩, id⟩⟩ issuer pointers (some types)

/-- The words of "validate with the client". -/
def ValidateWords (host : HttpUrl) (inputs : Inputs) (cli : Cli) (words : List String) : Prop :=
  ∃ (issuer : Issuer) (did : Did) (endpoints : PySet String),
    inputs.issuer = some issuer ∧ inputs.did = some did ∧
    inputs.endpoints = some endpoints.elems.toFinset ∧
    words = match cli with
      | .java | .golang =>
        BaseClient.words ⟨⟨host⟩, id⟩ "validate" (Json.dumps (Client.validatePayload issuer did endpoints))
      | .python | .javaScript =>
        MinusMinusBaseClient.validateWords ⟨⟨⟨host⟩, id⟩⟩ issuer did endpoints

/-- No provided text has an apostrophe. -/
structure QuoteFree (inputs : Inputs) : Prop where
  issuer : ∀ text, inputs.issuer = some text → NoQuote text
  did : ∀ text, inputs.did = some text → NoQuote text
  pointers : ∀ set, inputs.pointers = some set → ∀ text ∈ set, NoQuote text
  endpointTypes : ∀ set, inputs.endpointTypes = some set → ∀ text ∈ set, NoQuote text
  endpoints : ∀ set, inputs.endpoints = some set → ∀ text ∈ set, NoQuote text

end Inputs

/-- The runners that the environment selects put words of their own in front of the arguments. -/
def Prepends (env : Env) (world : World σ R) (own : Runner → List String) : Prop :=
  ∀ (cli : Cli) (runner : Runner) (arguments : String) (words : List String),
    cli.runner env = .ok runner → shellWords arguments = .ok words →
      ∃ line, world.command runner arguments = .ok line ∧ shellWords line = .ok (own runner ++ words)

/-- A step that posts a request: it sends one post, which is read back as the request, and raises what
    `requests.post` raises; without a request it sends nothing. -/
structure Posts (world : World σ R) (request : Option Request) (step : TcrM σ R Unit)
    (context : Scenario σ R) : Prop where
  asks : ∀ asked, request = some asked → ∃ post, readPost post = some asked ∧
    (left step context).sent = context.sent ++ [Sent.post post] ∧
    outcome step context = (world.post post context.world).1.map fun _ => ()
  lacks : request = none → ∃ name, step context = .error (.attributeError name) context

/-- A step that sends a request with the installed client, if there are words that say it: bash gets one
    line, of the words of the runner and these, and `read` is applied to its response.  Without a client,
    a runner or the words the step sends nothing. -/
structure Runs (env : Env) (world : World σ R) (own : Runner → List String) (client : Option Cli)
    (Says : Cli → List String → Prop) (read : BashResponse → Except TcrError String)
    (step : TcrM σ R Unit) (context : Scenario σ R) : Prop where
  asks : ∀ cli runner, client = some cli → cli.runner env = .ok runner → (∃ words, Says cli words) →
    ∃ line words, Says cli words ∧ shellWords line = .ok (own runner ++ words) ∧
      (left step context).sent = context.sent ++ [Sent.bash line] ∧
      outcome step context = ((world.bash line context.world).1 >>= read).map fun _ => ()
  lacks : (¬ ∃ cli runner words, client = some cli ∧ cli.runner env = .ok runner ∧ Says cli words) →
    ∃ e, step context = .error e context

section Requests

variable {env : Env} {world : World σ R} {own : Runner → List String} {context : Scenario σ R}

theorem outcome_onWorld (act : σ → Except TcrError α × σ) (context : Scenario σ R) :
    outcome (onWorld act) context = (act context.world).1 := outcome_acting

theorem left_onWorld (act : σ → Except TcrError α × σ) (context : Scenario σ R) :
    left (onWorld act) context = { context with world := (act context.world).2 } := left_acting

theorem postWith_run {inputs : TcrM σ R α} {method : Client → α → Post} {server : Client} {a : α}
    (hserver : context.server = some server) (hinputs : inputs context = .ok a context) :
    outcome (postWith world inputs method) context =
        (world.post (method server a) context.world).1.map (fun _ => ()) ∧
      (left (postWith world inputs method) context).sent =
        context.sent ++ [Sent.post (method server a)] := by
  let posted : Scenario σ R := { context with sent := context.sent ++ [Sent.post (method server a)] }
  have hrun : postWith world inputs method context =
      (onWorld (world.post (method server a)) >>= fun response =>
        (modify ({ · with requestsResponse := some response }) : TcrM σ R Unit)) posted := by
    refine (bind_required hserver).trans ((bind_run hinputs).trans ?_)
    rfl
  have hanswer := outcome_onWorld (world.post (method server a)) posted
  rw [outcome_congr hrun, left_congr hrun]
  cases hpost : (world.post (method server a) context.world).1 with
  | error e =>
    rw [outcome_bind_error (hanswer.trans hpost), left_bind_error (hanswer.trans hpost), left_onWorld]
    exact ⟨rfl, rfl⟩
  | ok response =>
    rw [outcome_bind_ok (hanswer.trans hpost), left_bind_ok (hanswer.trans hpost), left_onWorld]
    exact ⟨rfl, rfl⟩

/-- **A direct step**, if its method posts the request that is made of its inputs. -/
theorem postWith_posts {inputs : TcrM σ R α} (hquiet : Quiet inputs) {method : Client → α → Post}
    {request : Option Request} (hosted : Hosted env context)
    (hread : ∀ a server, inputs context = .ok a context → server.host = env.tcrHost →
      ∃ asked, request = some asked ∧ readPost (method server a) = some asked)
    (hmissing : (∀ a, inputs context ≠ .ok a context) → request = none) :
    Posts world (context.inputs.direct request) (postWith world inputs method) context := by
  cases hserver : context.server with
  | none =>
    have hnone : context.inputs.direct request = none := by
      rw [Inputs.direct, Scenario.inputs, hserver]
      rfl
    rw [hnone]
    exact ⟨nofun, fun _ => ⟨"server", bind_required_none hserver⟩⟩
  | some server =>
    have hstarted : context.inputs.direct request = request := by
      rw [Inputs.direct, Scenario.inputs, hserver]
      rfl
    rw [hstarted]
    rcases hquiet context with ⟨a, ha⟩ | ⟨name, hname⟩
    · obtain ⟨asked, rfl, hpost⟩ := hread a server ha (hosted.server server hserver)
      obtain ⟨houtcome, hsent⟩ := @postWith_run _ _ _ world _ _ method _ _ hserver ha
      refine ⟨?_, nofun⟩
      rintro _ ⟨⟩
      exact ⟨method server a, hpost, hsent, houtcome⟩
    · have hnone : request = none := hmissing fun a ha => by
        rw [hname] at ha
        cases ha
      rw [hnone]
      exact ⟨nofun, fun _ => ⟨name, (bind_required hserver).trans (bind_raise hname)⟩⟩

theorem runWith_run {command : TcrM σ R String} {read : BashResponse → Except TcrError String}
    {keep : String → Scenario σ R → Scenario σ R} {line : String}
    (hcommand : command context = .ok line context)
    (hkeep : ∀ output context, (keep output context).sent = context.sent) :
    outcome (runWith world command read keep) context =
        ((world.bash line context.world).1 >>= read).map (fun _ => ()) ∧
      (left (runWith world command read keep) context).sent = context.sent ++ [Sent.bash line] := by
  let run : Scenario σ R := { context with sent := context.sent ++ [Sent.bash line] }
  have hrun : runWith world command read keep context =
      (onWorld (world.bash line) >>= fun response => MonadExcept.ofExcept (read response) >>= fun output =>
        (modify (keep output) : TcrM σ R Unit)) run := by
    refine (bind_run hcommand).trans ?_
    rfl
  have hanswer := outcome_onWorld (world.bash line) run
  rw [outcome_congr hrun, left_congr hrun]
  cases hbash : (world.bash line context.world).1 with
  | error e =>
    rw [outcome_bind_error (hanswer.trans hbash), left_bind_error (hanswer.trans hbash), left_onWorld]
    exact ⟨rfl, rfl⟩
  | ok response =>
    rw [outcome_bind_ok (hanswer.trans hbash), left_bind_ok (hanswer.trans hbash), left_onWorld]
    show _ = (read response).map _ ∧ _
    cases hread : read response with
    | error e => exact ⟨rfl, rfl⟩
    | ok output => exact ⟨rfl, hkeep output _⟩

/-- **A step with a client**, if the arguments that are made of its inputs split into words that say the
    request. -/
theorem runWith_runs {inputs : TcrM σ R α} (hquiet : Quiet inputs) {arguments : Cli → Client → α → String}
    {read : BashResponse → Except TcrError String} {keep : String → Scenario σ R → Scenario σ R}
    {Says : Cli → List String → Prop} (hosted : Hosted env context) (hprepends : Prepends env world own)
    (hkeep : ∀ output context, (keep output context).sent = context.sent)
    (hwords : ∀ a cli client, inputs context = .ok a context → client.host = env.tcrHost →
      ∃ words, Says cli words ∧ shellWords (arguments cli client a) = .ok words)
    (hfound : ∀ cli words, Says cli words → ∃ a, inputs context = .ok a context) :
    Runs env world own context.inputs.client Says read
      (runWith world (commandWith env world inputs arguments) read keep) context := by
  constructor
  · intro cli runner hcli hrunner hsays
    obtain ⟨⟨_, client⟩, hclient, rfl⟩ := Option.map_eq_some_iff.1 hcli
    obtain ⟨said, hsaid⟩ := hsays
    obtain ⟨a, ha⟩ := hfound _ _ hsaid
    obtain ⟨words, hwords, harguments⟩ := hwords a _ client ha (hosted.client _ client hclient)
    obtain ⟨line, hline, hshell⟩ := hprepends _ runner _ words hrunner harguments
    have hcommand : commandWith env world inputs arguments context = .ok line context := by
      refine (bind_required hclient).trans (bind_eq_ok_iff.2 ⟨a, context, ha, ?_⟩)
      refine bind_ofExcept_eq_ok_iff.2 ⟨runner, ?_, ofExcept_eq_ok_iff.2 ⟨hline, rfl⟩⟩
      rw [hrunner]
      rfl
    obtain ⟨houtcome, hsent⟩ := @runWith_run _ _ world _ _ read _ _ hcommand hkeep
    exact ⟨line, words, hwords, hshell, hsent, houtcome⟩
  · intro hlacks
    have hraises : ∀ e, commandWith env world inputs arguments context = .error e context →
        ∃ e, runWith world (commandWith env world inputs arguments) read keep context =
          .error e context := by
      intro e he
      exact ⟨e, bind_raise he⟩
    cases hclient : context.client with
    | none => exact hraises _ (bind_required_none hclient)
    | some installed =>
      obtain ⟨cli, client⟩ := installed
      rcases hquiet context with ⟨a, ha⟩ | ⟨name, hname⟩
      · cases hrunner : cli.runner env with
        | error e =>
          refine hraises (.runnerError e) ((bind_required hclient).trans ((bind_run ha).trans ?_))
          show (MonadExcept.ofExcept ((cli.runner env).mapError TcrError.runnerError) >>= _ :
            TcrM σ R String) context = _
          rw [hrunner]
          rfl
        | ok runner =>
          obtain ⟨words, hsays, -⟩ := hwords a cli client ha (hosted.client cli client hclient)
          refine absurd ⟨cli, runner, words, ?_, hrunner, hsays⟩ hlacks
          rw [Scenario.inputs, hclient]
          rfl
      · exact hraises (.attributeError name) ((bind_required hclient).trans (bind_raise hname))

/-! ## The inputs of the steps -/

/-- What a resolve step finds is what the scenario has provided. -/
theorem resolveRequest_inputs {pointers : PySet TrustFrameworkPointer} {issuer : Issuer}
    {types : EndpointTypes} (h : resolveInputs context = .ok (pointers, issuer, types) context)
    (client : Client) : context.inputs.resolveRequest client.host =
      some (resolveRequest client issuer pointers (some types)) := by
  obtain ⟨hpointers, hissuer, htypes⟩ := resolveInputs_run_iff.1 h
  unfold Inputs.resolveRequest Scenario.inputs
  rw [hpointers, hissuer, htypes]
  rfl

theorem validateRequest_inputs {did : Did} {issuer : Issuer} {endpoints : PySet String}
    (h : validateInputs context = .ok (did, issuer, endpoints) context) (client : Client) :
    context.inputs.validateRequest client.host =
      some (validateRequest client issuer did endpoints) := by
  obtain ⟨hdid, hissuer, hendpoints⟩ := validateInputs_run_iff.1 h
  unfold Inputs.validateRequest Scenario.inputs
  rw [hdid, hissuer, hendpoints]
  rfl

/-- A resolve step finds its inputs if they have been provided. -/
theorem resolveInputs_found (hissuer : context.inputs.issuer.isSome)
    (hpointers : context.inputs.pointers.isSome) (htypes : context.inputs.endpointTypes.isSome) :
    ∃ a, resolveInputs context = .ok a context := by
  obtain ⟨issuer, hissuer⟩ := Option.isSome_iff_exists.1 hissuer
  obtain ⟨pointers, hpointers⟩ := Option.isSome_iff_exists.1 ((Option.isSome_map ..).symm.trans hpointers)
  obtain ⟨types, htypes⟩ := Option.isSome_iff_exists.1 ((Option.isSome_map ..).symm.trans htypes)
  exact ⟨_, resolveInputs_run_iff.2 ⟨hpointers, hissuer, htypes⟩⟩

theorem validateInputs_found (hissuer : context.inputs.issuer.isSome) (hdid : context.inputs.did.isSome)
    (hendpoints : context.inputs.endpoints.isSome) : ∃ a, validateInputs context = .ok a context := by
  obtain ⟨issuer, hissuer⟩ := Option.isSome_iff_exists.1 hissuer
  obtain ⟨did, hdid⟩ := Option.isSome_iff_exists.1 hdid
  obtain ⟨endpoints, hendpoints⟩ :=
    Option.isSome_iff_exists.1 ((Option.isSome_map ..).symm.trans hendpoints)
  exact ⟨_, validateInputs_run_iff.2 ⟨hdid, hissuer, hendpoints⟩⟩

theorem resolveWithServer_posts (hosted : Hosted env context) :
    Posts world (context.inputs.direct (context.inputs.resolveRequest env.tcrHost))
      (resolveWithServer world) context := by
  refine postWith_posts quiet_resolveInputs hosted ?_ fun hmissing => ?_
  · rintro ⟨pointers, issuer, types⟩ server hfound hhost
    rw [← hhost]
    exact ⟨_, resolveRequest_inputs hfound server, readPost_resolve server issuer pointers (some types)⟩
  · by_contra hrequest
    obtain ⟨request, hrequest⟩ := Option.ne_none_iff_exists'.1 hrequest
    simp only [Inputs.resolveRequest, Option.bind_eq_bind, Option.bind_eq_some_iff] at hrequest
    obtain ⟨pointers, hpointers, issuer, hissuer, types, htypes, -⟩ := hrequest
    obtain ⟨a, ha⟩ := resolveInputs_found (Option.isSome_iff_exists.2 ⟨_, hissuer⟩)
      (Option.isSome_iff_exists.2 ⟨_, hpointers⟩) (Option.isSome_iff_exists.2 ⟨_, htypes⟩)
    exact hmissing a ha

theorem validateWithServer_posts (hosted : Hosted env context) :
    Posts world (context.inputs.direct (context.inputs.validateRequest env.tcrHost))
      (validateWithServer world) context := by
  refine postWith_posts quiet_validateInputs hosted ?_ fun hmissing => ?_
  · rintro ⟨did, issuer, endpoints⟩ server hfound hhost
    rw [← hhost]
    exact ⟨_, validateRequest_inputs hfound server, readPost_tcrValidate server issuer did endpoints⟩
  · by_contra hrequest
    obtain ⟨request, hrequest⟩ := Option.ne_none_iff_exists'.1 hrequest
    simp only [Inputs.validateRequest, Option.bind_eq_bind, Option.bind_eq_some_iff] at hrequest
    obtain ⟨did, hdid, issuer, hissuer, endpoints, hendpoints, -⟩ := hrequest
    obtain ⟨a, ha⟩ := validateInputs_found (Option.isSome_iff_exists.2 ⟨_, hissuer⟩)
      (Option.isSome_iff_exists.2 ⟨_, hdid⟩) (Option.isSome_iff_exists.2 ⟨_, hendpoints⟩)
    exact hmissing a ha

/-- The arguments of a resolve call split into the words of the inputs. -/
theorem resolveArguments_says (hhost : NoQuote env.tcrHost.str) (hfree : context.inputs.QuoteFree)
    {pointers : PySet TrustFrameworkPointer} {issuer : Issuer} {types : EndpointTypes}
    (h : resolveInputs context = .ok (pointers, issuer, types) context) (cli : Cli) {client : Client}
    (hclient : client.host = env.tcrHost) :
    ∃ words, context.inputs.ResolveWords env.tcrHost cli words ∧
      shellWords (cli.resolveArguments client issuer pointers (some types)) = .ok words := by
  obtain ⟨hpointers, hissuer, htypes⟩ := resolveInputs_run_iff.1 h
  have hpointerSet : context.inputs.pointers = some pointers.elems.toFinset :=
    congrArg (Option.map _) hpointers
  have htypeSet : context.inputs.endpointTypes = some types.elems.toFinset :=
    congrArg (Option.map _) htypes
  obtain ⟨host⟩ := client
  cases hclient
  have hquotes : NoQuote env.tcrHost.str ∧ NoQuote issuer ∧ (∀ p ∈ pointers, NoQuote p) ∧
      ∀ t ∈ sentTypes (some types), NoQuote t :=
    ⟨hhost, hfree.issuer issuer hissuer,
      fun p hp => hfree.pointers _ hpointerSet p (List.mem_toFinset.2 hp),
      fun t ht => hfree.endpointTypes _ htypeSet t (List.mem_toFinset.2 ht)⟩
  refine ⟨_, ⟨issuer, pointers, types, hissuer, hpointerSet, htypeSet, rfl⟩, ?_⟩
  cases cli with
  | java | golang => exact (BaseClient.shellWords_resolveArguments_iff ⟨⟨env.tcrHost⟩, id⟩ _ _ _).2 hquotes
  | python | javaScript =>
    exact (MinusMinusBaseClient.shellWords_resolveArguments_iff ⟨⟨⟨env.tcrHost⟩, id⟩⟩ _ _ _).2 hquotes

theorem validateArguments_says (hhost : NoQuote env.tcrHost.str) (hfree : context.inputs.QuoteFree)
    {did : Did} {issuer : Issuer} {endpoints : PySet String}
    (h : validateInputs context = .ok (did, issuer, endpoints) context) (cli : Cli) {client : Client}
    (hclient : client.host = env.tcrHost) :
    ∃ words, context.inputs.ValidateWords env.tcrHost cli words ∧
      shellWords (cli.validateArguments client issuer did endpoints) = .ok words := by
  obtain ⟨hdid, hissuer, hendpoints⟩ := validateInputs_run_iff.1 h
  have hendpointSet : context.inputs.endpoints = some endpoints.elems.toFinset :=
    congrArg (Option.map _) hendpoints
  obtain ⟨host⟩ := client
  cases hclient
  have hquotes : NoQuote env.tcrHost.str ∧ NoQuote issuer ∧ NoQuote did ∧ ∀ e ∈ endpoints, NoQuote e :=
    ⟨hhost, hfree.issuer issuer hissuer, hfree.did did hdid,
      fun e he => hfree.endpoints _ hendpointSet e (List.mem_toFinset.2 he)⟩
  refine ⟨_, ⟨issuer, did, endpoints, hissuer, hdid, hendpointSet, rfl⟩, ?_⟩
  cases cli with
  | java | golang =>
    exact (BaseClient.shellWords_validateArguments_iff ⟨⟨env.tcrHost⟩, id⟩ _ _ _).2 hquotes
  | python | javaScript =>
    exact (MinusMinusBaseClient.shellWords_validateArguments_iff ⟨⟨⟨env.tcrHost⟩, id⟩⟩ _ _ _).2 hquotes

/-- Words of a resolve request are only there when its inputs are. -/
theorem resolveInputs_of_words {cli : Cli} {words : List String}
    (h : context.inputs.ResolveWords env.tcrHost cli words) :
    ∃ a, resolveInputs context = .ok a context := by
  obtain ⟨issuer, pointers, types, hissuer, hpointers, htypes, -⟩ := h
  exact resolveInputs_found (Option.isSome_iff_exists.2 ⟨_, hissuer⟩)
    (Option.isSome_iff_exists.2 ⟨_, hpointers⟩) (Option.isSome_iff_exists.2 ⟨_, htypes⟩)

theorem validateInputs_of_words {cli : Cli} {words : List String}
    (h : context.inputs.ValidateWords env.tcrHost cli words) :
    ∃ a, validateInputs context = .ok a context := by
  obtain ⟨issuer, did, endpoints, hissuer, hdid, hendpoints, -⟩ := h
  exact validateInputs_found (Option.isSome_iff_exists.2 ⟨_, hissuer⟩)
    (Option.isSome_iff_exists.2 ⟨_, hdid⟩) (Option.isSome_iff_exists.2 ⟨_, hendpoints⟩)

/-- Both steps that validate with the client send the same line. -/
theorem validateCommand_runs (hosted : Hosted env context) (hprepends : Prepends env world own)
    (hhost : NoQuote env.tcrHost.str) (hfree : context.inputs.QuoteFree)
    (read : BashResponse → Except TcrError String) :
    Runs env world own context.inputs.client (context.inputs.ValidateWords env.tcrHost) read
      (runWith world (validateCommand env world) read fun output context =>
        { context with validateResponseStr := some output }) context :=
  runWith_runs quiet_validateInputs hosted hprepends (fun _ _ => rfl)
    (fun _ cli _ hfound hclient => validateArguments_says hhost hfree hfound cli hclient)
    fun _ _ => validateInputs_of_words

end Requests

/-! ## A scenario -/

/-- The Golang client, as a script. -/
def localEnv : Env where
  tcrHost := localhost
  java := ⟨none, none, none⟩
  py := ⟨none, none, none⟩
  js := ⟨none, none, none⟩
  goScriptPath := some "tcr-cli"

/-- The words that the runners of the quiet world put in front. -/
def ownWords : Runner → List String
  | .nativeJava path => ["java", "-jar", path]
  | .nativeScript path => [path]
  | .dockerized implementation image => [implementation, "run", image]

theorem prepends_localEnv : Prepends localEnv quietWorld ownWords := by
  intro cli runner arguments words hrunner hwords
  cases cli with
  | golang =>
    obtain rfl : Runner.nativeScript "tcr-cli" = runner := Except.ok.inj hrunner
    exact ⟨_, rfl, shellWords_cons (by decide) (by decide) hwords⟩
  | java | python | javaScript => cases hrunner

/-- The client is installed before the inputs are given, and the issuer is given twice. -/
def validating : List ((String → Option String) × Sentence) := [
  (ownDid, .tcrIsRunning),
  (ownDid, .installed "Golang"),
  (ownDid, .issuer [.literal 'x']),
  (ownDid, .endpoints [[.literal 'a'], ownField, [.literal 'a']]),
  (ownDid, .did "did:b"),
  (ownDid, .issuer ownField)]

def validated : Scenario Unit Unit where
  world := ()
  server := some ⟨localhost⟩
  client := some (.golang, ⟨localhost⟩)
  issuer := some "did:a"
  endpointTypes := some ⟨[], List.nodup_nil⟩
  did := some "did:b"
  endpoints := some (lineSet quietWorld (String.ofList (['\n'].intercalate threeLines)))

theorem scenario_validating :
    scenario localEnv quietWorld validating { world := () } = .ok () validated := by
  have hissuer : Template.fill ownDid [Piece.literal 'x'] = .ok ['x'] := rfl
  have hendpoints : Template.fill ownDid
      (Template.lines [[Piece.literal 'a'], ownField, [Piece.literal 'a']]) =
        .ok (['\n'].intercalate threeLines) := by
    rw [Template.fill_lines, fill_threeLines]
    rfl
  have hformat : ∀ (template : Template) (filled : List Char) (context : Scenario Unit Unit),
      template.fill ownDid = .ok filled →
        formatText quietWorld ownDid (written template) context = .ok (String.ofList filled) context := by
    intro template filled context hfilled
    exact formatText_run_iff.2 ⟨⟨filled, hfilled, rfl⟩, rfl⟩
  refine bind_eq_ok_iff.2 ⟨(), _, rfl, bind_eq_ok_iff.2 ⟨(), _, rfl, ?_⟩⟩
  refine bind_eq_ok_iff.2 ⟨(), _, bind_eq_ok_iff.2 ⟨_, _, hformat _ _ _ hissuer, rfl⟩, ?_⟩
  refine bind_eq_ok_iff.2 ⟨(), _, bind_eq_ok_iff.2 ⟨_, _, hformat _ _ _ hendpoints, rfl⟩, ?_⟩
  refine bind_eq_ok_iff.2 ⟨(), _, rfl, ?_⟩
  refine bind_eq_ok_iff.2 ⟨(), _, bind_eq_ok_iff.2 ⟨_, _, hformat _ _ _ fill_ownField, rfl⟩, ?_⟩
  rfl

end TrainBdd.Tcr
