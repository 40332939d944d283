/-
  Scenarios on the resolver — what the sentences have provided.

  1. **Inputs** — what the sentences have provided so far: each value is the last one given, and starting
     the resolver empties the endpoint types.
  2. **One sentence** — a sentence that returns, taken apart, and `provide_run`: what it provides is what
     the steps behind it find.
  3. **Scenarios** — the run of it (`inputs_run`).
-/
import TrainBdd.TcrSteps

namespace TrainBdd.Tcr

open Python Run Effect StrFormat Lines

variable {σ R α : Type}

/-! ## Inputs -/

/-- What a scenario has provided. -/
structure Inputs where
  issuer : Option Issuer := none
  did : Option Did := none
  pointers : Option (Finset TrustFrameworkPointer) := none
  endpointTypes : Option (Finset String) := none
  endpoints : Option (Finset String) := none
  client : Option Cli := none
  started : Bool := false

/-- What a sentence provides, as it is meant. -/
def Sentence.provide (world : World σ R) (aliases : String → Option String) (inputs : Inputs) :
    Sentence → Inputs
  | tcrIsRunning => { inputs with endpointTypes := some ∅, started := true }
  | installed clientName =>
    match Cli.ofName? clientName with
    | some cli => { inputs with client := some cli }
    | none => inputs
  | noEndpointTypes => { inputs with endpointTypes := some ∅ }
  | pointers lines =>
    match (do world.fromText (String.ofList (['\n'].intercalate
        (← (lines.mapM (Template.fill aliases)).mapError TcrError.formatError)))) with
    | .ok set => { inputs with pointers := some set.elems.toFinset }
    | .error _ => inputs
  | issuer template =>
    match (do world.newIssuer (String.ofList (← (template.fill aliases).mapError TcrError.formatError))) with
    | .ok name => { inputs with issuer := some name }
    | .error _ => inputs
  | endpointTypes lines => { inputs with endpointTypes := some (texts lines) }
  | did text =>
    match world.newDid text with
    | .ok name => { inputs with did := some name }
    | .error _ => inputs
  | endpoints lines =>
    match lines.mapM (Template.fill aliases) with
    | .ok filled => { inputs with endpoints := some (texts filled) }
    | .error _ => inputs
  | _ => inputs

/-- What the sentences provide together, from nothing. -/
def inputsOf (world : World σ R) (sentences : List ((String → Option String) × Sentence)) : Inputs :=
  after (fun sentence inputs => sentence.2.provide world sentence.1 inputs) {} sentences

/-- What the steps find in the context. -/
def Scenario.inputs (context : Scenario σ R) : Inputs where
  issuer := context.issuer
  did := context.did
  pointers := context.trustFrameworkPointers.map fun set => set.elems.toFinset
  endpointTypes := context.endpointTypes.map fun set => set.elems.toFinset
  endpoints := context.endpoints.map fun set => set.elems.toFinset
  client := context.client.map Prod.fst
  started := context.server.isSome

/-! ## One sentence -/

/-- Every resolver that the context knows is the one of the environment. -/
structure Hosted (env : Env) (context : Scenario σ R) : Prop where
  server : ∀ server, context.server = some server → server.host = env.tcrHost
  client : ∀ cli client, context.client = some (cli, client) → client.host = env.tcrHost

/-- Nothing has changed but what was sent and answered. -/
def Sends (context context' : Scenario σ R) : Prop :=
  ∃ state sent resolved validated response, context' = { context with
    world := state
    sent := sent
    resolveResponseStr := resolved
    validateResponseStr := validated
    requestsResponse := response }

/-- Reading inputs finds them all or raises an `AttributeError`, and changes nothing. -/
def Quiet (inputs : TcrM σ R α) : Prop :=
  ∀ context, (∃ a, inputs context = .ok a context) ∨
    ∃ name, inputs context = .error (.attributeError name) context

section Inversion

variable {env : Env} {world : World σ R} {aliases : String → Option String}
  {context context' : Scenario σ R}

theorem Sends.inputs_eq (h : Sends context context') : context'.inputs = context.inputs := by
  obtain ⟨state, sent, resolved, validated, response, rfl⟩ := h
  rfl

theorem Hosted.of_sends (hosted : Hosted env context) (h : Sends context context') :
    Hosted env context' := by
  obtain ⟨state, sent, resolved, validated, response, rfl⟩ := h
  exact ⟨hosted.server, hosted.client⟩

theorem quiet_getattr (name : String) (value : Scenario σ R → Option α) : Quiet (getattr name value) := by
  intro context
  unfold getattr
  rw [required_eq]
  cases value context with
  | none => exact Or.inr ⟨name, rfl⟩
  | some a => exact Or.inl ⟨a, rfl⟩

theorem Quiet.bind {β : Type} {c : TcrM σ R α} {f : α → TcrM σ R β} (hc : Quiet c)
    (hf : ∀ a, Quiet (f a)) : Quiet (c >>= f) := by
  intro context
  rcases hc context with ⟨a, ha⟩ | ⟨name, hname⟩
  · rw [bind_run ha]
    exact hf a context
  · exact Or.inr ⟨name, bind_raise hname⟩

theorem Quiet.eq_of_ok {inputs : TcrM σ R α} (h : Quiet inputs) {a : α}
    (hrun : inputs context = .ok a context') : context = context' := by
  rcases h context with ⟨a', ha⟩ | ⟨name, hname⟩
  · rw [ha] at hrun
    cases hrun
    rfl
  · rw [hname] at hrun
    cases hrun

theorem quiet_resolveInputs : Quiet (resolveInputs : TcrM σ R _) :=
  (quiet_getattr _ _).bind fun pointers => (quiet_getattr _ _).bind fun issuer =>
    (quiet_getattr _ _).bind fun types _ => Or.inl ⟨(pointers, issuer, types), rfl⟩

theorem quiet_validateInputs : Quiet (validateInputs : TcrM σ R _) :=
  (quiet_getattr _ _).bind fun did => (quiet_getattr _ _).bind fun issuer =>
    (quiet_getattr _ _).bind fun endpoints _ => Or.inl ⟨(did, issuer, endpoints), rfl⟩

theorem resolveInputs_run_iff {pointers : PySet TrustFrameworkPointer} {issuer : Issuer}
    {types : EndpointTypes} :
    resolveInputs context = .ok (pointers, issuer, types) context ↔
      context.trustFrameworkPointers = some pointers ∧ context.issuer = some issuer ∧
        context.endpointTypes = some types := by
  rw [resolveInputs, bind_required_eq_ok_iff]
  constructor
  · rintro ⟨pointers, hpointers, h⟩
    obtain ⟨issuer, hissuer, h⟩ := bind_required_eq_ok_iff.1 h
    obtain ⟨types, htypes, h⟩ := bind_required_eq_ok_iff.1 h
    cases h
    exact ⟨hpointers, hissuer, htypes⟩
  · rintro ⟨hpointers, hissuer, htypes⟩
    exact ⟨pointers, hpointers, bind_required_eq_ok_iff.2 ⟨issuer, hissuer,
      bind_required_eq_ok_iff.2 ⟨types, htypes, rfl⟩⟩⟩

theorem validateInputs_run_iff {did : Did} {issuer : Issuer} {endpoints : PySet String} :
    validateInputs context = .ok (did, issuer, endpoints) context ↔
      context.did = some did ∧ context.issuer = some issuer ∧ context.endpoints = some endpoints := by
  rw [validateInputs, bind_required_eq_ok_iff]
  constructor
  · rintro ⟨did, hdid, h⟩
    obtain ⟨issuer, hissuer, h⟩ := bind_required_eq_ok_iff.1 h
    obtain ⟨endpoints, hendpoints, h⟩ := bind_required_eq_ok_iff.1 h
    cases h
    exact ⟨hdid, hissuer, hendpoints⟩
  · rintro ⟨hdid, hissuer, hendpoints⟩
    exact ⟨did, hdid, bind_required_eq_ok_iff.2 ⟨issuer, hissuer,
      bind_required_eq_ok_iff.2 ⟨endpoints, hendpoints, rfl⟩⟩⟩

/-- Making a command changes nothing either. -/
theorem commandWith_eq_of_ok {inputs : TcrM σ R α} (hquiet : Quiet inputs)
    {arguments : Cli → Client → α → String} {line : String}
    (h : commandWith env world inputs arguments context = .ok line context') : context = context' := by
  obtain ⟨⟨cli, client⟩, -, h⟩ := bind_required_eq_ok_iff.1 h
  obtain ⟨a, _, hinputs, h⟩ := bind_eq_ok_iff.1 h
  obtain rfl := hquiet.eq_of_ok hinputs
  obtain ⟨runner, -, h⟩ := bind_ofExcept_eq_ok_iff.1 h
  exact (ofExcept_eq_ok_iff.1 h).2

theorem postWith_sends {inputs : TcrM σ R α} (hquiet : Quiet inputs) {method : Client → α → Post}
    (h : postWith world inputs method context = .ok () context') : Sends context context' := by
  obtain ⟨server, -, h⟩ := bind_required_eq_ok_iff.1 h
  obtain ⟨a, _, hinputs, h⟩ := bind_eq_ok_iff.1 h
  obtain rfl := hquiet.eq_of_ok hinputs
  obtain ⟨_, _, hsent, h⟩ := bind_eq_ok_iff.1 h
  cases hsent
  obtain ⟨response, _, hpost, h⟩ := bind_eq_ok_iff.1 h
  obtain ⟨state, -, rfl⟩ := acting_eq_ok_iff.1 hpost
  cases h
  exact ⟨_, _, _, _, _, rfl⟩

theorem runWith_sends {command : TcrM σ R String} {read : BashResponse → Except TcrError String}
    {keep : String → Scenario σ R → Scenario σ R}
    (hcommand : ∀ line context', command context = .ok line context' → context = context')
    (hkeep : ∀ output context, Sends context (keep output context))
    (h : runWith world command read keep context = .ok () context') : Sends context context' := by
  obtain ⟨line, _, hline, h⟩ := bind_eq_ok_iff.1 h
  obtain rfl := hcommand _ _ hline
  obtain ⟨response, _, hbash, h⟩ := bind_eq_ok_iff.1 h
  obtain ⟨_, _, hsent, hbash⟩ := bind_eq_ok_iff.1 hbash
  cases hsent
  obtain ⟨state, -, rfl⟩ := acting_eq_ok_iff.1 hbash
  obtain ⟨output, -, h⟩ := bind_ofExcept_eq_ok_iff.1 h
  cases h
  obtain ⟨_, _, _, _, _, hkept⟩ := hkeep output _
  rw [hkept]
  exact ⟨_, _, _, _, _, rfl⟩

theorem checkTcr_run (h : checkTcr env world context = .ok () context') :
    ∃ state, context' = { context with
      world := state
      server := some ⟨env.tcrHost⟩
      endpointTypes := some ⟨[], List.nodup_nil⟩ } := by
  obtain ⟨_, _, hserver, h⟩ := bind_eq_ok_iff.1 h
  cases hserver
  obtain ⟨up, _, hup, hend⟩ := bind_eq_ok_iff.1 h
  obtain ⟨state, -, rfl⟩ := acting_eq_ok_iff.1 hup
  cases up with
  | false => cases hend
  | true =>
    cases hend
    exact ⟨_, rfl⟩

theorem addClient_run {clientName : String} (h : addClient world clientName context = .ok () context') :
    ∃ state cli server, Cli.ofName? clientName = some cli ∧ context.server = some server ∧
      context' = { context with
        world := state
        client := some (cli, ⟨server.host⟩) } := by
  cases hcli : Cli.ofName? clientName with
  | none =>
    rw [addClient, hcli] at h
    cases h
  | some cli =>
    rw [addClient, hcli] at h
    obtain ⟨server, hsome, h⟩ := bind_required_eq_ok_iff.1 h
    obtain ⟨_, _, hclient, h⟩ := bind_eq_ok_iff.1 h
    cases hclient
    obtain ⟨up, _, hup, hend⟩ := bind_eq_ok_iff.1 h
    obtain ⟨state, -, rfl⟩ := acting_eq_ok_iff.1 hup
    cases up with
    | false => cases hend
    | true =>
      cases hend
      exact ⟨_, cli, server, rfl, hsome, rfl⟩

/-- A text of several lines formats to its filled lines. -/
theorem formatLines_run {lines : List Template} {text : String}
    (h : formatText world aliases (written (Template.lines lines)) context = .ok text context') :
    context = context' ∧ ∃ filled, lines.mapM (Template.fill aliases) = .ok filled ∧
      text = String.ofList (['\n'].intercalate filled) := by
  obtain ⟨⟨joined, hjoined, rfl⟩, rfl⟩ := formatText_run_iff.1 h
  rw [Template.fill_lines] at hjoined
  cases hfilled : lines.mapM (Template.fill aliases) with
  | error e =>
    rw [hfilled] at hjoined
    cases hjoined
  | ok filled =>
    rw [hfilled] at hjoined
    cases hjoined
    exact ⟨rfl, filled, rfl, rfl⟩

theorem addPointers_run {lines : List Template}
    (h : addPointers world aliases (written (Template.lines lines)) context = .ok () context') :
    ∃ filled pointers, lines.mapM (Template.fill aliases) = .ok filled ∧
      world.fromText (String.ofList (['\n'].intercalate filled)) = .ok pointers ∧
      context' = { context with trustFrameworkPointers := some pointers } := by
  obtain ⟨text, _, htext, h⟩ := bind_eq_ok_iff.1 h
  obtain ⟨rfl, filled, hfilled, rfl⟩ := formatLines_run htext
  obtain ⟨pointers, hset, h⟩ := bind_ofExcept_eq_ok_iff.1 h
  obtain ⟨_, _, hmodify, hend⟩ := bind_eq_ok_iff.1 h
  cases hmodify
  split at hend
  · cases hend
  · cases hend
    exact ⟨filled, pointers, hfilled, hset, rfl⟩

/-- **One sentence**: what it provides is what the steps behind it find. -/
theorem provide_run {sentence : Sentence} (hkept : sentence.Kept aliases) (hosted : Hosted env context)
    (h : sentence.run env world aliases context = .ok () context') :
    sentence.provide world aliases context.inputs = context'.inputs ∧ Hosted env context' := by
  cases sentence with
  | tcrIsRunning =>
    obtain ⟨state, rfl⟩ := checkTcr_run h
    refine ⟨rfl, ?_, hosted.client⟩
    rintro _ ⟨⟩
    rfl
  | installed clientName =>
    obtain ⟨state, cli, server, hcli, hserver, rfl⟩ := addClient_run h
    refine ⟨?_, hosted.server, ?_⟩
    · rw [Sentence.provide, hcli]
      rfl
    · rintro _ _ ⟨⟩
      exact hosted.server server hserver
  | pointers lines =>
    obtain ⟨filled, pointers, hfilled, hpointers, rfl⟩ := addPointers_run h
    refine ⟨?_, hosted.server, hosted.client⟩
    rw [Sentence.provide, hfilled]
    show (match world.fromText (String.ofList (['\n'].intercalate filled)) with
      | .ok set => _
      | .error _ => _) = _
    rw [hpointers]
    rfl
  | issuer template =>
    obtain ⟨text, _, htext, h⟩ := bind_eq_ok_iff.1 h
    obtain ⟨⟨filled, hfilled, rfl⟩, rfl⟩ := formatText_run_iff.1 htext
    obtain ⟨name, hname, h⟩ := bind_ofExcept_eq_ok_iff.1 h
    cases h
    refine ⟨?_, hosted.server, hosted.client⟩
    rw [Sentence.provide, hfilled]
    show (match world.newIssuer (String.ofList filled) with
      | .ok name => _
      | .error _ => _) = _
    rw [hname]
    rfl
  | endpointTypes lines =>
    cases h
    refine ⟨?_, hosted.server, hosted.client⟩
    have htexts := (@lineSet_eq_iff _ _ world lines).2 hkept
    rw [Sentence.provide, ← htexts]
    rfl
  | noEndpointTypes =>
    cases h
    exact ⟨rfl, hosted.server, hosted.client⟩
  | did text =>
    obtain ⟨name, hname, h⟩ := bind_ofExcept_eq_ok_iff.1 h
    cases h
    refine ⟨?_, hosted.server, hosted.client⟩
    rw [Sentence.provide, hname]
    rfl
  | endpoints lines =>
    obtain ⟨text, _, htext, h⟩ := bind_eq_ok_iff.1 h
    obtain ⟨rfl, filled, hfilled, rfl⟩ := formatLines_run htext
    cases h
    refine ⟨?_, hosted.server, hosted.client⟩
    rw [Sentence.provide, hfilled]
    have htexts := (@lineSet_eq_iff _ _ world filled).2 (hkept filled hfilled)
    show ({ context.inputs with endpoints := some (texts filled) } : Inputs) = _
    rw [← htexts]
    rfl
  | resolveWithServer =>
    have hsends := postWith_sends quiet_resolveInputs h
    exact ⟨hsends.inputs_eq.symm, hosted.of_sends hsends⟩
  | validateWithServer =>
    have hsends := postWith_sends quiet_validateInputs h
    exact ⟨hsends.inputs_eq.symm, hosted.of_sends hsends⟩
  | resolveWithClient =>
    have hsends : Sends context context' := runWith_sends
      (fun _ _ => commandWith_eq_of_ok quiet_resolveInputs) (fun _ _ => ⟨_, _, _, _, _, rfl⟩) h
    exact ⟨hsends.inputs_eq.symm, hosted.of_sends hsends⟩
  | validateWithClient | mayFailValidateWithClient =>
    have hsends : Sends context context' := runWith_sends
      (fun _ _ => commandWith_eq_of_ok quiet_validateInputs) (fun _ _ => ⟨_, _, _, _, _, rfl⟩) h
    exact ⟨hsends.inputs_eq.symm, hosted.of_sends hsends⟩

/-- **A scenario**: the context has what its sentences have provided. -/
theorem inputs_run {sentences : List ((String → Option String) × Sentence)}
    (hkept : ∀ sentence ∈ sentences, sentence.2.Kept sentence.1) {state : σ}
    (h : scenario env world sentences { world := state } = .ok () context) :
    inputsOf world sentences = context.inputs ∧ Hosted env context := by
  have hrun : ∀ (start : Scenario σ R) (inputs : Inputs), inputs = start.inputs → Hosted env start →
      scenario env world sentences start = .ok () context →
        after (fun sentence inputs => sentence.2.provide world sentence.1 inputs) inputs sentences =
            context.inputs ∧
          Hosted env context := by
    clear h
    induction sentences with
    | nil =>
      intro start inputs hinputs hosted h
      cases h
      exact ⟨hinputs, hosted⟩
    | cons sentence sentences ih =>
      intro start inputs hinputs hosted h
      rw [List.forall_mem_cons] at hkept
      obtain ⟨_, between, hfirst, hrest⟩ := bind_eq_ok_iff.1 h
      obtain ⟨hprovide, hbetween⟩ := provide_run hkept.1 hosted hfirst
      refine ih hkept.2 between _ ?_ hbetween hrest
      rw [hinputs]
      exact hprovide
  refine hrun { world := state } {} rfl ⟨?_, ?_⟩ h
  · rintro _ ⟨⟩
  · rintro _ _ ⟨⟩

end Inversion

end TrainBdd.Tcr
