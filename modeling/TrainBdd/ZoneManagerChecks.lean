/-
  What a reader of the feature file knows about the zone, and the two existence checks.

  1. **Zones** — `Zone` is what the service holds, the schemes of every pointer.  `Truthful` says that
     the status codes and the answers about a pointer are true of it, for names that a URL carries.
  2. **Knowledge** — `Step.note` is what a reader can conclude from a step's sentence and the answer the
     context holds.
  3. **Checks** — one round of an existence check, and from it the whole loop (`Asks.along_iff`).
-/
import TrainBdd.ZoneManagerScenario
import Mathlib.Data.Finset.Dedup
import Mathlib.Data.Finset.Insert

namespace TrainBdd.ZoneManager

open Python Run Effect

variable {K P σ : Type}

/-! ## Zones -/

/-- The schemes of every pointer; a pointer without schemes does not exist. -/
abbrev Zone := TrustFrameworkPointer → Finset TrustFrameworkPointer

def Zone.put (zone : Zone) (pointer : TrustFrameworkPointer) (schemes : Finset TrustFrameworkPointer) :
    Zone :=
  Function.update zone pointer schemes

def Zone.without (zone : Zone) (names : List TrustFrameworkPointer) : Zone :=
  fun pointer => if pointer ∈ names then ∅ else zone pointer

@[simp] theorem Zone.without_nil (zone : Zone) : zone.without [] = zone := by
  funext pointer
  exact if_neg List.not_mem_nil

theorem Zone.without_cons (zone : Zone) (name : TrustFrameworkPointer)
    (names : List TrustFrameworkPointer) :
    zone.without (name :: names) = (zone.put name ∅).without names := by
  funext pointer
  show (if pointer ∈ name :: names then ∅ else zone pointer) =
    if pointer ∈ names then ∅ else Function.update zone name ∅ pointer
  by_cases hname : pointer = name
  · simp [hname]
  · simp [hname]

/-- The service has done what it was asked. -/
def accepted (response : HttpResponse) : Bool := response.statusCode / 100 = 2

/-- The requests of the wrapper's methods that write no pointer, on names that a URL carries. -/
inductive Neutral (server : Server) : HttpRequest P → Prop
  | readZones : Neutral server server.readZones
  | readPointer (pointer : String) (h : Intact pointer) : Neutral server (server.readPointer pointer)
  | removeDidFromPointer (pointer : String) (h : Intact pointer) :
      Neutral server (server.removeDidFromPointer pointer)
  | createDidForPointer (did : Did) (pointer : String) (h : Intact pointer) :
      Neutral server (server.createDidForPointer did pointer)
  | readDidForPointer (pointer : String) (h : Intact pointer) :
      Neutral server (server.readDidForPointer pointer)

/-- The service tells the truth about the zone it holds, where it answers and a URL carries the name: a
    write is accepted when it is done and refused when it is not, and the answer about a pointer lists
    schemes when it has some. -/
structure Truthful (server : Server) (service : Service K P σ) (zone : σ → Zone) : Prop where
  create : ∀ keycloak s pointer included response s', Intact pointer →
    service.answer keycloak (.plain (server.createPointer pointer included)) s = (.ok response, s') →
      zone s' = if accepted response then (zone s).put pointer included.elems.toFinset else zone s
  remove : ∀ keycloak s pointer response s', Intact pointer →
    service.answer keycloak (.plain (server.removePointer pointer)) s = (.ok response, s') →
      zone s' = if accepted response then (zone s).put pointer ∅ else zone s
  neutral : ∀ keycloak s request response s', Neutral server request →
    service.answer keycloak (.plain request) s = (.ok response, s') → zone s' = zone s
  status : ∀ s response s', service.exchange server.status s = (.ok response, s') → zone s' = zone s
  tells : ∀ keycloak s pointer response s', Intact pointer →
    service.answer keycloak (.plain (server.readPointer pointer)) s = (.ok response, s') →
      response.statusCode = 200 ∧ ∃ data schemes, response.json = some data ∧
        data.getItem "schemes" = .ok (.list schemes) ∧ (schemes = [] ↔ zone s pointer = ∅)

/-! ## Knowledge -/

/-- What a step that returned has made of the zone, from its sentence, the aliases and the answer that
    the context holds after it. -/
def Step.note (py : Formatter) (step : Aliases × Step) (answer : Option HttpResponse) (zone : Zone) :
    Zone :=
  match step.2, answer with
  | creatingPointers includePointers pointer, some response =>
    match step.1 pointer with
    | some name =>
      if accepted response then zone.put name (includePointers.filterMap step.1).toFinset else zone
    | none => zone
  | removePointerFromZmServer pointer, some response =>
    match step.1 pointer with
    | some name => if accepted response then zone.put name ∅ else zone
    | none => zone
  | deleteAllZonesInListedInRequestResponse, answer
  | removeAllPointers, answer => zone.without (heldNames py answer)
  | _, _ => zone

/-- The names that a step puts into URLs, from the same data. -/
def Step.names (py : Formatter) (step : Aliases × Step) (answer : Option HttpResponse) : List String :=
  match step.2 with
  | checkDnsZmServerUp | requestsZones => []
  | creatingPointers _ pointer | removePointerFromZmServer pointer
  | removeDidPointerFromZmServer pointer | requestsPointer pointer | readPointersDid pointer =>
    (step.1 pointer).toList
  | createDidForPointer _ pointer => if '.' ∈ pointer.toList then [pointer] else (step.1 pointer).toList
  | checkPointerExists pointers | checkPointerNotExists pointers => pointers.filterMap step.1
  | deleteAllZonesInListedInRequestResponse | removeAllPointers => heldNames py answer

section Scenario

variable (py : Formatter) (sets : SetBuilder TrustFrameworkPointer)
  (check : HttpResponse → Except StepError Unit) (host : HttpUrl) (service : Service K P σ)

/-- What a reader knows of the zone after the steps, who knew it before them. -/
def known (context : Context K P σ) (zone : Zone) (steps : List (Aliases × Step)) : Zone :=
  noted (oneRound (runStep py sets check host service)) Context.requestsResponse (Step.note py) context
    zone steps

/-- The URLs of the step carry its names. -/
def CarriesNames (context : Context K P σ) (step : Aliases × Step) : Prop :=
  ∀ name ∈ Step.names py step (oneRound (runStep py sets check host service) step context).requestsResponse,
    Intact name

/-- A Zone Manager that the context has is the one of the environment. -/
def Hosted (context : Context K P σ) : Prop :=
  ∀ server keycloak, context.dnsZoneManager = some (server, keycloak) → server = ⟨host⟩

/-- There is a Zone Manager, and it answers about the names, one after the other. -/
def AnswersAbout (context : Context K P σ) (names : List String) : Prop :=
  ∃ keycloak, context.dnsZoneManager = some (⟨host⟩, keycloak) ∧
    service.Answered keycloak (names.map fun name => .plain (Server.readPointer ⟨host⟩ name))
      context.world

end Scenario

/-! ## The existence checks -/

section Truth

variable {py : Formatter} {sets : SetBuilder TrustFrameworkPointer}
  {check : HttpResponse → Except StepError Unit} {host : HttpUrl} {service : Service K P σ}
  {zone : σ → Zone} {aliases : Aliases} {context context' : Context K P σ}

/-- Nothing that a reader knows has changed, and the Zone Manager stays. -/
structure SameView (zone : σ → Zone) (context context' : Context K P σ) : Prop where
  zone_eq : zone context'.world = zone context.world
  requestsResponse_eq : context'.requestsResponse = context.requestsResponse
  dnsZoneManager_eq : context'.dnsZoneManager = context.dnsZoneManager

/-- A truthful answer never fails the asserts of `pointer_exist`. -/
theorem pointerExist_run (h : Truthful ⟨host⟩ service zone) {keycloak : K} {pointer : String}
    (hpointer : Intact pointer) {response : HttpResponse} {s' : σ}
    (hanswer : service.answer keycloak (.plain (Server.readPointer ⟨host⟩ pointer)) context.world =
      (.ok response, s')) :
    Server.pointerExist ⟨host⟩ service keycloak pointer context =
      .ok (decide (zone context.world pointer ≠ ∅))
        (asked service keycloak (.plain (Server.readPointer ⟨host⟩ pointer)) context) := by
  obtain ⟨hstatus, data, schemes, hjson, hget, hschemes⟩ := h.tells _ _ _ _ _ hpointer hanswer
  have hread : (do (← readJson response).getItem "schemes") = .ok (Data.list schemes) := by
    rw [readJson, hjson]
    exact hget
  refine bind_eq_ok_iff.2 ⟨response, _, call_eq_ok_iff.2 ⟨⟨s', hanswer⟩, rfl⟩, ?_⟩
  rw [if_neg (not_not.2 hstatus)]
  refine bind_ofExcept_eq_ok_iff.2 ⟨Data.list schemes, hread, ?_⟩
  have htruthy : truthy schemes = decide (zone context.world pointer ≠ ∅) := by
    rw [Bool.eq_iff_iff, decide_eq_true_iff, ne_eq, ← hschemes]
    cases schemes with
    | nil => simp
    | cons scheme schemes => simp
  rw [← htruthy]
  rfl

/-- A mapped alias is asked about, if there is a Zone Manager. -/
theorem mappedPointerExists_of_some {aliasName : String} {pointer : TrustFrameworkPointer}
    {server : Server} {keycloak : K} (halias : aliases aliasName = some pointer)
    (hserver : context.dnsZoneManager = some (server, keycloak)) :
    mappedPointerExists service aliases aliasName context =
      server.pointerExist service keycloak pointer context := by
  unfold mappedPointerExists
  rw [halias]
  exact bind_required hserver

/-- A check asks about one alias after the other, and raises unless the answer is the wanted one. -/
def Asks (service : Service K P σ) (aliases : Aliases) (wanted : Bool)
    (body : String → StepM K P σ Unit) : Prop :=
  ∃ failure : String → StepError, ∀ aliasName, body aliasName =
    mappedPointerExists service aliases aliasName >>= fun found =>
      if found = wanted then pure () else throw (failure aliasName)

section Round

variable {wanted : Bool} {body : String → StepM K P σ Unit} {aliasName : String} {keycloak : K}
  {pointer : TrustFrameworkPointer}

theorem Asks.not_completes_of_none (hbody : Asks service aliases wanted body)
    (halias : aliases aliasName = none) : ¬ Completes body context aliasName := by
  obtain ⟨failure, hbody⟩ := hbody
  rw [Completes, hbody, mappedPointerExists, halias]
  exact not_passes_error _

/-- Without a Zone Manager no alias gets through. -/
theorem Asks.not_completes_of_missing (hbody : Asks service aliases wanted body)
    (hserver : context.dnsZoneManager = none) : ¬ Completes body context aliasName := by
  cases halias : aliases aliasName with
  | none => exact hbody.not_completes_of_none halias
  | some pointer =>
    obtain ⟨failure, hbody⟩ := hbody
    have hmissing : mappedPointerExists service aliases aliasName context =
        .error (.attributeError "dns_zone_manager") context := by
      rw [mappedPointerExists, halias]
      exact bind_required_none hserver
    have hraises : outcome (mappedPointerExists service aliases aliasName) context =
        .error (.attributeError "dns_zone_manager") := by
      rw [outcome, hmissing]
    rw [Completes, hbody, outcome_bind_error hraises]
    exact not_passes_error _

/-- **One round** on a mapped alias: it passes when its request is answered as wanted. -/
theorem Asks.completes_iff (hbody : Asks service aliases wanted body)
    (h : Truthful ⟨host⟩ service zone) (hserver : context.dnsZoneManager = some (⟨host⟩, keycloak))
    (halias : aliases aliasName = some pointer) (hpointer : Intact pointer) :
    (Completes body context aliasName ↔ decide (zone context.world pointer ≠ ∅) = wanted ∧
      Passes (service.answer keycloak (.plain (Server.readPointer ⟨host⟩ pointer)) context.world).1) ∧
    (Completes body context aliasName → oneRound body aliasName context =
      asked service keycloak (.plain (Server.readPointer ⟨host⟩ pointer)) context) := by
  obtain ⟨failure, hbody⟩ := hbody
  have hrun : body aliasName context = (Server.pointerExist ⟨host⟩ service keycloak pointer >>= fun found =>
      if found = wanted then pure () else throw (failure aliasName)) context := by
    rw [hbody]
    exact bind_congr_run (mappedPointerExists_of_some halias hserver)
  cases hanswer : service.answer keycloak (.plain (Server.readPointer ⟨host⟩ pointer)) context.world with
  | mk answer s' =>
    cases answer with
    | error e =>
      have hraises : outcome (Server.pointerExist ⟨host⟩ service keycloak pointer) context = .error e := by
        refine outcome_bind_error ?_
        rw [outcome, call_run, hanswer]
      have hfails : ¬ Completes body context aliasName := by
        rw [Completes, outcome_congr hrun, outcome_bind_error hraises]
        exact not_passes_error e
      exact ⟨iff_of_false hfails fun hok => not_passes_error e hok.2, fun hok => absurd hok hfails⟩
    | ok response =>
      rw [bind_run (pointerExist_run h hpointer hanswer)] at hrun
      by_cases hfound : decide (zone context.world pointer ≠ ∅) = wanted
      · simp only [if_pos hfound] at hrun
        have hok := passes_outcome_iff.2 ⟨_, _, hrun⟩
        exact ⟨iff_of_true hok ⟨hfound, passes_ok _⟩, fun _ => left_of_run hrun⟩
      · simp only [if_neg hfound] at hrun
        have hfails : ¬ Completes body context aliasName := by
          rw [Completes, outcome, hrun]
          exact not_passes_error _
        exact ⟨iff_of_false hfails fun hok => hfound hok.1, fun hok => absurd hok hfails⟩

end Round

/-- **The rounds of a check**, from one round: they all return exactly when every alias is mapped to a
    pointer of the wanted kind and every request is answered, and then nothing has changed. -/
theorem Asks.along_iff {wanted : Bool} {body : String → StepM K P σ Unit}
    (hbody : Asks service aliases wanted body) (h : Truthful ⟨host⟩ service zone) {keycloak : K}
    {pointers : List String} (hnames : ∀ name ∈ pointers.filterMap aliases, Intact name)
    (hserver : context.dnsZoneManager = some (⟨host⟩, keycloak)) :
    (Along (oneRound body) (Completes body) context pointers ↔
      (∀ aliasName ∈ pointers, ∃ pointer, aliases aliasName = some pointer ∧
        decide (zone context.world pointer ≠ ∅) = wanted) ∧
      AnswersAbout host service context (pointers.filterMap aliases)) ∧
    (Along (oneRound body) (Completes body) context pointers →
      SameView zone context (after (oneRound body) context pointers)) := by
  induction pointers generalizing context with
  | nil =>
    refine ⟨iff_of_true trivial ⟨List.forall_mem_nil _, keycloak, hserver, trivial⟩, fun _ => ?_⟩
    exact ⟨rfl, rfl, rfl⟩
  | cons aliasName pointers ih =>
    cases halias : aliases aliasName with
    | none =>
      have hfails := @Asks.not_completes_of_none _ _ _ _ _ context _ _ _ hbody halias
      refine ⟨iff_of_false (fun hall => hfails hall.1) ?_, fun hall => absurd hall.1 hfails⟩
      rintro ⟨hall, -⟩
      obtain ⟨pointer, hsome, -⟩ := hall aliasName List.mem_cons_self
      rw [halias] at hsome
      cases hsome
    | some pointer =>
      rw [List.filterMap_cons_some halias, List.forall_mem_cons] at hnames
      rw [List.filterMap_cons_some halias]
      obtain ⟨hcompletes, hround⟩ := hbody.completes_iff h hserver halias hnames.1
      by_cases hfirst : Completes body context aliasName
      · obtain ⟨hfound, response, hresponse⟩ := hcompletes.1 hfirst
        -- the request is answered and changes nothing
        have hworld : (oneRound body aliasName context).world = (service.answer keycloak
            (.plain (Server.readPointer ⟨host⟩ pointer)) context.world).2 := by
          rw [hround hfirst]
          rfl
        have hsame : SameView zone context (oneRound body aliasName context) := by
          rw [hround hfirst]
          exact ⟨h.neutral _ _ _ _ _ (.readPointer pointer hnames.1) (Prod.ext hresponse rfl), rfl, rfl⟩
        have hnext := hserver
        rw [← hsame.dnsZoneManager_eq] at hnext
        obtain ⟨hiff, hview⟩ := ih hnames.2 hnext
        rw [hsame.zone_eq] at hiff
        refine ⟨⟨?_, ?_⟩, ?_⟩
        · rintro ⟨-, hrest⟩
          obtain ⟨hall, keycloak', hserver', hanswers⟩ := hiff.1 hrest
          rw [hnext] at hserver'
          cases hserver'
          rw [hworld] at hanswers
          refine ⟨List.forall_mem_cons.2 ⟨⟨pointer, halias, hfound⟩, hall⟩, keycloak, hserver,
            ⟨response, hresponse⟩, ?_⟩
          exact hanswers
        · rintro ⟨hall, keycloak', hserver', -, hanswers⟩
          rw [hserver] at hserver'
          cases hserver'
          refine ⟨hfirst, hiff.2 ⟨(List.forall_mem_cons.1 hall).2, keycloak, hnext, ?_⟩⟩
          rw [hworld]
          exact hanswers
        · rintro ⟨-, hrest⟩
          obtain ⟨hzone, hkept, hstays⟩ := hview hrest
          exact ⟨hzone.trans hsame.zone_eq, hkept.trans hsame.requestsResponse_eq,
            hstays.trans hsame.dnsZoneManager_eq⟩
      · refine ⟨iff_of_false (fun hall => hfirst hall.1) ?_, fun hall => absurd hall.1 hfirst⟩
        rintro ⟨hall, keycloak', hserver', hanswers⟩
        rw [hserver] at hserver'
        cases hserver'
        obtain ⟨_, hsome, hfound⟩ := hall aliasName List.mem_cons_self
        rw [halias] at hsome
        cases hsome
        exact hfirst (hcompletes.2 ⟨hfound, hanswers.1⟩)

/-- **A check of listed aliases** returns exactly on a list of aliases that are all mapped to pointers of
    the wanted kind, when there is a Zone Manager that answers about them. -/
theorem Asks.check_iff {wanted : Bool} {body : String → StepM K P σ Unit}
    (hbody : Asks service aliases wanted body) (h : Truthful ⟨host⟩ service zone)
    (hosted : Hosted host context) {pointers : List String}
    (hnames : ∀ name ∈ pointers.filterMap aliases, Intact name) :
    (Passes (outcome (do
        if ¬ truthy pointers then throw (.assertionError "")
        pointers.forM body : StepM K P σ Unit) context) ↔
      pointers ≠ [] ∧ (∀ aliasName ∈ pointers, ∃ pointer, aliases aliasName = some pointer ∧
        decide (zone context.world pointer ≠ ∅) = wanted) ∧
      AnswersAbout host service context (pointers.filterMap aliases)) ∧
    ∀ context', (do
        if ¬ truthy pointers then throw (.assertionError "")
        pointers.forM body : StepM K P σ Unit) context = .ok () context' →
      SameView zone context context' := by
  cases hpointers : pointers with
  | nil =>
    constructor
    · refine iff_of_false (fun h => ?_) (fun h => h.1 rfl)
      obtain ⟨_, h⟩ := h
      cases h
    · intro context' h
      cases h
  | cons first others =>
    rw [← hpointers]
    have htruthy : truthy pointers = true := by rw [hpointers, truthy_cons]
    have hne : pointers ≠ [] := by
      rw [hpointers]
      exact List.cons_ne_nil _ _
    rw [if_neg (not_not.2 htruthy)]
    show (Passes (outcome (pointers.forM body) context) ↔ _) ∧
      ∀ context', pointers.forM body context = .ok () context' → _
    have hpasses := Effect.forM_passes_iff body pointers context
    cases hserver : context.dnsZoneManager with
    | none =>
      have hfails : ¬ Passes (outcome (pointers.forM body) context) := by
        rw [hpasses, hpointers]
        rintro ⟨hfirst, -⟩
        exact hbody.not_completes_of_missing hserver hfirst
      refine ⟨iff_of_false hfails ?_, fun context' hrun => ?_⟩
      · rintro ⟨-, -, keycloak, hsome, -⟩
        rw [hserver] at hsome
        cases hsome
      · exact absurd (passes_outcome_iff.2 ⟨_, _, hrun⟩) hfails
    | some entry =>
      obtain ⟨server, keycloak⟩ := entry
      obtain rfl := hosted server keycloak hserver
      obtain ⟨hiff, hview⟩ := hbody.along_iff h hnames hserver
      refine ⟨hpasses.trans (hiff.trans (and_iff_right hne).symm), fun context' hrun => ?_⟩
      have halong := hpasses.1 (passes_outcome_iff.2 ⟨_, _, hrun⟩)
      rw [← left_of_run hrun, left_forM body halong]
      exact hview halong

theorem checkPointerExists_iff (h : Truthful ⟨host⟩ service zone) (hosted : Hosted host context)
    {pointers : List String} (hnames : ∀ name ∈ pointers.filterMap aliases, Intact name) :
    (Passes (outcome (checkPointerExists service aliases pointers) context) ↔
      pointers ≠ [] ∧ (∀ aliasName ∈ pointers,
        ∃ pointer, aliases aliasName = some pointer ∧ zone context.world pointer ≠ ∅) ∧
      AnswersAbout host service context (pointers.filterMap aliases)) ∧
    ∀ context', checkPointerExists service aliases pointers context = .ok () context' →
      SameView zone context context' := by
  have hbody : Asks service aliases true (fun aliasName => do
      if ¬ (← mappedPointerExists service aliases aliasName) then
        throw (.assertionError "")) := by
    refine ⟨fun _ => .assertionError "", fun aliasName => congrArg _ ?_⟩
    funext found
    cases found <;> rfl
  have hiff := hbody.check_iff h hosted hnames
  simp only [decide_eq_true_iff] at hiff
  exact hiff

theorem checkPointerNotExists_iff (h : Truthful ⟨host⟩ service zone) (hosted : Hosted host context)
    {pointers : List String} (hnames : ∀ name ∈ pointers.filterMap aliases, Intact name) :
    (Passes (outcome (checkPointerNotExists service aliases pointers) context) ↔
      pointers ≠ [] ∧ (∀ aliasName ∈ pointers,
        ∃ pointer, aliases aliasName = some pointer ∧ zone context.world pointer = ∅) ∧
      AnswersAbout host service context (pointers.filterMap aliases)) ∧
    ∀ context', checkPointerNotExists service aliases pointers context = .ok () context' →
      SameView zone context context' := by
  have hbody : Asks service aliases false (fun aliasName => do
      if ← mappedPointerExists service aliases aliasName then
        throw (.assertionError "pointer  exists" aliasName)) := by
    refine ⟨fun aliasName => .assertionError "pointer  exists" aliasName, fun aliasName => congrArg _ ?_⟩
    funext found
    cases found <;> rfl
  have hiff := hbody.check_iff h hosted hnames
  simp only [decide_eq_false_iff_not, not_not] at hiff
  exact hiff

end Truth

end TrainBdd.ZoneManager
