/-
  The `behave` context of the steps on the DNS Zone Manager and on the TSPA.

  1. **Data** — a JSON document as `response.json()` returns it, and what Python's subscript and `for`
     do with it.
  2. **Context** — the attributes that one step sets and another finds, or does not find.
  3. **Methods** — a method of a wrapper updates the session's header and then sends its request, if its
     endpoint's assertion lets it.  The core package and `requests` may raise at either; a raise undoes
     nothing (`Lib.Effect`).
  4. **Rules** — `call_run` and `keepAnswer_run` say what is left behind a method, answered or not, and
     `Service.Answered` what it takes for a list of methods to get through.
-/
import TrainBdd.TspaServer
import TrainBdd.ZoneManager
import TrainBdd.Lib.Effect

namespace TrainBdd

open Python Run Effect

/-! ## Data -/

/-- A JSON document: a dictionary (each key once), a list, a string, or a leaf (`null`, a boolean, a
    number), of which only the print matters. -/
inductive Data
  | dict (members : List (String × Data))
  | list (elems : List Data)
  | str (s : String)
  | leaf (print : String)

/-- A `requests.Response`; without `json` its content is not JSON. -/
structure HttpResponse where
  statusCode : Nat
  text : String
  json : Option Data

/-- What a step raises.  An assertion's message stands without the alias that it names; `refused` is the
    assertion on `(status_code, text)`, `outside` what the core package or `requests` raise. -/
inductive StepError
  | attributeError (name : String)
  | keyError (key : String)
  | typeError
  | jsonDecodeError
  | assertionError (message : String) (aliasName : Option String := none)
  | refused (statusCode : Nat) (text : String)
  | subStep (sentence : String)
  | undefinedStep
  | outside (exception : String)
deriving DecidableEq, Repr

namespace Data

/-- `data[key]`: only a dictionary takes a string. -/
def getItem (data : Data) (key : String) : Except StepError Data :=
  match data with
  | dict members =>
    match members.lookup key with
    | some value => .ok value
    | none => .error (.keyError key)
  | _ => .error .typeError

/-- `for item in data`: the elements, the keys or the characters. -/
def iter (data : Data) : Except StepError (List Data) :=
  match data with
  | dict members => .ok (members.map fun m => str m.1)
  | list elems => .ok elems
  | str s => .ok (s.toList.map fun c => str (String.singleton c))
  | leaf _ => .error .typeError

end Data

/-- `response.json()`. -/
def readJson (response : HttpResponse) : Except StepError Data :=
  match response.json with
  | some data => .ok data
  | none => .error .jsonDecodeError

/-! ## Context -/

/-- A scenario's context, with the world that its requests reach and the requests sent so far.  An
    attribute that no step has set is `none`; a wrapper is kept with the Keycloak it was made with. -/
structure Context (K P σ : Type) where
  world : σ
  sent : List (HttpRequest P) := []
  keycloak : Option K := none
  dnsZoneManager : Option (ZoneManager.Server × K) := none
  tspaServer : Option (Tspa.Server × K) := none
  requestsResponse : Option HttpResponse := none

abbrev StepM (K P σ : Type) := EStateM StepError (Context K P σ)

variable {K P σ α V : Type}

/-- `context.keycloak`. -/
def keycloak : StepM K P σ K := required (.attributeError "keycloak") Context.keycloak

/-- `context.dns_zone_manager`. -/
def dnsZoneManager : StepM K P σ (ZoneManager.Server × K) :=
  required (.attributeError "dns_zone_manager") Context.dnsZoneManager

/-- `context.tspa_server`. -/
def tspaServer : StepM K P σ (Tspa.Server × K) :=
  required (.attributeError "tspa_server") Context.tspaServer

/-- `context.requests_response`. -/
def requestsResponse : StepM K P σ HttpResponse :=
  required (.attributeError "requests_response") Context.requestsResponse

/-- `context.aliases[name]`. -/
def aliasOf (aliases : String → Option V) (name : String) : Except StepError V :=
  match aliases name with
  | some value => .ok value
  | none => .error (.keyError name)

/-! ## Methods of the wrappers -/

/-- What is outside the repository: `_update_header` of the core package, with the content type that it
    is called with, and the services, which `requests` gets an answer from or does not. -/
structure Service (K P σ : Type) where
  updateHeader : K → Option String → σ → Except StepError Unit × σ
  exchange : HttpRequest P → σ → Except StepError HttpResponse × σ

/-- What a method of a wrapper does: it updates the header, and sends the request of an endpoint that may
    assert something first. -/
structure Method (P : Type) where
  contentType : Option String := none
  request : Except StepError (HttpRequest P)

/-- A method that asserts nothing. -/
def Method.plain (request : HttpRequest P) : Method P := { request := .ok request }

/-- What acts on the world behind the context. -/
def onWorld (act : σ → Except StepError α × σ) : StepM K P σ α :=
  acting Context.world (fun context world => { context with world := world }) act

/-- A call of the `requests` session. -/
def exchange (service : Service K P σ) (request : HttpRequest P) : StepM K P σ HttpResponse := do
  modify fun context => { context with sent := context.sent ++ [request] }
  onWorld (service.exchange request)

def call (service : Service K P σ) (keycloak : K) (method : Method P) : StepM K P σ HttpResponse := do
  onWorld (service.updateHeader keycloak method.contentType)
  exchange service (← MonadExcept.ofExcept method.request)

/-- `context.requests_response = ..`, the assignment that every "When" step ends with. -/
def keepAnswer (service : Service K P σ) (keycloak : K) (method : Method P) : StepM K P σ Unit := do
  let response ← call service keycloak method
  modify fun context => { context with requestsResponse := some response }

/-! ## Rules -/

namespace Service

variable (service : Service K P σ) (keycloak : K) (method : Method P)

/-- The answer to a method, or what is raised on the way, and the world behind it. -/
def answer (s : σ) : Except StepError HttpResponse × σ :=
  match service.updateHeader keycloak method.contentType s with
  | (.error e, s') => (.error e, s')
  | (.ok _, s') =>
    match method.request with
    | .error e => (.error e, s')
    | .ok request => service.exchange request s'

/-- The request of a method, if it gets as far as to send it. -/
def sends (s : σ) : List (HttpRequest P) :=
  match service.updateHeader keycloak method.contentType s, method.request with
  | (.ok _, _), .ok request => [request]
  | _, _ => []

/-- The world behind a method. -/
def next (method : Method P) (s : σ) : σ := (service.answer keycloak method s).2

/-- The methods are all answered, one after the other. -/
def Answered (methods : List (Method P)) (s : σ) : Prop :=
  Along (service.next keycloak) (fun s method => Passes (service.answer keycloak method s).1) s methods

/-- A method that is answered has sent its request. -/
theorem sends_of_answer {s s' : σ} {response : HttpResponse}
    (h : service.answer keycloak method s = (.ok response, s')) :
    ∃ request, method.request = .ok request ∧ service.sends keycloak method s = [request] := by
  unfold answer at h
  unfold sends
  cases hheader : service.updateHeader keycloak method.contentType s with
  | mk outcome s'' =>
    rw [hheader] at h
    cases outcome with
    | error e => cases h
    | ok u =>
      cases hrequest : method.request with
      | error e =>
        rw [hrequest] at h
        cases h
      | ok request => exact ⟨request, rfl, rfl⟩

end Service

section Run

variable (service : Service K P σ) (keycloak : K) (method : Method P) (context : Context K P σ)

/-- The context behind a method. -/
def asked : Context K P σ :=
  { context with
    world := (service.answer keycloak method context.world).2
    sent := context.sent ++ service.sends keycloak method context.world }

/-- The context behind a method whose answer is kept. -/
def answered (response : HttpResponse) : Context K P σ :=
  { asked service keycloak method context with requestsResponse := some response }

theorem call_run :
    call service keycloak method context =
      match (service.answer keycloak method context.world).1 with
      | .ok response => .ok response (asked service keycloak method context)
      | .error e => .error e (asked service keycloak method context) := by
  unfold call asked Service.answer Service.sends
  show EStateM.bind (onWorld (service.updateHeader keycloak method.contentType)) _ context = _
  unfold EStateM.bind onWorld acting
  cases service.updateHeader keycloak method.contentType context.world with
  | mk outcome s =>
    cases outcome with
    | error e => simp
    | ok u =>
      cases method.request with
      | error e =>
        rw [List.append_nil]
        rfl
      | ok request =>
        show onWorld (service.exchange request)
          { context with world := s, sent := context.sent ++ [request] } = _
        unfold onWorld acting
        cases hexchange : service.exchange request s with
        | mk answer s' => cases answer <;> simp [hexchange]

theorem keepAnswer_run :
    keepAnswer service keycloak method context =
      match (service.answer keycloak method context.world).1 with
      | .ok response => .ok () (answered service keycloak method context response)
      | .error e => .error e (asked service keycloak method context) := by
  show EStateM.bind (call service keycloak method) _ context = _
  rw [EStateM.bind, call_run]
  cases (service.answer keycloak method context.world).1 with
  | error e => rfl
  | ok response => rfl

end Run

section Inversion

variable {service : Service K P σ} {keycloak : K} {method : Method P} {context context' : Context K P σ}

/-- A method that returns has been answered. -/
theorem call_eq_ok_iff {response : HttpResponse} :
    call service keycloak method context = .ok response context' ↔
      (∃ s', service.answer keycloak method context.world = (.ok response, s')) ∧
        context' = asked service keycloak method context := by
  rw [call_run]
  cases hanswer : service.answer keycloak method context.world with
  | mk outcome s' =>
    cases outcome with
    | error e => simp
    | ok r =>
      show EStateM.Result.ok r _ = _ ↔ _
      simp only [EStateM.Result.ok.injEq, Prod.mk.injEq, Except.ok.injEq, exists_eq_right',
        and_congr_right_iff]
      rintro rfl
      exact eq_comm

theorem keepAnswer_eq_ok_iff :
    keepAnswer service keycloak method context = .ok () context' ↔
      ∃ response s', service.answer keycloak method context.world = (.ok response, s') ∧
        context' = answered service keycloak method context response := by
  rw [keepAnswer, bind_eq_ok_iff]
  constructor
  · rintro ⟨response, _, hcall, hkeep⟩
    obtain ⟨⟨s', hanswer⟩, rfl⟩ := call_eq_ok_iff.1 hcall
    cases hkeep
    exact ⟨response, s', hanswer, rfl⟩
  · rintro ⟨response, s', hanswer, rfl⟩
    exact ⟨response, _, call_eq_ok_iff.2 ⟨⟨s', hanswer⟩, rfl⟩, rfl⟩

/-! ## Rounds that keep their answers -/

theorem completes_keepAnswer_iff :
    Completes (keepAnswer service keycloak) context method ↔
      Passes (service.answer keycloak method context.world).1 := by
  rw [Completes, outcome, keepAnswer_run]
  cases (service.answer keycloak method context.world).1 with
  | error e => exact iff_of_false (not_passes_error _) (not_passes_error _)
  | ok response => exact iff_of_true (passes_ok _) (passes_ok _)

/-- Answered or not, a round leaves the world behind the method, and what the method has sent. -/
theorem left_keepAnswer :
    ∃ response, left (keepAnswer service keycloak method) context =
      { asked service keycloak method context with requestsResponse := response } := by
  rw [left, keepAnswer_run]
  cases (service.answer keycloak method context.world).1 with
  | error e => exact ⟨context.requestsResponse, rfl⟩
  | ok response => exact ⟨some response, rfl⟩

theorem world_oneRound (context : Context K P σ) (method : Method P) :
    (oneRound (keepAnswer service keycloak) method context).world =
      service.next keycloak method context.world := by
  obtain ⟨response, hround⟩ := @left_keepAnswer _ _ _ service keycloak method context
  rw [oneRound, hround]
  rfl

variable {methods : List (Method P)}

/-- The rounds return as long as the methods are answered. -/
theorem along_keepAnswer_iff :
    Along (oneRound (keepAnswer service keycloak)) (Completes (keepAnswer service keycloak)) context
      methods ↔ service.Answered keycloak methods context.world :=
  along_view_iff world_oneRound (fun _ _ => completes_keepAnswer_iff) context methods

/-- Methods that are answered have sent their requests, in order. -/
theorem sent_after (h : service.Answered keycloak methods context.world) :
    ∃ requests, methods.map Method.request = requests.map .ok ∧
      (after (oneRound (keepAnswer service keycloak)) context methods).sent =
        context.sent ++ requests := by
  induction methods generalizing context with
  | nil => exact ⟨[], rfl, (List.append_nil _).symm⟩
  | cons method methods ih =>
    obtain ⟨⟨response, hanswer⟩, hrest⟩ := h
    obtain ⟨request, hrequest, hsends⟩ := service.sends_of_answer keycloak method
      (Prod.ext hanswer rfl : service.answer keycloak method context.world = (.ok response, _))
    obtain ⟨kept, hround⟩ := @left_keepAnswer _ _ _ service keycloak method context
    rw [← world_oneRound] at hrest
    obtain ⟨requests, hrequests, hsent⟩ := ih hrest
    refine ⟨request :: requests, by rw [List.map_cons, hrequest, hrequests, List.map_cons], ?_⟩
    rw [after, hsent, oneRound, hround, asked, hsends]
    exact List.append_assoc _ _ _

/-- **Methods one after the other**: when all are answered, all their requests are sent, in order. -/
theorem keepAnswers_of_answered (h : service.Answered keycloak methods context.world) :
    outcome (methods.forM (keepAnswer service keycloak)) context = .ok ⟨⟩ ∧
      ∃ requests, methods.map Method.request = requests.map .ok ∧
        (left (methods.forM (keepAnswer service keycloak)) context).sent =
          context.sent ++ requests := by
  have hrounds := along_keepAnswer_iff.2 h
  obtain ⟨u, hu⟩ := (Effect.forM_passes_iff _ _ _).2 hrounds
  rw [left_forM _ hrounds]
  exact ⟨hu, sent_after h⟩

/-- When one is not answered, the methods behind it are not called, and it ends the run with what was
    raised. -/
theorem keepAnswers_of_not_answered (h : ¬ service.Answered keycloak methods context.world) :
    ∃ done failing rest requests e, methods = done ++ failing :: rest ∧
      service.Answered keycloak done context.world ∧
      (service.answer keycloak failing (after (service.next keycloak) context.world done)).1 = .error e ∧
      outcome (methods.forM (keepAnswer service keycloak)) context = .error e ∧
      done.map Method.request = requests.map .ok ∧
      (left (methods.forM (keepAnswer service keycloak)) context).sent = context.sent ++ requests ++
        service.sends keycloak failing (after (service.next keycloak) context.world done) := by
  rw [← along_keepAnswer_iff, ← Effect.forM_passes_iff] at h
  obtain ⟨done, failing, rest, hmethods, hdone, hfailing, hrun⟩ := forM_raises _ h
  rw [along_keepAnswer_iff] at hdone
  obtain ⟨requests, hrequests, hsent⟩ := sent_after hdone
  have hworld := after_view (@world_oneRound _ _ _ service keycloak) context done
  rw [completes_keepAnswer_iff, hworld] at hfailing
  obtain ⟨kept, hleft⟩ := @left_keepAnswer _ _ _ service keycloak failing
    (after (oneRound (keepAnswer service keycloak)) context done)
  cases hanswer : (service.answer keycloak failing
      (after (service.next keycloak) context.world done)).1 with
  | ok response => exact absurd ⟨response, hanswer⟩ hfailing
  | error e =>
    refine ⟨done, failing, rest, requests, e, hmethods, hdone, hanswer, ?_, hrequests, ?_⟩
    · rw [outcome, hrun, keepAnswer_run, hworld, hanswer]
    · rw [left, hrun]
      show (left (keepAnswer service keycloak failing)
        (after (oneRound (keepAnswer service keycloak)) context done)).sent = _
      rw [hleft, ← hsent, asked, hworld]

theorem aliasOf_eq_ok_iff {aliases : String → Option V} {name : String} {value : V} :
    aliasOf aliases name = .ok value ↔ aliases name = some value := by
  unfold aliasOf
  cases aliases name with
  | none => simp
  | some v => simp

end Inversion

end TrainBdd
