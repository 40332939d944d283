/-
  `steps/dns_zone_manager_server.py` — the steps that write and check pointers, and scenarios of them.

  1. **Steps** — a step looks up the Zone Manager, then its aliases; a "When" step keeps the answer to its
     request, a check sends requests of its own and keeps nothing.
  2. **Scenarios** — any steps in any order, each with the dictionary it finds; the first step that
     raises ends them.
  3. **Inversion** — what a step that returned has found in the context, and has left there.
-/
import TrainBdd.ZoneManagerSteps

namespace TrainBdd.ZoneManager

open Python Run Effect

/-- `context.aliases`. -/
abbrev Aliases := String → Option String

variable {K P σ : Type}

/-! ## The program: the wrapper -/

def Server.status (self : Server) : HttpRequest P where
  method := .get
  url := self.host.str ++ "status"
  body := .empty

/-- `is_up`, which updates no header. -/
def Server.isUp (self : Server) (service : Service K P σ) : StepM K P σ Bool := do
  let response ← exchange service self.status
  -- the content is not read unless the status is right
  if response.statusCode = 200 then
    match ← MonadExcept.ofExcept (do (← readJson response).getItem "status") with
    | .str status => return status == "OK"
    | _ => return false
  else
    return false

/-- `pointer_exist`. -/
def Server.pointerExist (self : Server) (service : Service K P σ) (keycloak : K) (pointer : String) :
    StepM K P σ Bool := do
  let response ← call service keycloak (.plain (self.readPointer pointer))
  if ¬ response.statusCode = 200 then
    throw (.assertionError "expect HTTP: 200")
  match ← MonadExcept.ofExcept (do (← readJson response).getItem "schemes") with
  | .list schemes => return truthy schemes
  | _ => throw (.assertionError "expect schemes as list in response")

/-! ## The program: the steps -/

section Steps

variable (py : Formatter) (sets : SetBuilder TrustFrameworkPointer)
  (check : HttpResponse → Except StepError Unit) (host : HttpUrl) (service : Service K P σ)
  (aliases : Aliases)

/-- The Zone Manager is set before it is asked, and stays when it is not up. -/
def checkDnsZmServerUp : StepM K P σ Unit := do
  let server : Server := ⟨host⟩
  let keycloak ← keycloak
  modify ({ · with dnsZoneManager := some (server, keycloak) })
  if ¬ (← server.isUp service) then
    throw (.assertionError ("is not up " ++ host.str))

def creatingPointers (includePointers : List String) (pointer : String) : StepM K P σ Unit := do
  let (server, keycloak) ← dnsZoneManager
  -- the pointer is looked up before the included ones
  let name ← MonadExcept.ofExcept (aliasOf aliases pointer)
  let included ← MonadExcept.ofExcept (includePointers.mapM (aliasOf aliases))
  keepAnswer service keycloak (.plain (server.createPointer name (sets.set included)))

/-- The "When" steps on one pointer: the Zone Manager is looked up before the name. -/
def askAbout (name : Except StepError String) (request : Server → String → HttpRequest P) :
    StepM K P σ Unit := do
  let (server, keycloak) ← dnsZoneManager
  keepAnswer service keycloak (.plain (request server (← MonadExcept.ofExcept name)))

def removePointerFromZmServer (pointer : String) : StepM K P σ Unit :=
  askAbout service (aliasOf aliases pointer) Server.removePointer

def removeDidPointerFromZmServer (pointer : String) : StepM K P σ Unit :=
  askAbout service (aliasOf aliases pointer) Server.removeDidFromPointer

def requestsPointer (aliasName : String) : StepM K P σ Unit :=
  askAbout service (aliasOf aliases aliasName) Server.readPointer

/-- A name with a dot is no alias. -/
def createDidForPointer (did : Did) (pointer : String) : StepM K P σ Unit :=
  askAbout service (if '.' ∈ pointer.toList then .ok pointer else aliasOf aliases pointer)
    fun server => server.createDidForPointer did

def readPointersDid (pointer : String) : StepM K P σ Unit :=
  askAbout service (aliasOf aliases pointer) Server.readDidForPointer

/-- `context.dns_zone_manager.pointer_exist(context.aliases[alias])`, behind the assert that the alias is
    mapped. -/
def mappedPointerExists (aliasName : String) : StepM K P σ Bool :=
  match aliases aliasName with
  | none => throw (.assertionError " not mapped" aliasName)
  | some pointer => do
    let (server, keycloak) ← dnsZoneManager
    server.pointerExist service keycloak pointer

def checkPointerExists (pointers : List String) : StepM K P σ Unit := do
  if ¬ truthy pointers then
    throw (.assertionError "")
  pointers.forM fun aliasName => do
    if ¬ (← mappedPointerExists service aliases aliasName) then
      throw (.assertionError "")

def checkPointerNotExists (pointers : List String) : StepM K P σ Unit := do
  if ¬ truthy pointers then
    throw (.assertionError "")
  pointers.forM fun aliasName => do
    if ← mappedPointerExists service aliases aliasName then
      throw (.assertionError "pointer  exists" aliasName)

/-! ## Scenarios -/

/-- The steps of the file, with the parameters of their sentences. -/
inductive Step
  | checkDnsZmServerUp
  | creatingPointers (includePointers : List String) (pointer : String)
  | requestsZones
  | removePointerFromZmServer (pointer : String)
  | removeDidPointerFromZmServer (pointer : String)
  | deleteAllZonesInListedInRequestResponse
  | removeAllPointers
  | requestsPointer (aliasName : String)
  | checkPointerExists (pointers : List String)
  | checkPointerNotExists (pointers : List String)
  | createDidForPointer (did : Did) (pointer : String)
  | readPointersDid (pointer : String)
deriving DecidableEq, Repr

def Step.run : Step → StepM K P σ Unit
  | checkDnsZmServerUp => ZoneManager.checkDnsZmServerUp host service
  | creatingPointers includePointers pointer =>
    ZoneManager.creatingPointers sets service aliases includePointers pointer
  | requestsZones => ZoneManager.requestsZones service
  | removePointerFromZmServer pointer => ZoneManager.removePointerFromZmServer service aliases pointer
  | removeDidPointerFromZmServer pointer =>
    ZoneManager.removeDidPointerFromZmServer service aliases pointer
  | deleteAllZonesInListedInRequestResponse =>
    ZoneManager.deleteAllZonesInListedInRequestResponse py service
  | removeAllPointers => ZoneManager.removeAllPointers py service check
  | requestsPointer aliasName => ZoneManager.requestsPointer service aliases aliasName
  | checkPointerExists pointers => ZoneManager.checkPointerExists service aliases pointers
  | checkPointerNotExists pointers => ZoneManager.checkPointerNotExists service aliases pointers
  | createDidForPointer did pointer => ZoneManager.createDidForPointer service aliases did pointer
  | readPointersDid pointer => ZoneManager.readPointersDid service aliases pointer

/-- A step with the aliases it finds. -/
def runStep (step : Aliases × Step) : StepM K P σ Unit := step.2.run py sets check host service step.1

/-- A scenario: its steps in order, each with the aliases it finds. -/
def scenario (steps : List (Aliases × Step)) : StepM K P σ Unit :=
  steps.forM (runStep py sets check host service)

end Steps

/-! ## One step of the program -/

/-- The names under the schemes of a zone in a listing, as the deletion prints them. -/
def schemeNames (py : Formatter) (item : Data) : Except StepError (List String) := do
  let schemes ← item.getItem "schemes"
  (← schemes.iter).mapM fun pointer => do return py.format (← pointer.getItem "name")

/-- The names in a listing. -/
def zoneNames (py : Formatter) (response : HttpResponse) : Except StepError (List String) := do
  let zones ← (← readJson response).getItem "zones"
  return (← (← zones.iter).mapM (schemeNames py)).flatten

/-- The names that a deletion finds in the answer the context holds. -/
def heldNames (py : Formatter) (answer : Option HttpResponse) : List String :=
  match answer.map (zoneNames py) with
  | some (.ok names) => names
  | _ => []

section Inversion

variable {py : Formatter} {sets : SetBuilder TrustFrameworkPointer}
  {check : HttpResponse → Except StepError Unit} {host : HttpUrl} {service : Service K P σ}
  {aliases : Aliases} {context context' : Context K P σ}

theorem mapM_aliasOf {names values : List String} (h : names.mapM (aliasOf aliases) = .ok values) :
    names.filterMap aliases = values := by
  induction names generalizing values with
  | nil =>
    cases h
    rfl
  | cons name names ih =>
    rw [List.mapM_cons] at h
    cases hname : aliasOf aliases name with
    | error e =>
      rw [hname] at h
      cases h
    | ok value =>
      rw [hname] at h
      cases hnames : names.mapM (aliasOf aliases) with
      | error e =>
        rw [hnames] at h
        cases h
      | ok values' =>
        rw [hnames] at h
        cases h
        rw [List.filterMap_cons_some (aliasOf_eq_ok_iff.1 hname), ih hnames]

/-- A "When" step on one pointer keeps the answer to its request. -/
theorem askAbout_run {name : Except StepError String} {request : Server → String → HttpRequest P}
    (h : askAbout service name request context = .ok () context') :
    ∃ server keycloak pointer response s', context.dnsZoneManager = some (server, keycloak) ∧
      name = .ok pointer ∧
      service.answer keycloak (.plain (request server pointer)) context.world = (.ok response, s') ∧
      context' = answered service keycloak (.plain (request server pointer)) context response := by
  obtain ⟨⟨server, keycloak⟩, hserver, h⟩ := bind_required_eq_ok_iff.1 h
  obtain ⟨pointer, hname, h⟩ := bind_ofExcept_eq_ok_iff.1 h
  obtain ⟨response, s', hanswer, rfl⟩ := keepAnswer_eq_ok_iff.1 h
  exact ⟨server, keycloak, pointer, response, s', hserver, hname, hanswer, rfl⟩

theorem creatingPointers_run {includePointers : List String} {pointer : String}
    (h : creatingPointers sets service aliases includePointers pointer context = .ok () context') :
    ∃ server keycloak name response s', context.dnsZoneManager = some (server, keycloak) ∧
      aliases pointer = some name ∧
      let method := Method.plain (server.createPointer name (sets.set (includePointers.filterMap aliases)))
      service.answer keycloak method context.world = (.ok response, s') ∧
        context' = answered service keycloak method context response := by
  obtain ⟨⟨server, keycloak⟩, hserver, h⟩ := bind_required_eq_ok_iff.1 h
  obtain ⟨name, halias, h⟩ := bind_ofExcept_eq_ok_iff.1 h
  obtain ⟨included, hincluded, h⟩ := bind_ofExcept_eq_ok_iff.1 h
  obtain ⟨response, s', hanswer, rfl⟩ := keepAnswer_eq_ok_iff.1 h
  rw [mapM_aliasOf hincluded]
  exact ⟨server, keycloak, name, response, s', hserver, aliasOf_eq_ok_iff.1 halias, hanswer, rfl⟩

theorem requestsZones_run (h : requestsZones service context = .ok () context') :
    ∃ server keycloak response s', context.dnsZoneManager = some (server, keycloak) ∧
      service.answer keycloak (.plain server.readZones) context.world = (.ok response, s') ∧
      context' = answered service keycloak (.plain server.readZones) context response := by
  obtain ⟨⟨server, keycloak⟩, hserver, h⟩ := bind_required_eq_ok_iff.1 h
  obtain ⟨response, s', hanswer, rfl⟩ := keepAnswer_eq_ok_iff.1 h
  exact ⟨server, keycloak, response, s', hserver, hanswer, rfl⟩

/-- A Zone Manager that is up was made with the scenario's Keycloak, and its status was asked for. -/
theorem checkDnsZmServerUp_run (h : checkDnsZmServerUp host service context = .ok () context') :
    ∃ keycloak response s', context.keycloak = some keycloak ∧
      service.exchange (Server.status ⟨host⟩) context.world = (.ok response, s') ∧
      context' = { context with
        dnsZoneManager := some (⟨host⟩, keycloak)
        world := s'
        sent := context.sent ++ [Server.status ⟨host⟩] } := by
  obtain ⟨keycloak, hkeycloak, h⟩ := bind_required_eq_ok_iff.1 h
  obtain ⟨_, _, hmodify, h⟩ := bind_eq_ok_iff.1 h
  cases hmodify
  obtain ⟨up, between, hup, h⟩ := bind_eq_ok_iff.1 h
  have hend : between = context' := by
    split at h
    · cases h
    · cases h
      rfl
  subst hend
  obtain ⟨response, between', hexchange, hup⟩ := bind_eq_ok_iff.1 hup
  have hcontext : between' = between := by
    split at hup
    · obtain ⟨data, -, hup⟩ := bind_ofExcept_eq_ok_iff.1 hup
      split at hup
      · cases hup
        rfl
      · cases hup
        rfl
    · cases hup
      rfl
  subst hcontext
  obtain ⟨_, _, hsent, hexchange⟩ := bind_eq_ok_iff.1 hexchange
  cases hsent
  obtain ⟨s', hanswer, rfl⟩ := acting_eq_ok_iff.1 hexchange
  exact ⟨keycloak, response, s', hkeycloak, hanswer, rfl⟩

theorem deletePointer_run {name : String} (h : deletePointer service name context = .ok () context') :
    ∃ server keycloak response s', context.dnsZoneManager = some (server, keycloak) ∧
      service.answer keycloak (.plain (server.removePointer name)) context.world = (.ok response, s') ∧
      response.statusCode = 204 ∧
      context' = asked service keycloak (.plain (server.removePointer name)) context := by
  obtain ⟨⟨server, keycloak⟩, hserver, h⟩ := bind_required_eq_ok_iff.1 h
  obtain ⟨response, _, hcall, h⟩ := bind_eq_ok_iff.1 h
  obtain ⟨⟨s', hanswer⟩, rfl⟩ := call_eq_ok_iff.1 hcall
  split at h
  · next hstatus =>
    cases h
    exact ⟨server, keycloak, response, s', hserver, hanswer, hstatus, rfl⟩
  · cases h

theorem deleteScheme_run {pointer : Data}
    (h : deleteScheme py service pointer context = .ok () context') :
    ∃ name, (do return py.format (← pointer.getItem "name") : Except StepError String) = .ok name ∧
      deletePointer service name context = .ok () context' := by
  obtain ⟨value, hname, hdelete⟩ := bind_ofExcept_eq_ok_iff.1 h
  refine ⟨py.format value, ?_, hdelete⟩
  rw [hname]
  rfl

theorem deleteZone_run {item : Data} (h : deleteZone py service item context = .ok () context') :
    ∃ names, schemeNames py item = .ok names ∧
      names.forM (deletePointer service) context = .ok () context' := by
  obtain ⟨schemes, hitem, h⟩ := bind_ofExcept_eq_ok_iff.1 h
  obtain ⟨pointers, hiter, h⟩ := bind_ofExcept_eq_ok_iff.1 h
  obtain ⟨names, hnames, hdelete⟩ := forM_of_read _ (fun _ _ _ => deleteScheme_run) h
  refine ⟨names, ?_, hdelete⟩
  rw [schemeNames, hitem]
  show (schemes.iter >>= _) = _
  rw [hiter]
  exact hnames

/-- The deletion has read all names when it returns, and has deleted them in order. -/
theorem deleteZones_run
    (h : deleteAllZonesInListedInRequestResponse py service context = .ok () context') :
    (heldNames py context.requestsResponse).forM (deletePointer service) context = .ok () context' := by
  obtain ⟨response, hsome, h⟩ := bind_required_eq_ok_iff.1 h
  obtain ⟨data, hjson, h⟩ := bind_ofExcept_eq_ok_iff.1 h
  obtain ⟨zones, hget, h⟩ := bind_ofExcept_eq_ok_iff.1 h
  obtain ⟨items, hiter, h⟩ := bind_ofExcept_eq_ok_iff.1 h
  obtain ⟨nameLists, hnames, hdelete⟩ := forM_of_read _ (fun _ _ _ => deleteZone_run) h
  rw [forM_flatten] at hdelete
  have hlisted : zoneNames py response = .ok nameLists.flatten := by
    rw [zoneNames, hjson]
    show (data.getItem "zones" >>= _) = _
    rw [hget]
    show (zones.iter >>= _) = _
    rw [hiter]
    show (items.mapM (schemeNames py) >>= _) = _
    rw [hnames]
    rfl
  rw [heldNames, hsome, Option.map_some, hlisted]
  exact hdelete

/-- A step of steps returns when each of them does. -/
theorem executeSteps_cons_run {sentence : String} {step : StepM K P σ Unit}
    {steps : List (String × StepM K P σ Unit)}
    (h : executeSteps ((sentence, step) :: steps) context = .ok () context') :
    ∃ between, step context = .ok () between ∧ executeSteps steps between = .ok () context' := by
  obtain ⟨_, between, hstep, hsteps⟩ := bind_eq_ok_iff.1 h
  refine ⟨between, ?_, hsteps⟩
  change EStateM.tryCatch step _ context = _ at hstep
  unfold EStateM.tryCatch at hstep
  split at hstep
  · cases hstep
  · exact hstep

/-- The tear-up deletes what its own request for the zones was answered with. -/
theorem removeAllPointers_run (h : removeAllPointers py service check context = .ok () context') :
    ∃ between, requestsZones service context = .ok () between ∧
      (heldNames py between.requestsResponse).forM (deletePointer service) between =
        .ok () context' := by
  obtain ⟨between, hrequest, h⟩ := executeSteps_cons_run h
  obtain ⟨_, hget, h⟩ := executeSteps_cons_run h
  obtain ⟨response, -, hcheck⟩ := bind_required_eq_ok_iff.1 hget
  obtain ⟨-, rfl⟩ := ofExcept_eq_ok_iff.1 hcheck
  obtain ⟨_, hdelete, h⟩ := executeSteps_cons_run h
  cases h
  exact ⟨between, hrequest, deleteZones_run hdelete⟩

end Inversion

end TrainBdd.ZoneManager
