/-
  `steps/dns_zone_manager_server.py` — the tear-up: delete every pointer that a listing names.

  1. **Steps** — a step acts on the scenario's context and on the service behind it, and may raise; a
     raise undoes nothing (`Lib.Effect`).
  2. **Listings** — on a document that lists pointer names the two nested loops are one loop over the
     flattened names (`deleteZones_eq`).
  3. **Stores** — a service that deletes by name is a removing machine (`Lib.Store`) on the names that
     its URLs carry, so the loop gets through exactly the names that the store has, each once
     (`tearUp_deletes_listed`).
  4. **A service in memory** — it reads the name off the parsed URL, so it deletes by name where names are
     `Intact`, and by no other (`memory_deletesByName`).
-/
import TrainBdd.StepContext
import TrainBdd.UrlFaithful
import TrainBdd.Lib.Store
import Mathlib.Data.List.GetD

namespace TrainBdd

/-- An interpretation of `f"{value}"`; a string is inserted as it is. -/
structure Formatter where
  format : Data → String
  format_str : ∀ s, format (.str s) = s

namespace ZoneManager

open Python Run Effect

variable {K P σ : Type}

/-! ## The program: the steps -/

section Steps

variable (py : Formatter) (service : Service K P σ)

/-- Step "requests from ZM server all the zones". -/
def requestsZones : StepM K P σ Unit := do
  let (server, keycloak) ← dnsZoneManager
  keepAnswer service keycloak (.plain server.readZones)

/-- The inner loop's body from `context.dns_zone_manager.remove_pointer(value)` on. -/
def deletePointer (value : String) : StepM K P σ Unit := do
  let (server, keycloak) ← dnsZoneManager
  let response ← call service keycloak (.plain (server.removePointer value))
  unless response.statusCode = 204 do
    throw (.refused response.statusCode response.text)

/-- The inner loop's body, on one scheme of a zone. -/
def deleteScheme (pointer : Data) : StepM K P σ Unit := do
  let value ← MonadExcept.ofExcept (pointer.getItem "name")
  deletePointer service (py.format value)

/-- The outer loop's body, on one zone. -/
def deleteZone (item : Data) : StepM K P σ Unit := do
  let schemes ← MonadExcept.ofExcept (item.getItem "schemes")
  (← MonadExcept.ofExcept schemes.iter).forM (deleteScheme py service)

/-- Step "delete all zones listed in requests response". -/
def deleteAllZonesInListedInRequestResponse : StepM K P σ Unit := do
  let data ← MonadExcept.ofExcept (readJson (← requestsResponse))
  let zones ← MonadExcept.ofExcept (data.getItem "zones")
  (← MonadExcept.ofExcept zones.iter).forM (deleteZone py service)

/-- Step "get http 200:Success code" of the unseen core package, in what it makes of the response. -/
def getHttp (check : HttpResponse → Except StepError Unit) : StepM K P σ Unit := do
  MonadExcept.ofExcept (check (← requestsResponse))

/-- `context.execute_steps`: a sub-step that fails ends the step. -/
def executeSteps (steps : List (String × StepM K P σ Unit)) : StepM K P σ Unit :=
  steps.forM fun step => tryCatch step.2 fun _ => throw (.subStep step.1)

/-- Step "all zones deleted in ZM successfully ..". -/
def removeAllPointers (check : HttpResponse → Except StepError Unit) : StepM K P σ Unit :=
  executeSteps [
    ("When requests from ZM server all the zones", requestsZones service),
    ("Then get http 200:Success code", getHttp check),
    ("And delete all zones listed in requests response",
      deleteAllZonesInListedInRequestResponse py service)]

end Steps

/-! ## Listings -/

/-- The name of a scheme in a listing. -/
def schemeName (pointer : Data) : Option String :=
  match pointer.getItem "name" with
  | .ok (.str name) => some name
  | _ => none

/-- The elements of a list under a key, each read by `read`. -/
def readList {α : Type} (key : String) (read : Data → Option α) (data : Data) : Option (List α) :=
  match data.getItem key with
  | .ok (.list elems) => elems.mapM read
  | _ => none

/-- The names that a document lists: zone by zone, scheme by scheme. -/
def listedNames (data : Data) : Option (List String) :=
  (readList "zones" (readList "schemes" schemeName) data).map List.flatten

theorem readList_eq_some {α : Type} {key : String} {read : Data → Option α} {data : Data}
    {xs : List α} (h : readList key read data = some xs) :
    ∃ elems, data.getItem key = .ok (.list elems) ∧ elems.mapM read = some xs := by
  unfold readList at h
  split at h
  · next elems hget => exact ⟨elems, hget, h⟩
  · nomatch h

theorem schemeName_eq_some {pointer : Data} {name : String} (h : schemeName pointer = some name) :
    pointer.getItem "name" = .ok (.str name) := by
  unfold schemeName at h
  split at h
  · next name' hget =>
      cases h
      exact hget
  · nomatch h

/-- A loop over elements that can all be read is a loop over what is read. -/
theorem forM_of_mapM {m : Type → Type} [Monad m] {α β : Type} {read : α → Option β}
    {body : α → m PUnit} {body' : β → m PUnit} (h : ∀ x y, read x = some y → body x = body' y)
    {xs : List α} {ys : List β} (hread : xs.mapM read = some ys) :
    xs.forM body = ys.forM body' := by
  induction xs generalizing ys with
  | nil =>
    cases hread
    rfl
  | cons x xs ih =>
    rw [List.mapM_cons] at hread
    obtain ⟨y, hy, hread⟩ := Option.bind_eq_some_iff.1 hread
    obtain ⟨ys', hys, hread⟩ := Option.bind_eq_some_iff.1 hread
    cases hread
    show (body x >>= fun _ => xs.forM body) = (body' y >>= fun _ => ys'.forM body')
    rw [h x y hy, ih hys]

/-- Nested loops are one loop. -/
theorem forM_flatten {m : Type → Type} [Monad m] [LawfulMonad m] {α : Type} (body : α → m PUnit)
    (xss : List (List α)) : (xss.forM fun xs => xs.forM body) = xss.flatten.forM body := by
  induction xss with
  | nil => rfl
  | cons xs xss ih =>
    show (xs.forM body >>= fun _ => xss.forM fun xs => xs.forM body) = forM (xs ++ xss.flatten) body
    rw [List.forM_append, ih]
    rfl

section Listing

variable (py : Formatter) (service : Service K P σ)

theorem deleteScheme_eq {pointer : Data} {name : String} (h : schemeName pointer = some name) :
    deleteScheme py service pointer = deletePointer service name := by
  rw [deleteScheme, schemeName_eq_some h]
  show deletePointer service (py.format (.str name)) = _
  rw [py.format_str]

theorem deleteZone_eq {item : Data} {names : List String}
    (h : readList "schemes" schemeName item = some names) :
    deleteZone py service item = names.forM (deletePointer service) := by
  obtain ⟨elems, hget, hread⟩ := readList_eq_some h
  rw [deleteZone, hget]
  show elems.forM (deleteScheme py service) = _
  exact forM_of_mapM (fun _ _ hname => deleteScheme_eq py service hname) hread

/-- **The nested loops** of the step run over the listed names, in listing order. -/
theorem deleteZones_eq {data : Data} {names : List String} (h : listedNames data = some names) :
    ∃ zones, data.getItem "zones" = .ok (.list zones) ∧
      zones.forM (deleteZone py service) = names.forM (deletePointer service) := by
  obtain ⟨nameLists, hread, rfl⟩ := Option.map_eq_some_iff.1 h
  obtain ⟨zones, hget, hzones⟩ := readList_eq_some hread
  refine ⟨zones, hget, ?_⟩
  rw [← forM_flatten]
  exact forM_of_mapM (fun _ _ hitem => deleteZone_eq py service hitem) hzones

/-- The context's response lists the names. -/
def Listed (context : Context K P σ) (names : List String) : Prop :=
  ∃ response data, context.requestsResponse = some response ∧ response.json = some data ∧
    listedNames data = some names

/-- The step on a response with a listing. -/
theorem deleteAllZones_eq {context : Context K P σ} {names : List String}
    (hlisted : Listed context names) :
    deleteAllZonesInListedInRequestResponse py service context =
      names.forM (deletePointer service) context := by
  obtain ⟨response, data, hresponse, hjson, hnames⟩ := hlisted
  obtain ⟨zones, hget, hloop⟩ := deleteZones_eq py service hnames
  have hread : readJson response = .ok data := by rw [readJson, hjson]
  refine (bind_required hresponse).trans ?_
  rw [hread]
  show (MonadExcept.ofExcept (data.getItem "zones") >>= _ : StepM K P σ Unit) context = _
  rw [hget]
  show zones.forM (deleteZone py service) context = _
  rw [hloop]

end Listing

/-! ## Deletions -/

section Deletion

variable {ζ δ : Type} {carried : String → Prop} {server : Server} {keycloak : K}
  {service : Service K P σ} {store : σ → Store ζ String δ} {context : Context K P σ}

/-- The service deletes the carried pointers by name: DELETE of one that exists is answered with 204 and
    removes exactly that pointer, any other DELETE is answered with another status and changes nothing. -/
structure DeletesByName (carried : String → Prop) (server : Server) (keycloak : K)
    (service : Service K P σ) (store : σ → Store ζ String δ) : Prop where
  existing : ∀ s name, carried name → (store s).Has name → ∃ response s',
    service.answer keycloak (.plain (server.removePointer name)) s = (.ok response, s') ∧
      response.statusCode = 204 ∧ store s' = (store s).remove name
  missing : ∀ s name, carried name → ¬ (store s).Has name → ∃ response s',
    service.answer keycloak (.plain (server.removePointer name)) s = (.ok response, s') ∧
      response.statusCode ≠ 204 ∧ store s' = store s

/-- The world after one DELETE. -/
def removed (server : Server) (keycloak : K) (service : Service K P σ) (name : String) (s : σ) : σ :=
  (service.answer keycloak (.plain (server.removePointer name)) s).2

/-- The context after answered DELETEs. -/
def exchanged (server : Server) (keycloak : K) (service : Service K P σ) (names : List String)
    (context : Context K P σ) : Context K P σ :=
  { context with
    world := after (removed server keycloak service) context.world names
    sent := context.sent ++ names.map server.removePointer }

/-- A DELETE that is answered is asserted on. -/
theorem deletePointer_of_answer (hserver : context.dnsZoneManager = some (server, keycloak))
    {name : String} {response : HttpResponse} {s' : σ}
    (h : service.answer keycloak (.plain (server.removePointer name)) context.world =
      (.ok response, s')) :
    deletePointer service name context =
      if response.statusCode = 204 then .ok () (exchanged server keycloak service [name] context)
      else .error (.refused response.statusCode response.text)
        (exchanged server keycloak service [name] context) := by
  obtain ⟨_, hrequest, hsends⟩ := service.sends_of_answer _ _ h
  cases hrequest
  have hcontext : asked service keycloak (.plain (server.removePointer name)) context =
      exchanged server keycloak service [name] context := by
    rw [asked, hsends]
    rfl
  have hcall : call service keycloak (.plain (server.removePointer name)) context =
      .ok response (exchanged server keycloak service [name] context) := by
    rw [call_run, h, hcontext]
  refine (bind_required hserver).trans ((bind_run hcall).trans ?_)
  show (if response.statusCode = 204 then (pure () : StepM K P σ Unit) else throw _) _ = _
  by_cases hstatus : response.statusCode = 204
  · rw [if_pos hstatus, if_pos hstatus]
    rfl
  · rw [if_neg hstatus, if_neg hstatus]
    rfl

namespace DeletesByName

variable (h : DeletesByName carried server keycloak service store)
include h

/-- **One deletion** passes on a pointer that exists, and its DELETE is sent in any case. -/
theorem deletePointer_run (hserver : context.dnsZoneManager = some (server, keycloak)) {name : String}
    (hname : carried name) :
    (Completes (deletePointer service) context name ↔ (store context.world).Has name) ∧
      oneRound (deletePointer service) name context =
        exchanged server keycloak service [name] context := by
  by_cases hhas : (store context.world).Has name
  · obtain ⟨response, s', hanswer, hstatus, -⟩ := h.existing _ _ hname hhas
    have hrun := deletePointer_of_answer hserver hanswer
    rw [if_pos hstatus] at hrun
    exact ⟨iff_of_true (passes_outcome_iff.2 ⟨_, _, hrun⟩) hhas, left_of_run hrun⟩
  · obtain ⟨response, s', hanswer, hstatus, -⟩ := h.missing _ _ hname hhas
    have hrun := deletePointer_of_answer hserver hanswer
    rw [if_neg hstatus] at hrun
    constructor
    · rw [Completes, outcome, hrun]
      exact iff_of_false (not_passes_error _) hhas
    · rw [oneRound, left, hrun]

/-- The deletions are a removing machine over the service's store. -/
theorem removes : Store.Removes carried (removed server keycloak service) store := by
  intro s name hname hhas
  obtain ⟨response, s', hanswer, -, hstore⟩ := h.existing _ _ hname hhas
  rw [removed, hanswer]
  exact hstore

/-- The context follows the world, and every DELETE is sent, in order. -/
theorem after_eq {names : List String} (hnames : ∀ name ∈ names, carried name)
    (hserver : context.dnsZoneManager = some (server, keycloak)) :
    after (oneRound (deletePointer service)) context names =
      exchanged server keycloak service names context := by
  induction names generalizing context with
  | nil =>
    show context = { context with world := context.world, sent := context.sent ++ [] }
    rw [List.append_nil]
  | cons name names ih =>
    rw [List.forall_mem_cons] at hnames
    have hnext : (exchanged server keycloak service [name] context).dnsZoneManager =
      some (server, keycloak) := hserver
    show after _ (oneRound _ name context) names = _
    rw [(h.deletePointer_run hserver hnames.1).2, ih hnames.2 hnext]
    show ({ context with
      world := _
      sent := (context.sent ++ [server.removePointer name]) ++ _ } : Context K P σ) = _
    rw [List.append_assoc]
    rfl

/-- The loop gets on as long as the names exist. -/
theorem along_iff {names : List String} (hnames : ∀ name ∈ names, carried name)
    (hserver : context.dnsZoneManager = some (server, keycloak)) :
    Along (oneRound (deletePointer service)) (Completes (deletePointer service)) context names ↔
      (∀ name ∈ names, (store context.world).Has name) ∧ names.Nodup := by
  rw [← Store.along_has_iff h.removes context.world hnames]
  induction names generalizing context with
  | nil => exact Iff.rfl
  | cons name names ih =>
    rw [List.forall_mem_cons] at hnames
    obtain ⟨hcompletes, hround⟩ := h.deletePointer_run hserver hnames.1
    refine and_congr hcompletes ?_
    rw [hround]
    exact @ih (exchanged server keycloak service [name] context) hnames.2 hserver

/-- The loop returns exactly on names that exist, each once. -/
theorem passes_iff {names : List String} (hnames : ∀ name ∈ names, carried name)
    (hserver : context.dnsZoneManager = some (server, keycloak)) :
    Passes (outcome (names.forM (deletePointer service)) context) ↔
      (∀ name ∈ names, (store context.world).Has name) ∧ names.Nodup := by
  rw [Effect.forM_passes_iff]
  exact h.along_iff hnames hserver

/-- The store after names that exist, each once. -/
theorem store_eq {names : List String} (hnames : ∀ name ∈ names, carried name)
    (hok : (∀ name ∈ names, (store context.world).Has name) ∧ names.Nodup) :
    store (exchanged server keycloak service names context).world =
      (store context.world).without names :=
  Store.store_after h.removes hnames ((Store.along_has_iff h.removes context.world hnames).2 hok)

/-- A loop that returns has deleted the names, and asked for nothing else. -/
theorem left_eq {names : List String} (hnames : ∀ name ∈ names, carried name)
    (hserver : context.dnsZoneManager = some (server, keycloak))
    (hpass : Passes (outcome (names.forM (deletePointer service)) context)) :
    store (left (names.forM (deletePointer service)) context).world =
        (store context.world).without names ∧
      (left (names.forM (deletePointer service)) context).sent =
        context.sent ++ names.map server.removePointer := by
  rw [left_forM _ ((Effect.forM_passes_iff _ _ _).1 hpass), h.after_eq hnames hserver]
  exact ⟨h.store_eq hnames ((h.passes_iff hnames hserver).1 hpass), rfl⟩

end DeletesByName

end Deletion

/-! ## The tear-up -/

section TearUp

variable {ζ δ : Type} {carried : String → Prop} {server : Server} {keycloak : K}
  {service : Service K P σ} {store : σ → Store ζ String δ}

/-- `view-zone` is answered with 200 and the store's own content, each pointer once, and changes
    nothing. -/
structure ListsOwnContent (server : Server) (keycloak : K) (service : Service K P σ)
    (store : σ → Store ζ String δ) (s : σ) (names : List String) : Prop where
  listing : ∃ response data s',
    service.answer keycloak (.plain server.readZones) s = (.ok response, s') ∧
      response.statusCode = 200 ∧ response.json = some data ∧ listedNames data = some names ∧
      store s' = store s
  nodup : names.Nodup
  content : ∀ name, (store s).Has name ↔ name ∈ names

/-- What a deletion that stops at a name leaves: the names before it are deleted, it is the last one
    asked for. -/
structure StoppedAt (server : Server) (store : σ → Store ζ String δ) (names : List String)
    (before left : Context K P σ) (done : List String) (failing : String) : Prop where
  prefix_eq : ∃ rest, names = done ++ failing :: rest
  done_ok : (∀ name ∈ done, (store before.world).Has name) ∧ done.Nodup
  failing_not_ok : (store before.world).Has failing → failing ∈ done
  store_eq : store left.world = (store before.world).without done
  sent_eq : left.sent = before.sent ++ (done ++ [failing]).map server.removePointer

/-- A loop that raises has stopped at a name. -/
theorem deletes_stopped (h : DeletesByName carried server keycloak service store)
    {context : Context K P σ} (hserver : context.dnsZoneManager = some (server, keycloak))
    {names : List String} (hnames : ∀ name ∈ names, carried name)
    (hfail : ¬ Passes (outcome (names.forM (deletePointer service)) context)) :
    ∃ done failing, StoppedAt server store names context
      (left (names.forM (deletePointer service)) context) done failing := by
  obtain ⟨done, failing, rest, hparts, halong, hfailing, hrun⟩ := forM_raises _ hfail
  rw [hparts, List.forall_mem_append, List.forall_mem_cons] at hnames
  obtain ⟨hcarried, hname, -⟩ := hnames
  have hdone := (h.along_iff hcarried hserver).1 halong
  have hstore := @DeletesByName.store_eq _ _ _ _ _ _ _ _ _ _ context h _ hcarried hdone
  have hbetween : (exchanged server keycloak service done context).dnsZoneManager =
    some (server, keycloak) := hserver
  rw [h.after_eq hcarried hserver] at hfailing hrun
  obtain ⟨hcompletes, hround⟩ := h.deletePointer_run hbetween hname
  rw [hcompletes] at hfailing
  have hleft : left (names.forM (deletePointer service)) context =
      exchanged server keycloak service [failing]
        (exchanged server keycloak service done context) := by
    rw [left, hrun, ← hround]
    rfl
  rw [hleft]
  refine ⟨done, failing, ⟨rest, hparts⟩, hdone, ?_, ?_, ?_⟩
  · -- a name that the store had and the deletions so far took away is one of them
    intro hhas
    by_contra hfresh
    obtain ⟨z, hz⟩ := hhas
    refine hfailing ⟨z, ?_⟩
    rw [hstore]
    show (if failing ∈ done then none else store context.world z failing) ≠ none
    rw [if_neg hfresh]
    exact hz
  · obtain ⟨response, s', hanswer, -, hsame⟩ := h.missing _ _ hname hfailing
    rw [← hstore, ← hsame]
    show store (removed server keycloak service failing _) = _
    rw [removed, hanswer]
  · show (context.sent ++ done.map server.removePointer) ++ [server.removePointer failing] = _
    rw [List.map_append, List.append_assoc]
    rfl

/-- A sub-step that returns is followed by the others. -/
theorem executeSteps_cons {step : StepM K P σ Unit} {steps : List (String × StepM K P σ Unit)}
    {context context' : Context K P σ} (sentence : String) (h : step context = .ok () context') :
    executeSteps ((sentence, step) :: steps) context = executeSteps steps context' := by
  have hstep : (tryCatch step fun _ => throw (.subStep sentence) : StepM K P σ Unit) context =
      .ok () context' := by
    show EStateM.tryCatch step _ context = _
    rw [EStateM.tryCatch, h]
  exact bind_run hstep

theorem executeSteps_singleton {step : StepM K P σ Unit} {context context' : Context K P σ}
    (sentence : String) (h : step context = .ok () context') :
    executeSteps [(sentence, step)] context = .ok () context' := by
  rw [executeSteps_cons sentence h]
  rfl

/-- When the service lists its own content, the tear-up leaves nothing. -/
theorem removeAllPointers_empties (h : DeletesByName carried server keycloak service store)
    (py : Formatter) {check : HttpResponse → Except StepError Unit}
    (hcheck : ∀ response, response.statusCode = 200 → check response = .ok ())
    {context : Context K P σ} (hserver : context.dnsZoneManager = some (server, keycloak))
    {names : List String} (hnames : ∀ name ∈ names, carried name)
    (hown : ListsOwnContent server keycloak service store context.world names) :
    Passes (outcome (removeAllPointers py service check) context) ∧
    ∀ z name, store (left (removeAllPointers py service check) context).world z name = none := by
  obtain ⟨response, data, s', hanswer, hstatus, hjson, hlisted, hunchanged⟩ := hown.listing
  -- the context after "requests from ZM server all the zones"
  let read := answered service keycloak (.plain server.readZones) context response
  have hworld : read.world = s' := congrArg Prod.snd hanswer
  have hread : requestsZones service context = .ok () read := by
    refine (bind_required hserver).trans ?_
    show keepAnswer service keycloak (.plain server.readZones) context = _
    rw [keepAnswer_run, hanswer]
  have hget : getHttp check read = .ok () read := by
    have hkept : read.requestsResponse = some response := rfl
    refine (bind_required hkept).trans ?_
    rw [hcheck response hstatus]
    rfl
  have hok : (∀ name ∈ names, (store read.world).Has name) ∧ names.Nodup := by
    refine ⟨fun name hname => ?_, hown.nodup⟩
    rw [hworld, hunchanged]
    exact (hown.content name).2 hname
  have hbetween : read.dnsZoneManager = some (server, keycloak) := hserver
  have hpass := (h.passes_iff hnames hbetween).2 hok
  obtain ⟨u, hdelete⟩ := hpass
  have hrun : removeAllPointers py service check context =
      .ok () (left (names.forM (deletePointer service)) read) := by
    unfold removeAllPointers
    rw [executeSteps_cons _ hread, executeSteps_cons _ hget]
    apply executeSteps_singleton
    rw [deleteAllZones_eq py service ⟨response, data, rfl, hjson, hlisted⟩]
    exact run_of_ok hdelete
  refine ⟨passes_outcome_iff.2 ⟨_, _, hrun⟩, fun z name => ?_⟩
  rw [left_of_run hrun, (h.left_eq hnames hbetween ⟨u, hdelete⟩).1]
  apply Store.without_eq_none
  intro k hk
  rw [hworld, hunchanged] at hk
  exact (hown.content k).1 hk

/-- **The tear-up deletes exactly what was listed.**  On a response that lists names which the URLs
    carry, the step passes exactly when the store has them all and none is listed twice, and then they are
    what is gone; when it raises, it has deleted the names before the first one that fails and asked for
    nothing after it.  So "all zones deleted in ZM successfully .." empties a store that lists its own
    content. -/
theorem tearUp_deletes_listed (h : DeletesByName carried server keycloak service store)
    (py : Formatter) (check : HttpResponse → Except StepError Unit)
    (hcheck : ∀ response, response.statusCode = 200 → check response = .ok ())
    (context : Context K P σ) (hserver : context.dnsZoneManager = some (server, keycloak))
    (names : List String) (hnames : ∀ name ∈ names, carried name) :
    (Listed context names →
      let step := deleteAllZonesInListedInRequestResponse py service
      (Passes (outcome step context) ↔
        (∀ name ∈ names, (store context.world).Has name) ∧ names.Nodup) ∧
      (Passes (outcome step context) →
        store (left step context).world = (store context.world).without names ∧
        (left step context).sent = context.sent ++ names.map server.removePointer) ∧
      (Raises (outcome step context) →
        ∃ done failing, StoppedAt server store names context (left step context) done failing)) ∧
    (ListsOwnContent server keycloak service store context.world names →
      Passes (outcome (removeAllPointers py service check) context) ∧
      ∀ z name, store (left (removeAllPointers py service check) context).world z name = none) := by
  constructor
  · intro hlisted
    have hstep := deleteAllZones_eq py service hlisted
    simp only [outcome, left, hstep]
    refine ⟨h.passes_iff hnames hserver, fun hpass => h.left_eq hnames hserver hpass, fun hraise => ?_⟩
    exact deletes_stopped h hserver hnames ((raises_iff_not_passes _).1 hraise)
  · intro hown
    exact removeAllPointers_empties h py hcheck hserver hnames hown

end TearUp

/-! ## A service in memory -/

/-- The document of `view-zone` for zones given as the names of their schemes. -/
def viewZone (zones : List (List String)) : Data :=
  .dict [("zones", .list (zones.map fun names =>
    .dict [("schemes", .list (names.map fun name => .dict [("name", .str name)]))]))]

/-- The default host of the ZM. -/
def localServer : Server := ⟨.root "localhost:16001"⟩

/-- What a server behind HTTP sees of a URL. -/
def seenPath (url : String) : List (List UInt8) := (Uri.parse url.toList).path

/-- Where it keeps the schemes of a pointer, and its DID. -/
def schemesPath (name : String) : List (List UInt8) :=
  (pointerPath.fill fun _ => name).map fun s => Uri.utf8 s.toList

def trustListPath (name : String) : List (List UInt8) :=
  (didPath.fill fun _ => name).map fun s => Uri.utf8 s.toList

/-- An intact name is seen as it is. -/
theorem seenPath_pointerUrl {name : String} (h : Intact name) :
    seenPath (localServer.pointerUrl name) = schemesPath name := by
  have hfaithful : Faithful localServer.host (localServer.pointerUrl name) pointerPath fun _ => name := by
    rw [pointerUrl_eq_format, faithful_iff rfl rfl rooted_others.2.1]
    exact ⟨rfl, fun _ _ => h⟩
  exact congrArg Uri.Parsed.path hfaithful

theorem seenPath_didUrl {name : String} (h : Intact name) :
    seenPath (localServer.didUrl name) = trustListPath name := by
  have hfaithful : Faithful localServer.host (localServer.didUrl name) didPath fun _ => name := by
    rw [didUrl_eq_format, faithful_iff rfl rfl rooted_others.2.2]
    exact ⟨rfl, fun _ _ => h⟩
  exact congrArg Uri.Parsed.path hfaithful

theorem schemesPath_inj {a b : String} : schemesPath a = schemesPath b ↔ a = b := by
  constructor
  · intro h
    have hname : Uri.utf8 a.toList = Uri.utf8 b.toList := (List.cons.inj (List.cons.inj h).2).1
    exact String.toList_injective (Uri.utf8_injective hname)
  · rintro rfl
    rfl

/-- A Zone Manager whose state is the names of the schemes of each zone. -/
def memory : Service Unit Unit (List (List String)) where
  updateHeader _ _ zones := (.ok (), zones)
  exchange request zones :=
    match request.method with
    | .get => (.ok ⟨200, "", some (viewZone zones)⟩, zones)
    | .delete =>
      match zones.flatten.find? fun name => seenPath request.url = schemesPath name with
      | some name => (.ok ⟨204, "", none⟩, zones.map fun names => names.filter (· ≠ name))
      | none => (.ok ⟨404, "", none⟩, zones)
    | _ => (.ok ⟨405, "", none⟩, zones)

def memoryStore (zones : List (List String)) : Store Nat String Unit := fun z name =>
  if name ∈ zones.getD z [] then some () else none

theorem memoryStore_has_iff (zones : List (List String)) (name : String) :
    (memoryStore zones).Has name ↔ name ∈ zones.flatten := by
  have hentry : ∀ z, memoryStore zones z name ≠ none ↔ name ∈ zones.getD z [] := by
    intro z
    simp [memoryStore]
  rw [List.mem_flatten]
  constructor
  · rintro ⟨z, hz⟩
    have hmem := (hentry z).1 hz
    by_cases hlt : z < zones.length
    · rw [List.getD_eq_getElem _ _ hlt] at hmem
      exact ⟨_, List.getElem_mem hlt, hmem⟩
    · rw [List.getD_eq_default _ _ (Nat.le_of_not_lt hlt)] at hmem
      nomatch hmem
  · rintro ⟨names, hnames, hmem⟩
    obtain ⟨z, hlt, rfl⟩ := List.getElem_of_mem hnames
    refine ⟨z, (hentry z).2 ?_⟩
    rw [List.getD_eq_getElem _ _ hlt]
    exact hmem

/-- A name finds itself. -/
theorem find_schemesPath (names : List String) (name : String) :
    (names.find? fun other => schemesPath name = schemesPath other) =
      if name ∈ names then some name else none := by
  induction names with
  | nil => rfl
  | cons other names ih =>
    rw [List.find?_cons, ih]
    by_cases heq : name = other
    · simp [heq]
    · simp [heq, schemesPath_inj]

theorem memory_removePointer (zones : List (List String)) {name : String} (h : Intact name) :
    memory.answer () (.plain (localServer.removePointer name)) zones =
      if name ∈ zones.flatten then
        (.ok ⟨204, "", none⟩, zones.map fun names => names.filter (· ≠ name))
      else (.ok ⟨404, "", none⟩, zones) := by
  show (match zones.flatten.find? fun other =>
      seenPath (localServer.pointerUrl name) = schemesPath other with
    | some name => _
    | none => _) = _
  rw [seenPath_pointerUrl h, find_schemesPath]
  by_cases hmem : name ∈ zones.flatten
  · rw [if_pos hmem, if_pos hmem]
  · rw [if_neg hmem, if_neg hmem]

theorem memory_deletesByName : DeletesByName Intact localServer () memory memoryStore where
  existing := by
    intro zones name hname hhas
    have hmem := (memoryStore_has_iff zones name).1 hhas
    refine ⟨_, _, (memory_removePointer zones hname).trans (if_pos hmem), rfl, ?_⟩
    funext z other
    show (if other ∈ (zones.map fun names => names.filter (· ≠ name)).getD z [] then some ()
      else none) = if other = name then none else memoryStore zones z other
    have hzone : (zones.map fun names => names.filter (· ≠ name)).getD z [] =
        (zones.getD z []).filter (· ≠ name) :=
      List.getD_map _ [] fun names : List String => names.filter (· ≠ name)
    rw [hzone]
    by_cases heq : other = name
    · simp [heq]
    · simp [heq, memoryStore]
  missing := by
    intro zones name hname hmissing
    have hmem : name ∉ zones.flatten := fun hmem => hmissing ((memoryStore_has_iff zones name).2 hmem)
    refine ⟨_, _, (memory_removePointer zones hname).trans (if_neg hmem), ?_, rfl⟩
    show (404 : Nat) ≠ 204
    decide

/-- A formatter that prints nothing but strings and leaves. -/
def plainFormatter : Formatter where
  format
    | .str s => s
    | .leaf print => print
    | _ => ""
  format_str _ := rfl

/-- "get http 200:Success code". -/
def checkSuccess (response : HttpResponse) : Except StepError Unit :=
  if response.statusCode = 200 then .ok () else .error (.refused response.statusCode response.text)

/-- A scenario with the Zone Manager of a local set-up. -/
def localContext (zones : List (List String)) (response : Option HttpResponse) :
    Context Unit Unit (List (List String)) where
  world := zones
  dnsZoneManager := some (localServer, ())
  requestsResponse := response

/-- The Zone Manager in memory: a listing that repeats a name makes the step raise, a tear-up of two
    zones leaves no scheme. -/
theorem tearUp_deletes_listed_memory :
    Raises (outcome (deleteAllZonesInListedInRequestResponse plainFormatter memory)
      (localContext [["1-europe", "2-germany"]]
        (some ⟨200, "", some (viewZone [["1-europe"], ["1-europe"]])⟩))) ∧
    ∀ z name, memoryStore (left (removeAllPointers plainFormatter memory checkSuccess)
      (localContext [["1-europe", "2-germany"], ["1-america"]] none)).world z name = none := by
  have hclaim := tearUp_deletes_listed memory_deletesByName plainFormatter checkSuccess
    fun _ hstatus => if_pos hstatus
  constructor
  · have hrepeated := (hclaim (localContext [["1-europe", "2-germany"]]
      (some ⟨200, "", some (viewZone [["1-europe"], ["1-europe"]])⟩)) rfl
      ["1-europe", "1-europe"] (by decide)).1 ⟨_, _, rfl, rfl, rfl⟩
    rw [raises_iff_not_passes, hrepeated.1]
    rintro ⟨-, hnodup⟩
    revert hnodup
    decide
  · refine ((hclaim (localContext [["1-europe", "2-germany"], ["1-america"]] none) rfl
      ["1-europe", "2-germany", "1-america"] (by decide)).2 ?_).2
    exact ⟨⟨_, _, _, rfl, rfl, rfl, rfl, rfl⟩, by decide, fun name => memoryStore_has_iff _ name⟩

end ZoneManager

end TrainBdd
