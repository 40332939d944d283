/-
  Scenarios of `steps/dns_zone_manager_server.py` and the zone behind them.

  1. **One step** — what a step makes of the zone is what a reader of its sentence notes (`note_run`).
  2. **Scenarios** — the notes follow the service through every scenario, so the two existence checks
     decide what the sentences before them made of the zone (`checks_decide_known_zone`), if the Zone
     Manager was set up and their requests are answered.
  3. **A registry** — a service that keeps the schemes of every path is truthful.
-/
import TrainBdd.ZoneManagerChecks

namespace TrainBdd.ZoneManager

open Python Run Effect

variable {K P σ : Type}

/-! ## Knowledge follows the service -/

section Truth

variable {py : Formatter} {sets : SetBuilder TrustFrameworkPointer}
  {check : HttpResponse → Except StepError Unit} {host : HttpUrl} {service : Service K P σ}
  {zone : σ → Zone} {aliases : Aliases} {context context' : Context K P σ}

/-- Deletions keep the answer and the Zone Manager. -/
theorem forM_kept {names : List String}
    (hrun : names.forM (deletePointer service) context = .ok () context') :
    context'.requestsResponse = context.requestsResponse ∧
      context'.dnsZoneManager = context.dnsZoneManager := by
  induction names generalizing context with
  | nil =>
    cases hrun
    exact ⟨rfl, rfl⟩
  | cons name names ih =>
    obtain ⟨_, between, hname, hrest⟩ := bind_eq_ok_iff.1 hrun
    obtain ⟨server, keycloak, response, s', -, -, -, rfl⟩ := deletePointer_run hname
    have hkept := ih hrest
    exact hkept

/-- Accepted deletions, one after another. -/
theorem deletePointers_run (h : Truthful ⟨host⟩ service zone) (hosted : Hosted host context)
    {names : List String} (hnames : ∀ name ∈ names, Intact name)
    (hrun : names.forM (deletePointer service) context = .ok () context') :
    zone context'.world = (zone context.world).without names ∧
      context'.dnsZoneManager = context.dnsZoneManager := by
  refine ⟨?_, (forM_kept hrun).2⟩
  induction names generalizing context with
  | nil =>
    cases hrun
    exact (Zone.without_nil _).symm
  | cons name names ih =>
    rw [List.forall_mem_cons] at hnames
    obtain ⟨_, between, hname, hrest⟩ := bind_eq_ok_iff.1 hrun
    obtain ⟨server, keycloak, response, s', hserver, hanswer, hstatus, rfl⟩ := deletePointer_run hname
    obtain rfl := hosted server keycloak hserver
    have hnext : Hosted host
      (asked service keycloak (.plain (Server.removePointer ⟨host⟩ name)) context) := hosted
    have hdone : accepted response = true := by
      rw [accepted, hstatus]
      rfl
    have hremove := h.remove _ _ _ _ _ hnames.1 hanswer
    rw [if_pos hdone] at hremove
    rw [ih hnext hnames.2 hrest, asked, hanswer, Zone.without_cons, ← hremove]

/-- **One step**: the note of a step that returned is what the service then holds, and the Zone Manager is
    the one before it unless the step has set it up. -/
theorem note_run (h : Truthful ⟨host⟩ service zone) (hosted : Hosted host context)
    {step : Aliases × Step} (hrun : runStep py sets check host service step context = .ok () context')
    (hnames : ∀ name ∈ Step.names py step context'.requestsResponse, Intact name) :
    Step.note py step context'.requestsResponse (zone context.world) = zone context'.world ∧
      ((∃ keycloak, step.2 = .checkDnsZmServerUp ∧ context'.dnsZoneManager = some (⟨host⟩, keycloak)) ∨
        step.2 ≠ .checkDnsZmServerUp ∧ context'.dnsZoneManager = context.dnsZoneManager) := by
  obtain ⟨aliases, step⟩ := step
  have hmapped : ∀ {pointer name : String},
      Step.names py (aliases, step) context'.requestsResponse = (aliases pointer).toList →
        aliasOf aliases pointer = .ok name → Intact name := by
    intro pointer name hlist halias
    apply hnames
    rw [hlist, aliasOf_eq_ok_iff.1 halias]
    exact List.mem_singleton.2 rfl
  have hasked : ∀ {request : Server → String → HttpRequest P} {name : Except StepError String},
      (∀ server pointer, name = .ok pointer → Neutral server (request server pointer)) →
      askAbout service name request context = .ok () context' →
        zone context.world = zone context'.world ∧
          context'.dnsZoneManager = context.dnsZoneManager := by
    intro request name hneutral hask
    obtain ⟨server, keycloak, pointer, response, s', hserver, hname, hanswer, rfl⟩ := askAbout_run hask
    obtain rfl := hosted server keycloak hserver
    refine ⟨?_, rfl⟩
    rw [answered, asked, hanswer]
    exact (h.neutral _ _ _ _ _ (hneutral _ _ hname) hanswer).symm
  cases step with
  | checkDnsZmServerUp =>
    obtain ⟨keycloak, response, s', -, hanswer, rfl⟩ := checkDnsZmServerUp_run hrun
    exact ⟨(h.status _ _ _ hanswer).symm, Or.inl ⟨keycloak, rfl, rfl⟩⟩
  | creatingPointers includePointers pointer =>
    replace hrun : creatingPointers sets service aliases includePointers pointer context =
      .ok () context' := hrun
    obtain ⟨server, keycloak, name, response, s', hserver, halias, hanswer, rfl⟩ :=
      creatingPointers_run hrun
    obtain rfl := hosted server keycloak hserver
    have hname : Intact name := hmapped rfl (aliasOf_eq_ok_iff.2 halias)
    have hcreate := h.create _ _ _ _ _ _ hname hanswer
    have hschemes : (sets.set (includePointers.filterMap aliases)).elems.toFinset =
        (includePointers.filterMap aliases).toFinset := by
      ext pointer
      rw [List.mem_toFinset, List.mem_toFinset]
      exact sets.mem_set _ _
    rw [hschemes] at hcreate
    refine ⟨?_, Or.inr ⟨by rintro ⟨⟩, rfl⟩⟩
    rw [answered, asked, hanswer, hcreate]
    simp only [Step.note, halias]
  | requestsZones =>
    obtain ⟨server, keycloak, response, s', hserver, hanswer, rfl⟩ := requestsZones_run hrun
    obtain rfl := hosted server keycloak hserver
    refine ⟨?_, Or.inr ⟨by rintro ⟨⟩, rfl⟩⟩
    rw [answered, asked, hanswer]
    exact (h.neutral _ _ _ _ _ .readZones hanswer).symm
  | removePointerFromZmServer pointer =>
    replace hrun : askAbout service (aliasOf aliases pointer) Server.removePointer context =
      .ok () context' := hrun
    obtain ⟨server, keycloak, name, response, s', hserver, halias, hanswer, rfl⟩ := askAbout_run hrun
    obtain rfl := hosted server keycloak hserver
    have hname : Intact name := hmapped rfl halias
    rw [aliasOf_eq_ok_iff] at halias
    refine ⟨?_, Or.inr ⟨by rintro ⟨⟩, rfl⟩⟩
    rw [answered, asked, hanswer, h.remove _ _ _ _ _ hname hanswer]
    simp only [Step.note, halias]
  | deleteAllZonesInListedInRequestResponse =>
    -- the names are read before the loop, from the answer that is kept through it
    have hdelete := deleteZones_run hrun
    have hkept := (forM_kept hdelete).1
    rw [← hkept] at hdelete
    obtain ⟨hzone, hstays⟩ := deletePointers_run h hosted hnames hdelete
    exact ⟨hzone.symm, Or.inr ⟨by rintro ⟨⟩, hstays⟩⟩
  | removeAllPointers =>
    obtain ⟨between, hrequest, hdelete⟩ := removeAllPointers_run hrun
    obtain ⟨server, keycloak, response, s', hserver, hanswer, rfl⟩ := requestsZones_run hrequest
    obtain rfl := hosted server keycloak hserver
    have hkept := (forM_kept hdelete).1
    rw [← hkept] at hdelete
    have hbetween : Hosted host (answered service keycloak (.plain (Server.readZones ⟨host⟩)) context
      response) := hosted
    obtain ⟨hzone, hstays⟩ := deletePointers_run h hbetween hnames hdelete
    refine ⟨?_, Or.inr ⟨by rintro ⟨⟩, hstays⟩⟩
    rw [hzone, answered, asked, hanswer]
    exact congrArg (Zone.without · _) (h.neutral _ _ _ _ _ .readZones hanswer).symm
  | checkPointerExists pointers =>
    have hsame := (checkPointerExists_iff h hosted hnames).2 _ hrun
    exact ⟨hsame.zone_eq.symm, Or.inr ⟨by rintro ⟨⟩, hsame.dnsZoneManager_eq⟩⟩
  | checkPointerNotExists pointers =>
    have hsame := (checkPointerNotExists_iff h hosted hnames).2 _ hrun
    exact ⟨hsame.zone_eq.symm, Or.inr ⟨by rintro ⟨⟩, hsame.dnsZoneManager_eq⟩⟩
  | removeDidPointerFromZmServer pointer =>
    obtain ⟨hzone, hstays⟩ := hasked (fun _ name halias =>
      .removeDidFromPointer name (hmapped rfl halias)) hrun
    exact ⟨hzone, Or.inr ⟨by rintro ⟨⟩, hstays⟩⟩
  | requestsPointer aliasName =>
    obtain ⟨hzone, hstays⟩ := hasked (fun _ name halias =>
      .readPointer name (hmapped rfl halias)) hrun
    exact ⟨hzone, Or.inr ⟨by rintro ⟨⟩, hstays⟩⟩
  | createDidForPointer did pointer =>
    have hintact : ∀ name, (if '.' ∈ pointer.toList then .ok pointer else aliasOf aliases pointer) =
        Except.ok name → Intact name := by
      intro name hname
      apply hnames
      by_cases hdot : '.' ∈ pointer.toList
      · rw [if_pos hdot] at hname
        cases hname
        simp [Step.names, hdot]
      · rw [if_neg hdot, aliasOf_eq_ok_iff] at hname
        simp [Step.names, hdot, hname]
    obtain ⟨hzone, hstays⟩ := hasked (fun _ name hname =>
      .createDidForPointer did name (hintact name hname)) hrun
    exact ⟨hzone, Or.inr ⟨by rintro ⟨⟩, hstays⟩⟩
  | readPointersDid pointer =>
    obtain ⟨hzone, hstays⟩ := hasked (fun _ name halias =>
      .readDidForPointer name (hmapped rfl halias)) hrun
    exact ⟨hzone, Or.inr ⟨by rintro ⟨⟩, hstays⟩⟩

/-- A step that returns and puts names into URLs that carry them, in a context with its own server. -/
theorem note_step (h : Truthful ⟨host⟩ service zone) {step : Aliases × Step}
    (hosted : Hosted host context)
    (hstep : Completes (runStep py sets check host service) context step ∧
      CarriesNames py sets check host service context step) :
    let next := oneRound (runStep py sets check host service) step context
    Step.note py step next.requestsResponse (zone context.world) = zone next.world ∧
      Hosted host next ∧
      (next.dnsZoneManager.isSome ↔
        context.dnsZoneManager.isSome ∨ .checkDnsZmServerUp = step.2) := by
  intro next
  obtain ⟨hcompletes, hnames⟩ := hstep
  obtain ⟨_, context', hrun⟩ := passes_outcome_iff.1 hcompletes
  have hnext : next = context' := left_of_run hrun
  have hcarried : ∀ name ∈ Step.names py step next.requestsResponse, Intact name := hnames
  rw [hnext] at hcarried ⊢
  obtain ⟨hnote, hserver⟩ := note_run h hosted hrun hcarried
  refine ⟨hnote, ?_, ?_⟩
  · intro server keycloak hsome
    rcases hserver with ⟨keycloak', -, hset⟩ | ⟨-, hstays⟩
    · rw [hset] at hsome
      cases hsome
      rfl
    · rw [hstays] at hsome
      exact hosted server keycloak hsome
  · rcases hserver with ⟨keycloak', hfirst, hset⟩ | ⟨hfirst, hstays⟩
    · simp [hfirst, hset]
    · simp [hstays, Ne.symm hfirst]

/-- **The reader's knowledge is the service's zone** after every scenario that passes, and the Zone Manager
    has been set up just when it was before or a step has done so. -/
theorem known_eq_zone (h : Truthful ⟨host⟩ service zone) (hosted : Hosted host context)
    {steps : List (Aliases × Step)}
    (hrun : scenario py sets check host service steps context = .ok () context')
    (hcarries : Along (oneRound (runStep py sets check host service))
      (CarriesNames py sets check host service) context steps) :
    known py sets check host service context (zone context.world) steps = zone context'.world ∧
      Hosted host context' ∧
      (context'.dnsZoneManager.isSome ↔
        context.dnsZoneManager.isSome ∨ .checkDnsZmServerUp ∈ steps.map Prod.snd) := by
  have hcompletes := (Effect.forM_passes_iff _ _ _).1 (passes_outcome_iff.2 ⟨_, _, hrun⟩)
  have hleft : context' = after (oneRound (runStep py sets check host service)) context steps := by
    rw [← left_forM _ hcompletes]
    exact (left_of_run hrun).symm
  have hstep := hcompletes.and hcarries
  have hkeeps : ∀ context step, Hosted host context →
      Completes (runStep py sets check host service) context step ∧
        CarriesNames py sets check host service context step →
      Hosted host (oneRound (runStep py sets check host service) step context) :=
    fun _ _ hosted hstep => (note_step h hosted hstep).2.1
  have halong := Along.with_invariant hkeeps hosted hstep
  rw [hleft]
  refine ⟨?_, invariant_after hkeeps hosted hstep, ?_⟩
  · refine @noted_eq _ _ _ _ _ _ _ _ (fun context : Context K P σ => zone context.world)
      (fun _ _ hok => ?_) _ _ halong
    exact (note_step h hok.1 hok.2).1
  · clear hrun hcarries hcompletes hleft hstep
    induction steps generalizing context with
    | nil => exact (or_iff_left List.not_mem_nil).symm
    | cons step steps ih =>
      obtain ⟨⟨hosted, hfirst⟩, hrest⟩ := halong
      have hnext := note_step h hosted hfirst
      rw [List.map_cons, List.mem_cons, ← or_assoc, ← hnext.2.2]
      exact ih hnext.2.1 hrest

end Truth

/-! ## A registry -/

def readScheme : Json.Value → Option String
  | .str scheme => some scheme
  | _ => none

/-- A Zone Manager that keeps the schemes it was sent under the path they were sent to. -/
def registry : Service Unit Unit (List (List (List UInt8) × List String)) where
  updateHeader _ _ s := (.ok (), s)
  exchange request s :=
    let path := seenPath request.url
    match request.method, request.body with
    | .put, .dict (.obj [(_, .arr schemes)]) =>
      (.ok ⟨200, "", none⟩, (path, schemes.filterMap readScheme) :: s.filter (·.1 ≠ path))
    | .put, _ => (.ok ⟨200, "", none⟩, s)
    | .delete, _ =>
      if (s.lookup path).isSome then (.ok ⟨204, "", none⟩, s.filter (·.1 ≠ path))
      else (.ok ⟨404, "", none⟩, s)
    | .get, _ =>
      (.ok ⟨200, "", some (.dict [("status", .str "OK"),
        ("schemes", .list (((s.lookup path).getD []).map .str))])⟩, s)
    | .patch, _ => (.ok ⟨405, "", none⟩, s)

def registryZone (s : List (List (List UInt8) × List String)) : Zone :=
  fun pointer => ((s.lookup (schemesPath pointer)).getD []).toFinset

theorem lookup_filter_ne (s : List (List (List UInt8) × List String)) (path other : List (List UInt8)) :
    (s.filter (·.1 ≠ path)).lookup other = if other = path then none else s.lookup other := by
  induction s with
  | nil => simp
  | cons entry s ih =>
    obtain ⟨key, schemes⟩ := entry
    by_cases hkey : key = path
    · rw [List.filter_cons_of_neg (by simpa using hkey), ih, List.lookup_cons]
      by_cases hother : other = path
      · rw [if_pos hother, if_pos hother]
      · have hne : (other == key) = false := by simpa [hkey] using hother
        rw [if_neg hother, if_neg hother, hne]
    · rw [List.filter_cons_of_pos (by simpa using hkey), List.lookup_cons, List.lookup_cons, ih]
      cases hother : other == key with
      | false => rfl
      | true =>
        have hne : other ≠ path := by
          rw [beq_iff_eq.1 hother]
          exact hkey
        exact (if_neg hne).symm

theorem schemesPath_ne_trustListPath (pointer other : String) :
    schemesPath pointer ≠ trustListPath other := by
  intro h
  have hlast : Uri.utf8 "schemes".toList = Uri.utf8 "trust-list".toList :=
    (List.cons.inj (List.cons.inj (List.cons.inj h).2).2).1
  exact absurd (String.toList_injective (Uri.utf8_injective hlast)) (by decide)

/-- What the registry holds under a pointer, when another path is written. -/
theorem registryZone_put (s : List (List (List UInt8) × List String)) (pointer : String)
    (schemes : List String) :
    registryZone ((schemesPath pointer, schemes) :: s.filter (·.1 ≠ schemesPath pointer)) =
      (registryZone s).put pointer schemes.toFinset := by
  funext other
  by_cases hother : other = pointer
  · subst hother
    rw [Zone.put, Function.update_self, registryZone, List.lookup_cons_self]
    rfl
  · have hne : schemesPath other ≠ schemesPath pointer := fun h => hother (schemesPath_inj.1 h)
    rw [Zone.put, Function.update_of_ne hother, registryZone, List.lookup_cons,
      beq_eq_false_iff_ne.2 hne]
    simp only [lookup_filter_ne, if_neg hne]
    rfl

/-- And when one is taken out. -/
theorem registryZone_remove (s : List (List (List UInt8) × List String)) (path : List (List UInt8))
    (other : TrustFrameworkPointer) : registryZone (s.filter (·.1 ≠ path)) other =
      if schemesPath other = path then ∅ else registryZone s other := by
  rw [registryZone, lookup_filter_ne]
  split
  · rfl
  · rfl

theorem registry_truthful : Truthful localServer registry registryZone := by
  constructor
  · intro _ s pointer included response s' hpointer hanswer
    have hput : registry.answer () (.plain (localServer.createPointer pointer included)) s =
        (.ok ⟨200, "", none⟩, (schemesPath pointer, included.elems) ::
          s.filter (·.1 ≠ schemesPath pointer)) := by
      have hschemes : (included.elems.map Json.Value.str).filterMap readScheme = included.elems := by
        rw [List.filterMap_map]
        exact List.filterMap_some
      show (_, (seenPath (localServer.pointerUrl pointer),
        (included.elems.map Json.Value.str).filterMap readScheme) :: _) = _
      rw [hschemes, ← seenPath_pointerUrl hpointer]
      rfl
    rw [hput] at hanswer
    cases hanswer
    exact registryZone_put s pointer included.elems
  · intro _ s pointer response s' hpointer hanswer
    have hdelete : registry.answer () (.plain (localServer.removePointer pointer)) s =
        if (s.lookup (schemesPath pointer)).isSome then
          (.ok ⟨204, "", none⟩, s.filter (·.1 ≠ schemesPath pointer))
        else (.ok ⟨404, "", none⟩, s) := by
      rw [← seenPath_pointerUrl hpointer]
      rfl
    rw [hdelete] at hanswer
    split at hanswer
    · cases hanswer
      refine funext fun other => ?_
      show _ = Function.update (registryZone s) pointer ∅ other
      rw [registryZone_remove, Function.update_apply]
      exact if_congr schemesPath_inj rfl rfl
    · cases hanswer
      rfl
  · intro _ s request response s' hneutral hanswer
    cases hneutral with
    | removeDidFromPointer pointer hpointer =>
      have hdelete : registry.answer () (.plain (localServer.removeDidFromPointer pointer)) s =
          if (s.lookup (trustListPath pointer)).isSome then
            (.ok ⟨204, "", none⟩, s.filter (·.1 ≠ trustListPath pointer))
          else (.ok ⟨404, "", none⟩, s) := by
        rw [← seenPath_didUrl hpointer]
        rfl
      rw [hdelete] at hanswer
      split at hanswer
      · cases hanswer
        funext other
        rw [registryZone_remove, if_neg (schemesPath_ne_trustListPath other pointer)]
      · cases hanswer
        rfl
    | _ =>
      cases hanswer
      rfl
  · intro s response s' hanswer
    cases hanswer
    rfl
  · intro _ s pointer response s' hpointer hanswer
    have hget : registry.answer () (.plain (localServer.readPointer pointer)) s =
        (.ok ⟨200, "", some (.dict [("status", .str "OK"),
          ("schemes", .list (((s.lookup (schemesPath pointer)).getD []).map .str))])⟩, s) := by
      rw [← seenPath_pointerUrl hpointer]
      rfl
    rw [hget] at hanswer
    cases hanswer
    refine ⟨rfl, _, _, rfl, rfl, ?_⟩
    rw [List.map_eq_nil_iff, registryZone, List.toFinset_eq_empty_iff]

/-- An alias of a pointer is its first label. -/
def labels : Aliases := fun name => some (name ++ ".train1.xfsc.dev")

/-- Two continents are created. -/
def continents : List (Aliases × Step) := [
  (labels, .checkDnsZmServerUp),
  (labels, .creatingPointers ["1-europe", "2-germany"] "1-europe"),
  (labels, .creatingPointers ["1-america"] "1-america")]

/-- A scenario with a Keycloak, and nothing else. -/
def freshContext : Context Unit Unit (List (List (List UInt8) × List String)) where
  world := []
  keycloak := some ()

end TrainBdd.ZoneManager
