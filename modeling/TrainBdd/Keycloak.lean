/-
  `steps/keycloak.py` — the five steps that pass Keycloak tokens between scenarios.

  1. **Steps** — two steps configure the context's Keycloak, one fetches its token, one SAVES the token
     to a file and one places the token of the file into the context's Keycloak.  There is one file for
     both Keycloaks; it outlives scenarios and whole runs.  A step that fails keeps what it has already
     changed: "is not up" leaves the new Keycloak in place.

  2. **World** — the answers of the unseen core package, one `World` a step: whether it accepts a
     configuration, whether the server is up, what it issues.  The one law it brings along: a fetched
     token was issued by the Keycloak it was fetched from.

  3. **Provenance** — in a run the placed tokens were issued by the Keycloak they are placed into exactly
     when each "saved Keycloak token" follows a save by the SAME Keycloak, in the sense of URL, realm
     and client (`savedToken_issued_by_current`).  Nothing else ties the two together:
     `savedToken_issued_by_other` is a run with two different ones.
-/
import TrainBdd.Lib.Run

namespace TrainBdd.Keycloak

open Run

/-! ## Configuration -/

/-- The environment variables of one Keycloak. -/
structure Config where
  url : String
  clientSecret : String
  clientId : String
  realm : String
  scope : String
deriving DecidableEq, Repr

/-- `env.ZM_KEYCLOAK_*` and `env.TSPA_KEYCLOAK_*`. -/
structure Env where
  zm : Config
  tspa : Config

/-- What tells Keycloaks apart as issuers. -/
structure KeycloakId where
  url : String
  realm : String
  clientId : String
deriving DecidableEq, Repr

def Config.id (self : Config) : KeycloakId := ⟨self.url, self.realm, self.clientId⟩

variable {Token : Type}

/-- The context's Keycloak object. -/
structure KeycloakServer (Token : Type) extends Config where
  lastToken : Option Token
deriving DecidableEq

/-- The context: the Keycloak, once a step has set it, and what the token file holds — nothing, or
    the token that was dumped last, which may be `None`. -/
structure ContextType (Token : Type) where
  keycloak : Option (KeycloakServer Token)
  fileToken : Option (Option Token)
deriving DecidableEq

inductive Failure
  | assertion (text : String)
  | attribute (name : String)
  | validation
  | fetch (text : String)
  | noFile
deriving DecidableEq, Repr

/-- The answers of the core package during one step. -/
structure World (issuer : Token → KeycloakId) where
  accepts : Config → Bool
  isUp : KeycloakServer Token → Bool
  fetchToken : KeycloakServer Token → Except Failure Token
  issued : ∀ {keycloak token}, fetchToken keycloak = .ok token → issuer token = keycloak.id

/-! ## The program: the five steps -/

section Steps

variable {issuer : Token → KeycloakId}

/-- The common body of the two "Keycloak is up" steps. -/
def checkKeycloakUp (config : Config) (world : World issuer) (context : ContextType Token) :
    ContextType Token × Except Failure Unit :=
  if world.accepts config then
    let keycloak : KeycloakServer Token := ⟨config, none⟩
    -- assigned before it is asked
    (⟨some keycloak, context.fileToken⟩,
      if world.isUp keycloak then .ok () else .error (.assertion "is not up"))
  else
    (context, .error .validation)

/-- Step "ZM Keycloak is up". -/
def checkZmKeycloakUp (env : Env) (world : World issuer) (context : ContextType Token) :
    ContextType Token × Except Failure Unit :=
  checkKeycloakUp env.zm world context

/-- Step "TSPA Keycloak is up". -/
def checkTspaKeycloakUp (env : Env) (world : World issuer) (context : ContextType Token) :
    ContextType Token × Except Failure Unit :=
  checkKeycloakUp env.tspa world context

/-- Step "fetch Keycloak token". -/
def fetchKeycloakToken (world : World issuer) (context : ContextType Token) :
    ContextType Token × Except Failure Unit :=
  match context.keycloak with
  | none => (context, .error (.attribute "keycloak"))
  | some keycloak =>
    match world.fetchToken keycloak with
    | .error e => (context, .error e)
    | .ok token =>
      (⟨some { keycloak with lastToken := some token }, context.fileToken⟩, .ok ())

/-- Step "save Keycloak token". -/
def save (context : ContextType Token) : ContextType Token × Except Failure Unit :=
  match context.keycloak with
  | none => (context, .error (.attribute "keycloak"))
  | some keycloak => (⟨some keycloak, some keycloak.lastToken⟩, .ok ())

/-- Step "saved Keycloak token". -/
def load (context : ContextType Token) : ContextType Token × Except Failure Unit :=
  -- the right-hand side comes first: a missing file is reported before a missing Keycloak
  match context.fileToken with
  | none => (context, .error .noFile)
  | some token =>
    match context.keycloak with
    | none => (context, .error (.attribute "keycloak"))
    | some keycloak => (⟨some { keycloak with lastToken := token }, some token⟩, .ok ())

inductive StepName
  | zmKeycloakIsUp
  | tspaKeycloakIsUp
  | fetchKeycloakToken
  | saveKeycloakToken
  | savedKeycloakToken
deriving DecidableEq, Repr

/-- One step of a run, by its sentence. -/
def perform (env : Env) (name : StepName) (world : World issuer) (context : ContextType Token) :
    ContextType Token × Except Failure Unit :=
  match name with
  | .zmKeycloakIsUp => checkZmKeycloakUp env world context
  | .tspaKeycloakIsUp => checkTspaKeycloakUp env world context
  | .fetchKeycloakToken => Keycloak.fetchKeycloakToken world context
  | .saveKeycloakToken => save context
  | .savedKeycloakToken => load context

end Steps

/-! ## Who saved last -/

/-- The context together with the Keycloak that was current when the file was written last. -/
structure Tracked (Token : Type) where
  context : ContextType Token
  savedBy : Option KeycloakId

variable {issuer : Token → KeycloakId}

/-- The context before the first step: no Keycloak, and what earlier runs left in the file. -/
def start (issuer : Token → KeycloakId) (fileToken : Option (Option Token)) : Tracked Token :=
  ⟨⟨none, fileToken⟩, fileToken.join.map issuer⟩

/-- One step, with the saver kept up to date. -/
def trackedStep (env : Env) (step : StepName × World issuer) (s : Tracked Token) : Tracked Token where
  context := (perform env step.1 step.2 s.context).1
  savedBy :=
    if step.1 = .saveKeycloakToken ∧ s.context.keycloak.isSome then
      s.context.keycloak.map (·.id)
    else
      s.savedBy

/-- Where "saved Keycloak token" finds a token, the current Keycloak is the one that saved last. -/
def SameKeycloak (s : Tracked Token) (step : StepName × World issuer) : Prop :=
  step.1 = .savedKeycloakToken → ∀ keycloak, s.context.keycloak = some keycloak →
    ∀ token, s.context.fileToken = some (some token) → s.savedBy = some keycloak.id

/-- A completed "saved Keycloak token" has placed a token of the current Keycloak, if any. -/
def PlacesOwnToken (env : Env) (s : Tracked Token) (step : StepName × World issuer) : Prop :=
  step.1 = .savedKeycloakToken → (perform env step.1 step.2 s.context).2 = .ok () →
    ∀ keycloak, (perform env step.1 step.2 s.context).1.keycloak = some keycloak →
      ∀ token, keycloak.lastToken = some token → issuer token = keycloak.id

/-! ## Provenance -/

/-- The current token was issued by the current Keycloak, the stored one by the saver. -/
structure Inv (issuer : Token → KeycloakId) (s : Tracked Token) : Prop where
  current : ∀ keycloak, s.context.keycloak = some keycloak →
    ∀ token, keycloak.lastToken = some token → issuer token = keycloak.id
  stored : ∀ token, s.context.fileToken = some (some token) → s.savedBy = some (issuer token)

theorem inv_start (fileToken : Option (Option Token)) : Inv issuer (start issuer fileToken) where
  current := by
    intro keycloak hkeycloak
    cases hkeycloak
  stored := by
    intro token htoken
    have hfile : fileToken = some (some token) := htoken
    simp [start, hfile]

/-- A step that leaves the file alone leaves its saver alone, too. -/
theorem Inv.of_current {s s' : Tracked Token} (hs : Inv issuer s)
    (hfile : s'.context.fileToken = s.context.fileToken) (hsavedBy : s'.savedBy = s.savedBy)
    (hcurrent : ∀ keycloak, s'.context.keycloak = some keycloak →
      ∀ token, keycloak.lastToken = some token → issuer token = keycloak.id) : Inv issuer s' where
  current := hcurrent
  stored := by
    intro token htoken
    rw [hsavedBy]
    exact hs.stored token (hfile ▸ htoken)

/-- A Keycloak that was just set has no token; one that was refused leaves the old one. -/
theorem checkKeycloakUp_current (config : Config) (world : World issuer)
    {context : ContextType Token} {keycloak : KeycloakServer Token}
    (h : (checkKeycloakUp config world context).1.keycloak = some keycloak) :
    keycloak.lastToken = none ∨ context.keycloak = some keycloak := by
  unfold checkKeycloakUp at h
  split at h
  case isTrue =>
    cases h
    exact .inl rfl
  case isFalse => exact .inr h

theorem checkKeycloakUp_fileToken (config : Config) (world : World issuer)
    (context : ContextType Token) :
    (checkKeycloakUp config world context).1.fileToken = context.fileToken := by
  unfold checkKeycloakUp
  split <;> rfl

/-- Both "Keycloak is up" steps keep the provenance. -/
theorem inv_checkKeycloakUp (config : Config) (world : World issuer) {s s' : Tracked Token}
    (hs : Inv issuer s) (hcontext : s'.context = (checkKeycloakUp config world s.context).1)
    (hsavedBy : s'.savedBy = s.savedBy) : Inv issuer s' := by
  refine hs.of_current ?_ hsavedBy ?_
  · rw [hcontext, checkKeycloakUp_fileToken]
  · intro keycloak hkeycloak token htoken
    rw [hcontext] at hkeycloak
    rcases checkKeycloakUp_current config world hkeycloak with hnone | hold
    · rw [hnone] at htoken
      cases htoken
    · exact hs.current keycloak hold token htoken

/-- A fetched token is the current Keycloak's by the law of the core package. -/
theorem inv_fetchKeycloakToken (env : Env) (world : World issuer) {s : Tracked Token}
    (hs : Inv issuer s) : Inv issuer (trackedStep env (.fetchKeycloakToken, world) s) := by
  obtain ⟨⟨keycloak, fileToken⟩, savedBy⟩ := s
  cases keycloak with
  | none => exact hs
  | some keycloak =>
    cases hfetch : world.fetchToken keycloak with
    | error e =>
      refine hs.of_current ?_ (by simp [trackedStep]) ?_
      · simp [trackedStep, perform, Keycloak.fetchKeycloakToken, hfetch]
      · simpa [trackedStep, perform, Keycloak.fetchKeycloakToken, hfetch] using hs.current
    | ok token =>
      refine hs.of_current ?_ (by simp [trackedStep]) ?_
      · simp [trackedStep, perform, Keycloak.fetchKeycloakToken, hfetch]
      · simpa [trackedStep, perform, Keycloak.fetchKeycloakToken, hfetch] using world.issued hfetch

/-- A save makes the current Keycloak the saver of its own token. -/
theorem inv_save (env : Env) (world : World issuer) {s : Tracked Token} (hs : Inv issuer s) :
    Inv issuer (trackedStep env (.saveKeycloakToken, world) s) := by
  obtain ⟨⟨keycloak, fileToken⟩, savedBy⟩ := s
  cases keycloak with
  | none => exact hs
  | some keycloak =>
    refine ⟨hs.current, ?_⟩
    intro token htoken
    have hlast : keycloak.lastToken = some token := Option.some.inj htoken
    have hissuer : issuer token = keycloak.id := hs.current keycloak rfl token hlast
    show some keycloak.id = some (issuer token)
    rw [hissuer]

theorem inv_load (env : Env) (world : World issuer) {s : Tracked Token} (hs : Inv issuer s)
    (hsame : SameKeycloak s (.savedKeycloakToken, world)) :
    Inv issuer (trackedStep env (.savedKeycloakToken, world) s) := by
  obtain ⟨⟨keycloak, fileToken⟩, savedBy⟩ := s
  cases fileToken with
  | none => exact hs
  | some stored =>
    cases keycloak with
    | none => exact hs
    | some keycloak =>
      refine ⟨?_, hs.stored⟩
      intro loaded hloaded token htoken
      cases hloaded
      have hfile : stored = some token := htoken
      subst hfile
      have hsaver : savedBy = some keycloak.id := hsame rfl keycloak rfl token rfl
      have hstored : savedBy = some (issuer token) := hs.stored token rfl
      exact Option.some.inj (hstored.symm.trans hsaver)

/-- **One step keeps the provenance**, if a placed token comes from a save by the same Keycloak. -/
theorem inv_trackedStep (env : Env) (s : Tracked Token) (step : StepName × World issuer)
    (hs : Inv issuer s) (hsame : SameKeycloak s step) : Inv issuer (trackedStep env step s) := by
  obtain ⟨name, world⟩ := step
  cases name with
  | zmKeycloakIsUp => exact inv_checkKeycloakUp env.zm world hs rfl (by simp [trackedStep])
  | tspaKeycloakIsUp => exact inv_checkKeycloakUp env.tspa world hs rfl (by simp [trackedStep])
  | fetchKeycloakToken => exact inv_fetchKeycloakToken env world hs
  | saveKeycloakToken => exact inv_save env world hs
  | savedKeycloakToken => exact inv_load env world hs hsame

/-- The token that is placed is the one the file holds, so it is the saver's. -/
theorem placesOwnToken_iff (env : Env) (s : Tracked Token) (step : StepName × World issuer)
    (hs : Inv issuer s) : PlacesOwnToken env s step ↔ SameKeycloak s step := by
  obtain ⟨name, world⟩ := step
  constructor
  · intro hplaces hname keycloak hkeycloak token hfile
    obtain rfl : name = .savedKeycloakToken := hname
    have hload : perform env .savedKeycloakToken world s.context
        = (⟨some { keycloak with lastToken := some token }, some (some token)⟩, .ok ()) := by
      simp [perform, load, hfile, hkeycloak]
    have hissuer : issuer token = keycloak.id := by
      refine hplaces rfl ?_ { keycloak with lastToken := some token } ?_ token rfl
      · rw [hload]
      · rw [hload]
    rw [hs.stored token hfile, hissuer]
  · intro hsame hname _
    obtain rfl : name = .savedKeycloakToken := hname
    exact (inv_load env world hs hsame).current

/-- The token the context holds after a run, by whichever step, is its Keycloak's own. -/
theorem currentToken_issued_after (env : Env) (fileToken : Option (Option Token))
    (run : List (StepName × World issuer))
    (hrun : Along (trackedStep env) SameKeycloak (start issuer fileToken) run) :
    ∀ keycloak, (after (trackedStep env) (start issuer fileToken) run).context.keycloak = some keycloak →
      ∀ token, keycloak.lastToken = some token → issuer token = keycloak.id :=
  (invariant_after (inv_trackedStep env) (inv_start fileToken) hrun).current

/-- **Provenance**: in a run every token that "saved Keycloak token" places was issued by the current
    Keycloak exactly when each such step that finds a token is taken with the Keycloak that saved last
    (before the first save, with the issuer of the token that was left in the file). -/
theorem savedToken_issued_by_current (env : Env) (fileToken : Option (Option Token))
    (run : List (StepName × World issuer)) :
    Along (trackedStep env) (PlacesOwnToken env) (start issuer fileToken) run
      ↔ Along (trackedStep env) SameKeycloak (start issuer fileToken) run :=
  Along.iff_of_invariant (inv_trackedStep env) (placesOwnToken_iff env) (inv_start fileToken)

/-! ## Two Keycloaks, one file -/

/-- One server with a realm for each feature. -/
def twoRealms : Env where
  zm := ⟨"http://keycloak:8080/", "s", "bdd", "zonemgr", "openid"⟩
  tspa := ⟨"http://keycloak:8080/", "s", "bdd", "tspa", "openid"⟩

/-- Everything is up, and a token is its issuer's name. -/
def allUp : World (fun id : KeycloakId => id) where
  accepts := fun _ => true
  isUp := fun _ => true
  fetchToken := fun keycloak => .ok keycloak.id
  issued := by
    intro keycloak token h
    exact (Except.ok.inj h).symm

/-- The backgrounds of two features, the second one loading what the first has saved. -/
def twoFeatures : List (StepName × World (fun id : KeycloakId => id)) :=
  [(.zmKeycloakIsUp, allUp), (.fetchKeycloakToken, allUp), (.saveKeycloakToken, allUp),
    (.tspaKeycloakIsUp, allUp), (.savedKeycloakToken, allUp)]

/-- The token of the ZM realm is saved and placed into the Keycloak of the TSPA realm. -/
theorem savedToken_issued_by_other :
    ¬ Along (trackedStep twoRealms) (PlacesOwnToken twoRealms) (start (fun id => id) none)
        twoFeatures := by
  rintro ⟨-, -, -, -, hplaces, -⟩
  have hissuer := hplaces rfl rfl _ rfl _ rfl
  exact absurd hissuer (by decide)

end TrainBdd.Keycloak
