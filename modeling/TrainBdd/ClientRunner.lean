/-
  `components/tcr/client/{java,py,js,golang}.py` — which program each client runs.

  1. **Environment** — three variables a client: the type, where the program is, and its image.
  2. **Selection** — Java, Python and JavaScript select in the same way, `selectRunner`, and differ in the
     word for "not in a container", the runner it stands for and the names of the variables; the Golang
     client only knows a script.
  3. **Rule** — `selectRunner_eq_ok_iff` says which runner is selected and when.  The type is compared in
     lower case, and handed to the container runner as it was written.
-/
import TrainBdd.TcrClient

namespace TrainBdd.Tcr

open Python

/-! ## The program -/

/-- The runners of the core package, with what they are constructed from. -/
inductive Runner
  | nativeJava (cliAppLocation : String)
  | nativeScript (cliAppLocation : String)
  | dockerized (implementation imageName : String)
deriving DecidableEq, Repr

/-- The variables of one client. -/
structure CliEnv where
  type : Option String
  path : Option String
  dockerImage : Option String
deriving DecidableEq, Repr

inductive RunnerError
  | assertionError (text : String)
  | notImplementedError (type : Option String)
deriving DecidableEq, Repr

/-- `str.lower()`, as far as a comparison with an ASCII word can tell: beside the capitals only the
    Kelvin sign becomes an ASCII letter. -/
def lower (s : String) : String :=
  s.map fun c =>
    if 'A' ≤ c ∧ c ≤ 'Z' then Char.ofNat (c.toNat + 32)
    else if c.toNat = 0x212a then 'k'
    else c

/-- The value of a variable that is set and not empty, which is what `if env.X` and `assert env.X` ask
    for. -/
def getEnv (error : RunnerError) (value : Option String) : Except RunnerError String :=
  match value with
  | none => throw error
  | some text => if truthy text then return text else throw error

def notSet (name : String) : RunnerError := .assertionError ("env " ++ name ++ " is not set")

/-- The `runner` property that three of the clients share. -/
def selectRunner (kind : String) (native : String → Runner) (pathName imageName : String)
    (env : CliEnv) : Except RunnerError Runner := do
  let type ← getEnv (.notImplementedError env.type) env.type
  if lower type = kind then
    return native (← getEnv (notSet pathName) env.path)
  else if lower type ∈ ["docker", "podman"] then
    return .dockerized type (← getEnv (notSet imageName) env.dockerImage)
  else
    throw (.notImplementedError env.type)

def Java.runner (env : CliEnv) : Except RunnerError Runner :=
  selectRunner "jar" .nativeJava "TCR_CLIENT_CLI_JAVA_JAR_PATH" "TCR_CLIENT_CLI_JAVA_DOCKER_IMAGE" env

def Py.runner (env : CliEnv) : Except RunnerError Runner :=
  selectRunner "script" .nativeScript "TCR_CLIENT_CLI_PY_SCRIPT_PATH" "TCR_CLIENT_CLI_PY_DOCKER_IMAGE"
    env

def Js.runner (env : CliEnv) : Except RunnerError Runner :=
  selectRunner "script" .nativeScript "TCR_CLIENT_CLI_JS_SCRIPT_PATH" "TCR_CLIENT_CLI_JS_DOCKER_IMAGE"
    env

def Golang.runner (scriptPath : Option String) : Except RunnerError Runner :=
  return .nativeScript (← getEnv (.notImplementedError scriptPath) scriptPath)

/-! ## The rule -/

/-- The variable is set to a text that is not empty. -/
def IsSet (value : Option String) (text : String) : Prop := value = some text ∧ text ≠ ""

theorem getEnv_eq_ok_iff {error : RunnerError} {value : Option String} {text : String} :
    getEnv error value = .ok text ↔ IsSet value text := by
  have htruthy : ∀ s : String, truthy s = true ↔ s ≠ "" := by
    intro s
    show (!s.isEmpty) = true ↔ _
    rw [Bool.not_eq_true', Bool.eq_false_iff, ne_eq, String.isEmpty_iff]
  cases value with
  | none =>
    refine iff_of_false (fun h => by cases h) ?_
    rintro ⟨h, -⟩
    cases h
  | some s =>
    show (if truthy s = true then _ else _) = _ ↔ some s = some text ∧ text ≠ ""
    by_cases hs : s = ""
    · rw [if_neg (by rw [htruthy]; exact not_not.2 hs)]
      refine iff_of_false (fun h => by cases h) ?_
      rintro ⟨h, hne⟩
      cases h
      exact hne hs
    · rw [if_pos ((htruthy s).2 hs)]
      constructor
      · intro h
        cases h
        exact ⟨rfl, hs⟩
      · rintro ⟨h, -⟩
        cases h
        rfl

/-- What is made of a variable. -/
theorem map_getEnv_eq_ok_iff {error : RunnerError} {value : Option String} {make : String → Runner}
    {runner : Runner} :
    (do return make (← getEnv error value) : Except RunnerError Runner) = .ok runner ↔
      ∃ text, IsSet value text ∧ runner = make text := by
  constructor
  · intro h
    cases hget : getEnv error value with
    | error e =>
      rw [hget] at h
      cases h
    | ok text =>
      rw [hget] at h
      cases h
      exact ⟨text, getEnv_eq_ok_iff.1 hget, rfl⟩
  · rintro ⟨text, hset, rfl⟩
    rw [getEnv_eq_ok_iff.2 hset]
    rfl

/-- **Which runner a client selects.** -/
theorem selectRunner_eq_ok_iff {kind : String} (hkind : kind ∉ ["docker", "podman"])
    {native : String → Runner} {pathName imageName : String} {env : CliEnv} {runner : Runner} :
    selectRunner kind native pathName imageName env = .ok runner ↔
      ∃ type, IsSet env.type type ∧
        ((lower type = kind ∧ ∃ path, IsSet env.path path ∧ runner = native path) ∨
          (lower type ∈ ["docker", "podman"] ∧
            ∃ image, IsSet env.dockerImage image ∧ runner = .dockerized type image)) := by
  have hselect : ∀ type, IsSet env.type type →
      selectRunner kind native pathName imageName env =
        if lower type = kind then do return native (← getEnv (notSet pathName) env.path)
        else if lower type ∈ ["docker", "podman"] then do
          return .dockerized type (← getEnv (notSet imageName) env.dockerImage)
        else throw (.notImplementedError env.type) := by
    intro type hset
    rw [selectRunner, getEnv_eq_ok_iff.2 hset]
    rfl
  constructor
  · intro h
    cases hget : getEnv (.notImplementedError env.type) env.type with
    | error e =>
      rw [selectRunner, hget] at h
      cases h
    | ok type =>
      have hset := getEnv_eq_ok_iff.1 hget
      refine ⟨type, hset, ?_⟩
      rw [hselect type hset] at h
      split at h
      · next hlower => exact Or.inl ⟨hlower, map_getEnv_eq_ok_iff.1 h⟩
      · split at h
        · next hcontainer => exact Or.inr ⟨hcontainer, map_getEnv_eq_ok_iff.1 h⟩
        · cases h
  · rintro ⟨type, hset, ⟨hlower, hnative⟩ | ⟨hcontainer, hdocker⟩⟩
    · rw [hselect type hset, if_pos hlower]
      exact map_getEnv_eq_ok_iff.2 hnative
    · have hne : lower type ≠ kind := by
        rintro rfl
        exact hkind hcontainer
      rw [hselect type hset, if_neg hne, if_pos hcontainer]
      exact map_getEnv_eq_ok_iff.2 hdocker

end TrainBdd.Tcr
