/-
  `steps/tspa.py` — the steps on the TSPA, from the sentences of a feature file to requests.

  1. **Steps** — a step looks the TSPA up, then its aliases in the order of the call's arguments, and keeps
     the answer to one method of the wrapper; two endpoints insist on a dictionary before they send.  An
     alias stands in a path as it is printed, and in a body as it is.
  2. **Sentences** — the runner finds a step for a text and binds the values of its fields to the
     parameters of the step function (`bound`).
  3. **Methods** — the method that a sentence calls, or why it calls none (`Sentence.method`).
  4. **Scenarios** — `scenario_sends_requests`: lines that are written as sentences call the methods of
     these sentences, in order, up to the first that raises.
-/
import TrainBdd.StepArguments
import TrainBdd.StepContext

namespace TrainBdd.Tspa

open Format Python Run Effect Text StepPatterns

/-! ## Aliases -/

/-- A value of `context.aliases`, or `context.text`: nothing, a text, a dictionary, or anything else. -/
inductive Alias (D : Type)
  | none
  | text (s : String)
  | dict (data : D)
  | other (data : D)
deriving DecidableEq, Repr

abbrev Aliases (D : Type) := String → Option (Alias D)

/-- What a body carries of an alias: the value, or `{'schemes': [value]}`. -/
inductive Payload (D : Type)
  | value (data : Alias D)
  | schemes (pointer : Alias D)

/-- What is outside the repository beside the TSPA: the JSON reader, the placeholders of the core package,
    and what a value that is no text looks like where a text is asked for. -/
structure World (D : Type) where
  loads : String → Except StepError (Alias D)
  replaceAliasPlaceholder : Alias D → Aliases D → Except StepError (Alias D)
  print : D → String

variable {D K σ : Type}

/-- A value that is formatted into a path. -/
def World.asText (self : World D) : Alias D → String
  | .none => "None"
  | .text s => s
  | .dict data | .other data => self.print data

/-- `json=value`; `None` is no body. -/
def jsonBody : Alias D → Body (Payload D)
  | .none => .empty
  | value => .json (.value value)

/-- `data=value`. -/
def dataBody : Alias D → Body (Payload D)
  | .none => .empty
  | .text s => .data s
  | value => .form (.value value)

/-- `assert isinstance(json_data, dict)`. -/
def assertDict : Alias D → Except StepError Unit
  | .dict _ => .ok ()
  | _ => .error (.assertionError "")

/-! ## The program: the wrapper's methods on aliases -/

namespace Wrapper

variable (world : World D) (server : Server) (pointer : Alias D)

def createPointer : Method (Payload D) :=
  match pointer with
  | .text name => .plain (server.createPointer name)
  | value =>
    .plain { (server.createPointer (world.asText value) : HttpRequest (Payload D)) with
      body := .json (.schemes value) }

def createDidForPointer (did : Did) : Method (Payload D) :=
  .plain (server.createDidForPointer did (world.asText pointer))

def removeDidFromPointer : Method (Payload D) := .plain (server.removeDidFromPointer (world.asText pointer))

def removePointer : Method (Payload D) := .plain (server.removePointer (world.asText pointer))

def createTrustListAsXml (xmlData : Alias D) : Method (Payload D) where
  contentType := some "application/xml"
  request := .ok { (server.createTrustListAsXml (world.asText pointer) "" : HttpRequest (Payload D)) with
    body := dataBody xmlData }

def createTrustListAsJson (jsonData : Alias D) : Method (Payload D) where
  contentType := some "application/json"
  request := do
    assertDict jsonData
    return server.createTrustListAsJson (world.asText pointer) (.value jsonData)

def readTrustList : Method (Payload D) := .plain (server.readTrustList (world.asText pointer))

def readVc : Method (Payload D) := .plain (server.readVc (world.asText pointer))

def removeTrustList : Method (Payload D) := .plain (server.removeTrustList (world.asText pointer))

/-- This endpoint takes any data. -/
def publishTsp (jsonData : Alias D) : Method (Payload D) where
  contentType := some "application/json"
  request := .ok { server.publishTsp (world.asText pointer) (Payload.value jsonData) with
    body := jsonBody jsonData }

/-- The header is updated with the default content type. -/
def updateTsp (tspId : String) (jsonData : Alias D) : Method (Payload D) where
  request := do
    assertDict jsonData
    return server.updateTsp (world.asText pointer) tspId (.value jsonData)

def deleteTsp (tspId : String) : Method (Payload D) := .plain (server.deleteTsp (world.asText pointer) tspId)

end Wrapper

/-! ## The program: the steps -/

section Steps

variable (world : World D) (service : Service K (Payload D) σ) (aliases : Aliases D)

/-- `context.requests_response = context.tspa_server.method(..)`, whose arguments are looked up behind the
    server. -/
def ask {α : Type} (arguments : Except StepError α) (method : Server → α → Method (Payload D)) :
    StepM K (Payload D) σ Unit := do
  let (server, keycloak) ← tspaServer
  keepAnswer service keycloak (method server (← MonadExcept.ofExcept arguments))

/-- A pointer and another alias, in the order of the call. -/
def aliasPair (pointer aliasKey : String) : Except StepError (Alias D × Alias D) := do
  return (← aliasOf aliases pointer, ← aliasOf aliases aliasKey)

/-- `context.text`, if there is one. -/
def contextText (text : Option String) : Alias D := text.elim .none .text

/-- `json.loads(context.text)`. -/
def World.loadText (text : Option String) : Except StepError (Alias D) :=
  match text with
  | some text => world.loads text
  | none => .error .typeError

def tspaCreatingPointers (pointer : String) : StepM K (Payload D) σ Unit :=
  ask service (aliasOf aliases pointer) (Wrapper.createPointer world)

def createDidForPointer (did : Did) (pointer : String) : StepM K (Payload D) σ Unit :=
  ask service (aliasOf aliases pointer) fun server pointer =>
    Wrapper.createDidForPointer world server pointer did

def removeDidPointerFromTspaServer (pointer : String) : StepM K (Payload D) σ Unit :=
  ask service (aliasOf aliases pointer) (Wrapper.removeDidFromPointer world)

def removePointerFromTspaServer (pointer : String) : StepM K (Payload D) σ Unit :=
  ask service (aliasOf aliases pointer) (Wrapper.removePointer world)

def createTrustListAsXmlWithContent (text : Option String) (pointer : String) :
    StepM K (Payload D) σ Unit :=
  ask service (aliasOf aliases pointer) fun server pointer =>
    Wrapper.createTrustListAsXml world server pointer (contextText text)

def createTrustListAsXmlWithAlias (pointer aliasKey : String) : StepM K (Payload D) σ Unit :=
  ask service (aliasPair aliases pointer aliasKey) fun server (pointer, xmlData) =>
    Wrapper.createTrustListAsXml world server pointer xmlData

def createTrustListAsJsonWithContent (text : Option String) (pointer : String) :
    StepM K (Payload D) σ Unit := do
  -- the text is read before the server is looked up
  let data ← MonadExcept.ofExcept (world.loadText text)
  let replaced ← MonadExcept.ofExcept (world.replaceAliasPlaceholder data aliases)
  ask service (aliasOf aliases pointer) fun server pointer =>
    Wrapper.createTrustListAsJson world server pointer replaced

def createTrustListAsJsonWithAlias (pointer aliasKey : String) : StepM K (Payload D) σ Unit :=
  ask service (aliasPair aliases pointer aliasKey) fun server (pointer, jsonData) =>
    Wrapper.createTrustListAsJson world server pointer jsonData

def readTrustList (pointer : String) : StepM K (Payload D) σ Unit :=
  ask service (aliasOf aliases pointer) (Wrapper.readTrustList world)

def readVc (pointer : String) : StepM K (Payload D) σ Unit :=
  ask service (aliasOf aliases pointer) (Wrapper.readVc world)

def removeTrustList (pointer : String) : StepM K (Payload D) σ Unit :=
  ask service (aliasOf aliases pointer) (Wrapper.removeTrustList world)

def publishTsp (pointer aliasKey : String) : StepM K (Payload D) σ Unit :=
  ask service (aliasPair aliases pointer aliasKey) fun server (pointer, jsonData) =>
    Wrapper.publishTsp world server pointer jsonData

def updateTsp (pointer tspId aliasKey : String) : StepM K (Payload D) σ Unit :=
  ask service (aliasPair aliases pointer aliasKey) fun server (pointer, jsonData) =>
    Wrapper.updateTsp world server pointer tspId jsonData

def deleteTsp (pointer tspId : String) : StepM K (Payload D) σ Unit :=
  ask service (aliasOf aliases pointer) fun server pointer =>
    Wrapper.deleteTsp world server pointer tspId

end Steps

/-! ## Sentences -/

/-- The "When" sentences with the values of their fields, and the text below them where the step reads
    it. -/
inductive Sentence
  | creatingPointers (pointer : String)
  | createDidForPointer (did : Did) (pointer : String)
  | removeDidPointer (pointer : String)
  | removePointer (pointer : String)
  | createXmlWithContent (pointer : String) (content : Option String)
  | createXmlWithAlias (pointer aliasKey : String)
  | createJsonWithContent (pointer : String) (content : Option String)
  | createJsonWithAlias (pointer aliasKey : String)
  | readTrustList (pointer : String)
  | readVc (pointer : String)
  | removeTrustList (pointer : String)
  | publishTsp (pointer aliasKey : String)
  | updateTsp (pointer tspId aliasKey : String)
  | deleteTsp (pointer tspId : String)
deriving DecidableEq, Repr

namespace Sentence

/-- The step function on its arguments. -/
def run (world : World D) (service : Service K (Payload D) σ) (aliases : Aliases D) :
    Sentence → StepM K (Payload D) σ Unit
  | creatingPointers pointer => tspaCreatingPointers world service aliases pointer
  | createDidForPointer did pointer => Tspa.createDidForPointer world service aliases did pointer
  | removeDidPointer pointer => removeDidPointerFromTspaServer world service aliases pointer
  | removePointer pointer => removePointerFromTspaServer world service aliases pointer
  | createXmlWithContent pointer content =>
    createTrustListAsXmlWithContent world service aliases content pointer
  | createXmlWithAlias pointer aliasKey =>
    createTrustListAsXmlWithAlias world service aliases pointer aliasKey
  | createJsonWithContent pointer content =>
    createTrustListAsJsonWithContent world service aliases content pointer
  | createJsonWithAlias pointer aliasKey =>
    createTrustListAsJsonWithAlias world service aliases pointer aliasKey
  | readTrustList pointer => Tspa.readTrustList world service aliases pointer
  | readVc pointer => Tspa.readVc world service aliases pointer
  | removeTrustList pointer => Tspa.removeTrustList world service aliases pointer
  | publishTsp pointer aliasKey => Tspa.publishTsp world service aliases pointer aliasKey
  | updateTsp pointer tspId aliasKey => Tspa.updateTsp world service aliases pointer tspId aliasKey
  | deleteTsp pointer tspId => Tspa.deleteTsp world service aliases pointer tspId

/-- The decorated function of a sentence. -/
def step : Sentence → StepDefinition
  | creatingPointers _ =>
    ⟨"tspa.py", "tspa_creating_pointers", "TSPA create pointer {pointer:TrustFrameworkPointerAlias}"⟩
  | createDidForPointer .. => createDidForPointerInTspa
  | removeDidPointer _ =>
    ⟨"tspa.py", "remove_did_pointer_from_tspa_server", "remove from TSPA Server DIDs pointer {pointer}"⟩
  | removePointer _ =>
    ⟨"tspa.py", "remove_pointer_from_tspa_server", "remove from TSPA Server pointer {pointer}"⟩
  | createXmlWithContent .. => StepPatterns.createTrustListAsXmlWithContent
  | createXmlWithAlias .. => StepPatterns.createTrustListAsXmlWithAlias
  | createJsonWithContent .. => StepPatterns.createTrustListAsJsonWithContent
  | createJsonWithAlias .. => StepPatterns.createTrustListAsJsonWithAlias
  | readTrustList _ => ⟨"tspa.py", "read_trust_list", "read Trust List {pointer}"⟩
  | readVc _ => ⟨"tspa.py", "read_vc", "read VC {pointer}"⟩
  | removeTrustList _ => ⟨"tspa.py", "remove_trust_list", "remove Trust List {pointer}"⟩
  | publishTsp .. => ⟨"tspa.py", "publish_tsp", "publish TSP pointer {pointer} with {alias_key}"⟩
  | updateTsp .. => StepPatterns.updateTsp
  | deleteTsp .. => ⟨"tspa.py", "delete_tsp", "delete TSP pointer/tsp_id {pointer}/{tsp_id}"⟩

/-- The values of the fields, as the sentence has them. -/
def values : Sentence → List String
  | creatingPointers pointer | removeDidPointer pointer | removePointer pointer
  | createXmlWithContent pointer _ | createJsonWithContent pointer _ | readTrustList pointer
  | readVc pointer | removeTrustList pointer => [pointer]
  | createDidForPointer did pointer => [did, pointer]
  | createXmlWithAlias pointer aliasKey | createJsonWithAlias pointer aliasKey
  | publishTsp pointer aliasKey => [pointer, aliasKey]
  | updateTsp pointer tspId aliasKey => [pointer, tspId, aliasKey]
  | deleteTsp pointer tspId => [pointer, tspId]

/-- The text below the line, `context.text`, is the one that the sentence says, if its step reads it. -/
def Reads (content : Option String) : Sentence → Prop
  | createXmlWithContent _ text | createJsonWithContent _ text => content = text
  | _ => True

end Sentence

/-- The call of a step function with keyword arguments. -/
def bound (step : StepDefinition) (content : Option String) (args : List (String × Argument)) :
    Option Sentence :=
  if step.file ≠ "tspa.py" then none
  else
    match step.function, args with
    | "tspa_creating_pointers", [("pointer", .text pointer)] => some (.creatingPointers pointer)
    | "create_did_for_pointer", [("did", .text did), ("pointer", .text pointer)] =>
      some (.createDidForPointer did pointer)
    | "remove_did_pointer_from_tspa_server", [("pointer", .text pointer)] =>
      some (.removeDidPointer pointer)
    | "remove_pointer_from_tspa_server", [("pointer", .text pointer)] => some (.removePointer pointer)
    | "create_trust_list_as_xml_with_content", [("pointer", .text pointer)] =>
      some (.createXmlWithContent pointer content)
    | "create_trust_list_as_xml_with_alias", [("pointer", .text pointer), ("alias_key", .text key)] =>
      some (.createXmlWithAlias pointer key)
    | "create_trust_list_as_json_with_content", [("pointer", .text pointer)] =>
      some (.createJsonWithContent pointer content)
    | "create_trust_list_as_json_with_alias", [("pointer", .text pointer), ("alias_key", .text key)] =>
      some (.createJsonWithAlias pointer key)
    | "read_trust_list", [("pointer", .text pointer)] => some (.readTrustList pointer)
    | "read_vc", [("pointer", .text pointer)] => some (.readVc pointer)
    | "remove_trust_list", [("pointer", .text pointer)] => some (.removeTrustList pointer)
    | "publish_tsp", [("pointer", .text pointer), ("alias_key", .text key)] =>
      some (.publishTsp pointer key)
    | "update_tsp", [("pointer", .text pointer), ("tsp_id", .text tspId), ("alias_key", .text key)] =>
      some (.updateTsp pointer tspId key)
    | "delete_tsp", [("pointer", .text pointer), ("tsp_id", .text tspId)] =>
      some (.deleteTsp pointer tspId)
    | _, _ => none

/-- The runner on one line of a feature file: `text`, with `content` below it. -/
def runLine (world : World D) (service : Service K (Payload D) σ) (registered : List StepDefinition)
    (aliases : Aliases D) (text : String) (content : Option String) : StepM K (Payload D) σ Unit :=
  match findMatch registered text with
  | none => throw .undefinedStep
  | some (step, args) =>
    match bound step content args with
    | none => throw .undefinedStep
    | some sentence => sentence.run world service aliases

/-! ## Methods -/

/-- The method that a sentence calls, or the error that keeps it from calling one. -/
def Sentence.method (world : World D) (server : Server) (aliases : Aliases D) :
    Sentence → Except StepError (Method (Payload D))
  | creatingPointers pointer => return Wrapper.createPointer world server (← aliasOf aliases pointer)
  | createDidForPointer did pointer =>
    return Wrapper.createDidForPointer world server (← aliasOf aliases pointer) did
  | removeDidPointer pointer => return Wrapper.removeDidFromPointer world server (← aliasOf aliases pointer)
  | removePointer pointer => return Wrapper.removePointer world server (← aliasOf aliases pointer)
  | createXmlWithContent pointer content =>
    return Wrapper.createTrustListAsXml world server (← aliasOf aliases pointer) (contextText content)
  | createXmlWithAlias pointer aliasKey =>
    return Wrapper.createTrustListAsXml world server (← aliasOf aliases pointer)
      (← aliasOf aliases aliasKey)
  | createJsonWithContent pointer content => do
    let replaced ← world.replaceAliasPlaceholder (← world.loadText content) aliases
    return Wrapper.createTrustListAsJson world server (← aliasOf aliases pointer) replaced
  | createJsonWithAlias pointer aliasKey =>
    return Wrapper.createTrustListAsJson world server (← aliasOf aliases pointer)
      (← aliasOf aliases aliasKey)
  | readTrustList pointer => return Wrapper.readTrustList world server (← aliasOf aliases pointer)
  | readVc pointer => return Wrapper.readVc world server (← aliasOf aliases pointer)
  | removeTrustList pointer => return Wrapper.removeTrustList world server (← aliasOf aliases pointer)
  | publishTsp pointer aliasKey =>
    return Wrapper.publishTsp world server (← aliasOf aliases pointer) (← aliasOf aliases aliasKey)
  | updateTsp pointer tspId aliasKey =>
    return Wrapper.updateTsp world server (← aliasOf aliases pointer) tspId (← aliasOf aliases aliasKey)
  | deleteTsp pointer tspId => return Wrapper.deleteTsp world server (← aliasOf aliases pointer) tspId

/-! ## The steps of sentences -/

namespace Sentence

/-- The fields of the pattern, as they are written. -/
def fields : Sentence → List String
  | creatingPointers _ => ["pointer:TrustFrameworkPointerAlias"]
  | removeDidPointer _ | removePointer _ | createXmlWithContent .. | createJsonWithContent ..
  | readTrustList _ | readVc _ | removeTrustList _ => ["pointer"]
  | createDidForPointer .. => ["did", "pointer"]
  | createXmlWithAlias .. | createJsonWithAlias .. | publishTsp .. => ["pointer", "alias_key"]
  | updateTsp .. => ["pointer", "tsp_id", "alias_key"]
  | deleteTsp .. => ["pointer", "tsp_id"]

theorem fieldTexts_step (s : Sentence) : s.step.fieldTexts = s.fields.map String.toList := by
  cases s
  all_goals
    apply fieldTexts_eq rfl
    rfl

theorem step_mem_declared (s : Sentence) : s.step ∈ declared .when := by
  cases s <;> simp [step, declared, createDidForPointerInTspa,
    StepPatterns.createTrustListAsXmlWithContent, StepPatterns.createTrustListAsXmlWithAlias,
    StepPatterns.createTrustListAsJsonWithContent, StepPatterns.createTrustListAsJsonWithAlias,
    StepPatterns.updateTsp]

/-- Only the sentence that creates pointers has a typed field. -/
theorem untyped_fields {s : Sentence} (h : ∀ pointer, s ≠ creatingPointers pointer) :
    ∀ field ∈ s.fields, field ∈ ["did", "pointer", "tsp_id", "alias_key"] := by
  cases s with
  | creatingPointers pointer => exact absurd rfl (h pointer)
  | _ => simp [fields]

theorem free_step {s : Sentence} (h : ∀ pointer, s ≠ creatingPointers pointer) : s.step.Free := by
  have hnames : ∀ field ∈ ["did", "pointer", "tsp_id", "alias_key"], ':' ∉ field.toList := by decide
  rw [StepDefinition.Free, fieldTexts_step, List.forall_mem_map]
  intro field hfield
  exact hnames field (untyped_fields h field hfield)

/-- The arguments of the step function. -/
def arguments (s : Sentence) : List (String × Argument) :=
  (s.fields.zip s.values).map fun (field, value) =>
    (if field = "pointer:TrustFrameworkPointerAlias" then "pointer" else field, .text value)

/-- The step function is called with what the sentence says. -/
theorem bound_arguments {s : Sentence} {content : Option String} (h : s.Reads content) :
    bound s.step content s.arguments = some s := by
  cases s with
  | createXmlWithContent pointer text | createJsonWithContent pointer text =>
    cases h
    rfl
  | _ => rfl

/-- The text is the pattern of the sentence's step with the sentence's values in the places of the
    fields: all but the last are settled, and a typed one is an alias. -/
structure WrittenAs (s : Sentence) (text : String) : Prop where
  written : ∃ parts : List (List Char × List Char), s.step.Written parts text ∧
    parts.map (·.1) = s.values.map String.toList ∧ ∀ part ∈ parts.dropLast, Settled caseFold part
  typed : ∀ pointer, s = creatingPointers pointer → IsAlias pointer.toList

theorem named_eq_arguments {s : Sentence} (h : ∀ pointer, s ≠ creatingPointers pointer) :
    s.step.named (s.values.map String.toList) = s.arguments := by
  rw [StepDefinition.named, fieldTexts_step, arguments, List.zip_map, List.map_map]
  refine List.map_congr_left fun part hpart => ?_
  have hfield : part.1 ≠ "pointer:TrustFrameworkPointerAlias" := by
    intro hfield
    have hmem := untyped_fields h part.1 (List.of_mem_zip hpart).1
    rw [hfield] at hmem
    exact absurd hmem (by decide)
  show (String.ofList part.1.toList, Argument.text (String.ofList part.2.toList)) = (_, _)
  rw [String.ofList_toList, String.ofList_toList]
  exact congrArg (·, Argument.text part.2) (if_neg hfield).symm

theorem format_creatingPointers (pointer : String) : (creatingPointers pointer).step.format =
    ⟨"tspa create pointer ".toList, [(pointerAlias, [])]⟩ := by
  apply format_eq rfl
  repeat rw [toList_of_ofList rfl]
  rfl

/-- The values are read out of the text as the sentence has them. -/
theorem WrittenAs.arguments_eq {s : Sentence} {text : String} (h : s.WrittenAs text) :
    s.step.arguments text = some s.arguments := by
  obtain ⟨parts, hwritten, hvalues, hsettled⟩ := h.written
  by_cases hfree : ∀ pointer, s ≠ creatingPointers pointer
  · rw [(arguments_written_iff (free_step hfree) hwritten).2 hsettled, hvalues, named_eq_arguments hfree]
  · obtain ⟨pointer, hpointer⟩ := not_forall.1 hfree
    obtain rfl := not_not.1 hpointer
    obtain ⟨front, hword, hfront⟩ := hwritten.word
    have hliterals := hwritten.literals
    rw [format_creatingPointers] at hfront hliterals
    obtain ⟨⟨value, written⟩, rfl, hpart⟩ := List.map_eq_singleton_iff.1 hliterals
    obtain rfl := List.map_eq_nil_iff.1 hpart
    obtain rfl : value = pointer.toList := List.singleton_inj.1 hvalues
    have hread : readValues caseFold (creatingPointers pointer).step.format text.toList =
        some [pointer.toList] := by
      rw [format_creatingPointers, readValues_field_iff]
      refine ⟨front, pointer.toList, [], ?_, hfront, h.typed pointer rfl, rfl, rfl⟩
      rw [hword]
      simp [writeParts]
    rw [StepDefinition.arguments, hread, fieldTexts_step]
    show some [(String.ofList (cut ':' "pointer:TrustFrameworkPointerAlias".toList).1,
      convert (cut ':' "pointer:TrustFrameworkPointerAlias".toList).2 pointer.toList)] = _
    rw [(typedArgument_eq pointer.toList).2.2, String.ofList_toList]
    rfl

theorem WrittenAs.runsOn {s : Sentence} {text : String} (h : s.WrittenAs text) :
    s.step.runsOn text = true := by
  rw [← StepDefinition.arguments_isSome_iff, h.arguments_eq]
  rfl

/-- **What is written is what runs**, if no step that matches was registered before. -/
theorem WrittenAs.runLine_eq {s : Sentence} {text : String} (h : s.WrittenAs text)
    {content : Option String} (hcontent : s.Reads content) (world : World D)
    (service : Service K (Payload D) σ) (aliases : Aliases D) {registered : List StepDefinition}
    (hstep : s.step ∈ registered) (hfirst : First registered s.step text) :
    runLine world service registered aliases text content = s.run world service aliases := by
  have hmatch : findMatch registered text = some (s.step, s.arguments) := by
    rw [findMatch, hfirst.dispatch_eq hstep h.runsOn]
    show (s.step.arguments text >>= fun args => some (s.step, args)) = _
    rw [h.arguments_eq]
    rfl
  rw [runLine, hmatch]
  show (match bound s.step content s.arguments with
    | none => throw StepError.undefinedStep
    | some sentence => sentence.run world service aliases) = _
  rw [bound_arguments hcontent]

end Sentence

/-! ## The methods of sentences -/

section Methods

variable {world : World D} {service : Service K (Payload D) σ} {aliases : Aliases D}
  {context : Context K (Payload D) σ} {server : Server} {keycloak : K}

/-- A step calls the method of its arguments. -/
theorem ask_eq (h : context.tspaServer = some (server, keycloak)) {α : Type}
    (arguments : Except StepError α) (method : Server → α → Method (Payload D)) :
    ask service arguments method context =
      (MonadExcept.ofExcept (arguments.map (method server)) >>= keepAnswer service keycloak) context := by
  refine (bind_required h).trans ?_
  cases arguments with
  | error e => rfl
  | ok a => rfl

/-- **A sentence calls its method**, or raises what keeps it from that. -/
theorem Sentence.run_eq (h : context.tspaServer = some (server, keycloak)) (s : Sentence) :
    s.run world service aliases context =
      (MonadExcept.ofExcept (s.method world server aliases) >>= keepAnswer service keycloak) context := by
  cases s with
  | createJsonWithContent pointer content =>
    rw [Sentence.method, Sentence.run, createTrustListAsJsonWithContent]
    cases world.loadText content with
    | error e => rfl
    | ok data =>
      show ((MonadExcept.ofExcept (world.replaceAliasPlaceholder data aliases) :
          StepM K (Payload D) σ (Alias D)) >>= _) context =
        ((MonadExcept.ofExcept (world.replaceAliasPlaceholder data aliases >>= _) :
          StepM K (Payload D) σ (Method (Payload D))) >>= _) context
      cases world.replaceAliasPlaceholder data aliases with
      | error e => rfl
      | ok replaced =>
        show ask service (aliasOf aliases pointer)
          (fun server pointer => Wrapper.createTrustListAsJson world server pointer replaced) context = _
        rw [ask_eq h]
        cases aliasOf aliases pointer <;> rfl
  | createXmlWithAlias pointer aliasKey | createJsonWithAlias pointer aliasKey
  | publishTsp pointer aliasKey | updateTsp pointer tspId aliasKey =>
    rw [Sentence.run, Sentence.method]
    refine (ask_eq h (aliasPair aliases pointer aliasKey) _).trans ?_
    rw [aliasPair]
    cases aliasOf aliases pointer with
    | error e => rfl
    | ok name => cases aliasOf aliases aliasKey <;> rfl
  | creatingPointers pointer | createDidForPointer did pointer | removeDidPointer pointer
  | removePointer pointer | createXmlWithContent pointer content | readTrustList pointer
  | readVc pointer | removeTrustList pointer | deleteTsp pointer tspId =>
    rw [Sentence.run, Sentence.method]
    refine (ask_eq h (aliasOf aliases pointer) _).trans ?_
    cases aliasOf aliases pointer <;> rfl

/-- The endpoints that take a trust list in JSON or an update insist on a dictionary. -/
def Sentence.WantsDict : Sentence → Prop
  | createJsonWithContent .. | createJsonWithAlias .. | updateTsp .. => True
  | _ => False

theorem assertDict_eq_ok {value : Alias D} {u : Unit} (h : assertDict value = .ok u) :
    ∃ data, value = .dict data := by
  cases value with
  | dict data => exact ⟨data, rfl⟩
  | none | text t | other data => cases h

/-- They are sent one, or nothing. -/
theorem Sentence.dict_of_request {s : Sentence} (hs : s.WantsDict) {method : Method (Payload D)}
    (hmethod : s.method world server aliases = .ok method) {request : HttpRequest (Payload D)}
    (hrequest : method.request = .ok request) :
    ∃ data, request.body = .json (.value (.dict data)) := by
  have hbind : ∀ {α β : Type} {c : Except StepError α} {f : α → Except StepError β} {b : β},
      (c >>= f) = .ok b → ∃ a, c = .ok a ∧ f a = .ok b := by
    intro α β c f b hc
    cases c with
    | error e => cases hc
    | ok a => exact ⟨a, rfl, hc⟩
  cases s with
  | createJsonWithContent pointer content =>
    obtain ⟨loaded, -, hmethod⟩ := hbind hmethod
    obtain ⟨replaced, -, hmethod⟩ := hbind hmethod
    obtain ⟨name, -, hmethod⟩ := hbind hmethod
    cases hmethod
    obtain ⟨u, hassert, hrequest⟩ := hbind hrequest
    obtain ⟨data, rfl⟩ := assertDict_eq_ok hassert
    cases hrequest
    exact ⟨data, rfl⟩
  | createJsonWithAlias pointer aliasKey | updateTsp pointer tspId aliasKey =>
    obtain ⟨name, -, hmethod⟩ := hbind hmethod
    obtain ⟨value, -, hmethod⟩ := hbind hmethod
    cases hmethod
    obtain ⟨u, hassert, hrequest⟩ := hbind hrequest
    obtain ⟨data, rfl⟩ := assertDict_eq_ok hassert
    cases hrequest
    exact ⟨data, rfl⟩
  | creatingPointers | createDidForPointer | removeDidPointer | removePointer | createXmlWithContent
  | createXmlWithAlias | readTrustList | readVc | removeTrustList | publishTsp | deleteTsp => cases hs

end Methods

/-! ## Scenarios -/

/-- A line of a scenario: the aliases that it finds, its text, and the text below it. -/
structure Line (D : Type) where
  aliases : Aliases D
  text : String
  content : Option String

/-- The line reads as the sentence, and no step that matches it is registered before the sentence's. -/
structure Line.Means (registered : List StepDefinition) (line : Line D) (s : Sentence) : Prop where
  written : s.WrittenAs line.text
  content : s.Reads line.content
  first : First registered s.step line.text

/-- The runner on lines of one scenario; the first that raises is the last one that is run. -/
def scenario (world : World D) (service : Service K (Payload D) σ) (registered : List StepDefinition)
    (lines : List (Line D)) : StepM K (Payload D) σ Unit :=
  lines.forM fun line => runLine world service registered line.aliases line.text line.content

/-- The method that a line calls, by the sentence it says. -/
def methodOf (world : World D) (server : Server) (line : Line D × Sentence) :
    Except StepError (Method (Payload D)) :=
  line.2.method world server line.1.aliases

section Scenario

variable {registered : List StepDefinition} {lines : List (Line D × Sentence)}

/-- Lines are run as the sentences that they read as. -/
theorem scenario_eq (world : World D) (service : Service K (Payload D) σ)
    (hperm : registered.Perm (declared .when)) (hmeans : ∀ line ∈ lines, line.1.Means registered line.2) :
    scenario world service registered (lines.map Prod.fst) =
      lines.forM fun line => line.2.run world service line.1.aliases := by
  induction lines with
  | nil => rfl
  | cons line lines ih =>
    rw [List.forall_mem_cons] at hmeans
    have hstep : line.2.step ∈ registered := hperm.symm.subset line.2.step_mem_declared
    have hfirst := hmeans.1.written.runLine_eq hmeans.1.content world service line.1.aliases hstep
      hmeans.1.first
    show (runLine world service registered line.1.aliases line.1.text line.1.content >>= fun _ =>
      scenario world service registered (lines.map Prod.fst)) = _
    rw [hfirst, ih hmeans.2]
    rfl

variable {context : Context K (Payload D) σ} {server : Server} {keycloak : K}

/-- They call the methods of these sentences up to the first that calls none. -/
theorem sentences_call (world : World D) (service : Service K (Payload D) σ)
    (lines : List (Line D × Sentence)) (hserver : context.tspaServer = some (server, keycloak)) :
    (lines.forM fun line => line.2.run world service line.1.aliases) context =
      ((readings (lines.map (methodOf world server))).forM (keepAnswer service keycloak) >>= fun _ =>
        MonadExcept.ofExcept ((lines.mapM (methodOf world server)).map fun _ => ⟨⟩)) context := by
  refine @forM_read_act _ _ _ _ _ _ _ (fun context => context.tspaServer = some (server, keycloak))
    ?_ ?_ _ _ hserver
  · intro line context h
    exact Sentence.run_eq h line.2
  · intro method context context' h hkept
    obtain ⟨response, s', -, rfl⟩ := keepAnswer_eq_ok_iff.1 hkept
    exact h

/-- **From a scenario to the wire**: lines that read as sentences call the methods of these sentences, up
    to the first that calls none.  If the service answers, the scenario raises what that line raises, and
    has sent the request of each method, in order and nothing else.  Else it stops with what is raised on
    the way to the first answer that is missing, and no method behind that one has sent anything.  Trust
    lists in JSON and updates are dictionaries. -/
theorem scenario_sends_requests (world : World D) (service : Service K (Payload D) σ)
    (hperm : registered.Perm (declared .when)) (hmeans : ∀ line ∈ lines, line.1.Means registered line.2)
    (hserver : context.tspaServer = some (server, keycloak)) :
    let run := scenario world service registered (lines.map Prod.fst)
    let methods := readings (lines.map (methodOf world server))
    (service.Answered keycloak methods context.world →
      outcome run context = (lines.mapM (methodOf world server)).map (fun _ => ()) ∧
        ∃ requests, methods.map Method.request = requests.map .ok ∧
          (left run context).sent = context.sent ++ requests) ∧
      (¬ service.Answered keycloak methods context.world →
        ∃ done failing rest requests e, methods = done ++ failing :: rest ∧
          service.Answered keycloak done context.world ∧
          (service.answer keycloak failing (after (service.next keycloak) context.world done)).1 =
            .error e ∧
          outcome run context = .error e ∧ done.map Method.request = requests.map .ok ∧
          (left run context).sent = context.sent ++ requests ++
            service.sends keycloak failing (after (service.next keycloak) context.world done)) ∧
      ∀ line ∈ lines, line.2.WantsDict → ∀ method request, methodOf world server line = .ok method →
        method.request = .ok request → ∃ data, request.body = .json (.value (.dict data)) := by
  intro run methods
  let called : StepM K (Payload D) σ Unit := methods.forM (keepAnswer service keycloak) >>= fun _ =>
    MonadExcept.ofExcept ((lines.mapM (methodOf world server)).map fun _ => ())
  have hrun : run context = called context :=
    (congrFun (scenario_eq world service hperm hmeans) context).trans
      (sentences_call world service lines hserver)
  have houtcome : outcome run context = outcome called context := outcome_congr hrun
  have hleft : left run context = left called context := left_congr hrun
  refine ⟨fun hanswered => ?_, fun hanswered => ?_, ?_⟩
  · obtain ⟨hcalled, requests, hrequests, hsent⟩ := keepAnswers_of_answered hanswered
    rw [houtcome, hleft, outcome_bind_ok hcalled, left_bind_ok hcalled, outcome_ofExcept, left_ofExcept]
    exact ⟨rfl, requests, hrequests, hsent⟩
  · obtain ⟨done, failing, rest, requests, e, hmethods, hdone, hanswer, hraised, hrequests, hsent⟩ :=
      keepAnswers_of_not_answered hanswered
    refine ⟨done, failing, rest, requests, e, hmethods, hdone, hanswer, ?_, hrequests, ?_⟩
    · rw [houtcome, outcome_bind_error hraised]
    · rw [hleft, left_bind_error hraised, hsent]
  · intro line _ hwants method request hmethod hrequest
    exact Sentence.dict_of_request hwants hmethod hrequest

end Scenario

/-- A TSPA that answers with a status. -/
def quietService : Service Unit (Payload Unit) Unit where
  updateHeader _ _ state := (.ok (), state)
  exchange _ state := (.ok ⟨200, "", none⟩, state)

def quietWorld : World Unit where
  loads text := .ok (.text text)
  replaceAliasPlaceholder data _ := .ok data
  print _ := "an object"

/-- The TSP is a text where it should be a dictionary. -/
def textAliases : Aliases Unit
  | "alice" => some (.text "alice.trust.train1.xfsc.dev")
  | "TSP-A" => some (.text "42")
  | _ => none

def createAlice : Line Unit := ⟨textAliases, "TSPA create pointer alice", none⟩

def updateAlice : Line Unit := ⟨textAliases, "Update TSP pointer/tsp_id alice/42 with TSP-A", none⟩

theorem createAlice_writtenAs : (Sentence.creatingPointers "alice").WrittenAs createAlice.text := by
  refine ⟨⟨[("alice".toList, [])], ⟨⟨"TSPA create pointer ".toList, by decide, ?_⟩, ?_, by decide⟩,
    rfl, by decide⟩, ?_⟩
  · rw [Sentence.format_creatingPointers]
    decide
  · rw [Sentence.format_creatingPointers]
    decide
  · rintro _ ⟨⟩
    rw [IsAlias, ← Regex.accepts_iff]
    decide +kernel

theorem createAlice_not_ambiguous : ¬ Ambiguous .when createAlice.text := by
  unfold Ambiguous overlaps foldSentence createAlice
  repeat rw [toList_of_ofList rfl]
  decide +kernel

def threeLines : List (Line Unit × Sentence) := [
  (createAlice, .creatingPointers "alice"),
  (updateAlice, .updateTsp "alice" "42" "TSP-A"),
  (createAlice, .creatingPointers "alice")]

/-- The second line raises, so the third is not run. -/
theorem scenario_sends_requests_threeLines :
    let start : Context Unit (Payload Unit) Unit := { world := (), tspaServer := some (localServer, ()) }
    let run := scenario quietWorld quietService (declared .when) (threeLines.map Prod.fst)
    outcome run start = .error (.assertionError "") ∧
      (left run start).sent = [localServer.createPointer "alice.trust.train1.xfsc.dev"] := by
  intro start run
  have hperm : (declared .when).Perm (declared .when) := .refl _
  have hcreate : createAlice.Means (declared .when) (.creatingPointers "alice") :=
    ⟨createAlice_writtenAs, trivial, first_of_not_ambiguous (Sentence.step_mem_declared _)
      createAlice_writtenAs.runsOn createAlice_not_ambiguous hperm⟩
  have hwritten : (Sentence.updateTsp "alice" "42" "TSP-A").WrittenAs updateAlice.text := by
    refine ⟨⟨_, updateTsp_written, by decide, by decide⟩, ?_⟩
    rintro _ ⟨⟩
  have hupdate : updateAlice.Means (declared .when) (.updateTsp "alice" "42" "TSP-A") :=
    ⟨hwritten, trivial, first_of_not_ambiguous (Sentence.step_mem_declared _) hwritten.runsOn
      updateTsp_not_ambiguous hperm⟩
  have hmean : ∀ line ∈ threeLines, line.1.Means (declared .when) line.2 := by
    rw [threeLines, List.forall_mem_cons, List.forall_mem_cons, List.forall_mem_singleton]
    exact ⟨hcreate, hupdate, hcreate⟩
  have hstart : start.tspaServer = some (localServer, ()) := rfl
  obtain ⟨-, hraises, -⟩ := scenario_sends_requests quietWorld quietService hperm hmean hstart
  have hnot : ¬ quietService.Answered ()
      (readings (threeLines.map (methodOf quietWorld localServer))) () := by
    rintro ⟨-, ⟨_, hupdated⟩, -⟩
    cases hupdated
  obtain ⟨done, failing, rest, requests, e, hmethods, hdone, hfails, hraised, hrequests, hsent⟩ :=
    hraises hnot
  cases done with
  | nil =>
    cases hmethods
    cases hfails
  | cons created done =>
    cases done with
    | nil =>
      cases hmethods
      cases hfails
      obtain ⟨request, rfl, hrequest⟩ := List.map_eq_singleton_iff.1 hrequests.symm
      cases hrequest
      exact ⟨hraised, hsent⟩
    | cons updated done =>
      injection hmethods with _ hmethods
      injection hmethods with hsecond
      subst hsecond
      obtain ⟨-, ⟨_, hupdated⟩, -⟩ := hdone
      cases hupdated

end TrainBdd.Tspa
