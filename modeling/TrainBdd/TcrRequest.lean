/-
  The three request paths of `components/tcr/client/` carry THE SAME request.

  1. **`Request`** — what the resolver is asked, free of any encoding: the operation, the complete
     target URL, the issuer, the DID, and SETS of pointers, endpoint types and endpoints.

  2. **Readers** — one a path: the JSON body of a post, the `key=value` words of `BaseClient`, the
     `--option=value` words of `MinusMinusBaseClient`.  They are written from the receiving side:
     members and options are found by name, an unknown name or a repeated set element is refused.

  3. **Round trips** — each reader recovers the request from what its path sends, if the shell hands
     the words over intact.

  4. **Theorem** — for quote-free inputs the three paths agree EXACTLY when the host, which is quoted
     like everything else, has no single quote either (`requestPaths_agree_iff`).  One direction is the
     round trips; for the other the FIRST word alone settles it: a host has no blanks, so the word is
     complete at the first one, and a removed quote leaves it too short.
-/
import TrainBdd.TcrArguments
import TrainBdd.Lib.Text
import Mathlib.Data.Finset.Dedup
import Mathlib.Data.Finset.Insert

namespace TrainBdd.Tcr

open Python Shell Text

/-! ## Requests -/

inductive Operation
  | resolve
  | validate
deriving DecidableEq, Repr

def Operation.name : Operation → String
  | .resolve => "resolve"
  | .validate => "validate"

def Operation.ofName? (name : String) : Option Operation :=
  [Operation.resolve, .validate].find? (·.name = name)

/-- The URL of an operation under a base URI. -/
def target (uri : String) (operation : Operation) : String := uri ++ "/" ++ operation.name

structure Request where
  operation : Operation
  url : String
  issuer : Issuer
  did : Option Did
  pointers : Finset TrustFrameworkPointer
  endpointTypes : Option (Finset String)
  endpoints : Finset String
deriving DecidableEq

/-- A set that is left out when it is empty. -/
def unlessEmpty (xs : Finset String) : Option (Finset String) := if xs = ∅ then none else some xs

/-- What a resolve call asks for. -/
def resolveRequest (client : Client) (issuer : Issuer) (pointers : PySet TrustFrameworkPointer)
    (endpointTypes : Option EndpointTypes) : Request where
  operation := .resolve
  url := target client.uri .resolve
  issuer := issuer
  did := none
  pointers := pointers.elems.toFinset
  endpointTypes := unlessEmpty (sentTypes endpointTypes).toFinset
  endpoints := ∅

/-- What a validate call asks for. -/
def validateRequest (client : Client) (issuer : Issuer) (did : Did) (endpoints : PySet String) :
    Request where
  operation := .validate
  url := target client.uri .validate
  issuer := issuer
  did := some did
  pointers := ∅
  endpointTypes := none
  endpoints := endpoints.elems.toFinset

/-! ## Readers -/

/-- A list in which every element stands once. -/
def readSet (xs : List String) : Option (Finset String) := if xs.Nodup then some xs.toFinset else none

def readString : Json.Value → Option String
  | .str s => some s
  | _ => none

def readStrings : Json.Value → Option (List String)
  | .arr vs => vs.mapM readString
  | _ => none

/-- A member that may be missing. -/
def optionally {α β : Type} (read : α → Option β) : Option α → Option (Option β)
  | none => some none
  | some a => (read a).map some

/-- The members an operation's body may have. -/
def Operation.members : Operation → List String
  | .resolve => ["issuer", "trustSchemePointers", "endpointTypes"]
  | .validate => ["issuer", "did", "endpoints"]

/-- The request in a JSON body. -/
def readBody (operation : Operation) (url : String) : Json.Value → Option Request
  | .obj ms => do
    guard ((ms.map (·.1)).Nodup ∧ ∀ m ∈ ms, m.1 ∈ operation.members)
    let issuer ← (ms.lookup "issuer").bind readString
    match operation with
    | .resolve =>
      let pointers ← ((ms.lookup "trustSchemePointers").bind readStrings).bind readSet
      let endpointTypes ← optionally (readStrings · >>= readSet) (ms.lookup "endpointTypes")
      return ⟨operation, url, issuer, none, pointers, endpointTypes, ∅⟩
    | .validate =>
      let did ← (ms.lookup "did").bind readString
      let endpoints ← ((ms.lookup "endpoints").bind readStrings).bind readSet
      return ⟨operation, url, issuer, some did, ∅, none, endpoints⟩
  | _ => none

/-- The operation a URL ends in. -/
def operationOf? (url : String) : Option Operation :=
  [Operation.resolve, .validate].find? fun operation =>
    ("/" ++ operation.name).toList.isSuffixOf url.toList

/-- The request in a post. -/
def readPost (post : Post) : Option Request := do
  let operation ← operationOf? post.url
  let value ← Json.loads post.body
  readBody operation post.url value

/-- A word split at its first `=`. -/
def keyValue (word : String) : Option (String × String) :=
  match Text.cut '=' word.toList with
  | (_, none) => none
  | (key, some value) => some (String.ofList key, String.ofList value)

/-- The value of a word with the given key. -/
def valueOf (key word : String) : Option String :=
  (keyValue word).bind fun (k, v) => if k = key then some v else none

/-- The request in the words of `BaseClient`. -/
def readWords : List String → Option Request
  | [first, second, third] => do
    let uri ← valueOf "uri" first
    let operation ← (valueOf "endpoint" second).bind Operation.ofName?
    let value ← (valueOf "data" third).bind Json.loads
    readBody operation (target uri operation) value
  | _ => none

/-- The options an operation knows. -/
def Operation.options : Operation → List String
  | .resolve => ["--uri", "--issuer", "--trust-scheme-pointer", "--endpoint-type"]
  | .validate => ["--uri", "--issuer", "--did", "--endpoint"]

/-- All values of one option, in order. -/
def valuesOf (key : String) (options : List (String × String)) : List String :=
  (options.filter (·.1 = key)).map (·.2)

/-- The value of an option that is given once. -/
def only : List String → Option String
  | [v] => some v
  | _ => none

/-- The request in the words of `MinusMinusBaseClient`. -/
def readOptions : List String → Option Request
  | [] => none
  | first :: rest => do
    let operation ← Operation.ofName? first
    let options ← rest.mapM keyValue
    guard (∀ o ∈ options, o.1 ∈ operation.options)
    let uri ← only (valuesOf "--uri" options)
    let issuer ← only (valuesOf "--issuer" options)
    match operation with
    | .resolve =>
      let pointers ← readSet (valuesOf "--trust-scheme-pointer" options)
      let endpointTypes ← readSet (valuesOf "--endpoint-type" options)
      return ⟨operation, target uri operation, issuer, none, pointers, unlessEmpty endpointTypes, ∅⟩
    | .validate =>
      let did ← only (valuesOf "--did" options)
      let endpoints ← readSet (valuesOf "--endpoint" options)
      return ⟨operation, target uri operation, issuer, some did, ∅, none, endpoints⟩

/-- What a reader recovers from a command line, if it is a list of words. -/
def recovered (read : List String → Option Request) (line : String) : Option Request :=
  (shellWords line).toOption.bind read

/-! ## Reading JSON bodies -/

theorem readSet_elems (xs : PySet String) : readSet xs.elems = some xs.elems.toFinset :=
  if_pos xs.nodup

theorem nodup_sentTypes (endpointTypes : Option EndpointTypes) : (sentTypes endpointTypes).Nodup := by
  cases endpointTypes with
  | none => exact List.nodup_nil
  | some types => exact types.nodup

theorem readSet_sentTypes (endpointTypes : Option EndpointTypes) :
    readSet (sentTypes endpointTypes) = some (sentTypes endpointTypes).toFinset :=
  if_pos (nodup_sentTypes endpointTypes)

theorem readStrings_arr (xs : List String) : readStrings (.arr (xs.map .str)) = some xs := by
  show (xs.map Json.Value.str).mapM readString = some xs
  induction xs with
  | nil => rfl
  | cons x xs ih =>
    rw [List.map_cons, List.mapM_cons, ih]
    rfl

theorem readBody_payload (client : Client) (issuer : Issuer) (pointers : PySet TrustFrameworkPointer)
    (endpointTypes : Option EndpointTypes) :
    readBody .resolve (target client.uri .resolve) (Client.payload issuer pointers endpointTypes) =
      some (resolveRequest client issuer pointers endpointTypes) := by
  rw [payload_eq]
  by_cases h : sentTypes endpointTypes = []
  · have hnone : unlessEmpty ∅ = none := rfl
    simp [readBody, h, Operation.members, List.lookup_cons, readString, Client.listed, readStrings_arr,
      readSet_elems, optionally, resolveRequest, hnone, guard]
  · have hsome : unlessEmpty (sentTypes endpointTypes).toFinset =
        some (sentTypes endpointTypes).toFinset := by
      unfold unlessEmpty
      rw [if_neg fun hempty => h ((List.toFinset_eq_empty_iff _).mp hempty)]
    simp [readBody, h, Operation.members, List.lookup_cons, readString, Client.listed, readStrings_arr,
      readSet_elems, readSet_sentTypes, optionally, resolveRequest, hsome, guard]

theorem readBody_validatePayload (client : Client) (issuer : Issuer) (did : Did)
    (endpoints : PySet String) :
    readBody .validate (target client.uri .validate) (Client.validatePayload issuer did endpoints) =
      some (validateRequest client issuer did endpoints) := by
  simp [readBody, Client.validatePayload, Operation.members, List.lookup_cons, readString,
    Client.listed, readStrings_arr, readSet_elems, validateRequest, guard]

/-! ## Reading words -/

/-- **A word splits at the first `=`**, wherever else the value has one. -/
theorem keyValue_append {key : String} (hkey : '=' ∉ key.toList) (value : String) :
    keyValue (key ++ "=" ++ value) = some (key, value) := by
  have hcut : Text.cut '=' (key ++ "=" ++ value).toList = (key.toList, some value.toList) := by
    rw [String.toList_append, String.toList_append, List.append_assoc]
    exact Text.cut_append hkey value.toList
  rw [keyValue, hcut]
  simp

theorem valueOf_append {key : String} (hkey : '=' ∉ key.toList) (value : String) :
    valueOf key (key ++ "=" ++ value) = some value := by
  rw [valueOf, keyValue_append hkey]
  exact if_pos rfl

/-- A word with a value under `key` is `key=value`. -/
theorem eq_of_valueOf {key word value : String} (h : valueOf key word = some value) :
    word = key ++ "=" ++ value := by
  obtain ⟨⟨k, v⟩, hsplit, hval⟩ := Option.bind_eq_some_iff.mp h
  have hkv : (if k = key then some v else none) = some value := hval
  split at hkv
  · next hk =>
    obtain rfl := Option.some.inj hkv
    subst hk
    unfold keyValue at hsplit
    split at hsplit
    · nomatch hsplit
    · next pre post hcut =>
      obtain ⟨rfl, rfl⟩ := Prod.mk.inj (Option.some.inj hsplit)
      rw [← String.toList_inj, Text.eq_of_cut hcut]
      simp
  · nomatch hkv

theorem readWords_words (client : Client) (command : String → String) {operation : Operation}
    {value : Json.Value} :
    readWords (BaseClient.words ⟨client, command⟩ operation.name (Json.dumps value)) =
      readBody operation (target client.uri operation) value := by
  have huri : valueOf "uri" ("uri=" ++ client.uri) = some client.uri :=
    valueOf_append (by decide) client.uri
  have hop : valueOf "endpoint" ("endpoint=" ++ operation.name) = some operation.name :=
    valueOf_append (by decide) operation.name
  have hdata : valueOf "data" ("data=" ++ Json.dumps value) = some (Json.dumps value) :=
    valueOf_append (by decide) (Json.dumps value)
  have hname : Operation.ofName? operation.name = some operation := by
    cases operation with
    | resolve => decide
    | validate => decide
  show readWords ["uri=" ++ client.uri, "endpoint=" ++ operation.name, "data=" ++ Json.dumps value] = _
  simp only [readWords, huri, hop, hdata, hname, Json.loads_dumps, Option.bind_some, Option.bind_eq_bind]

/-! ## Reading options -/

/-- The word of an option. -/
def optionWord (o : String × String) : String := o.1 ++ "=" ++ o.2

/-- One option for each value. -/
def eachOption (key : String) (values : List String) : List (String × String) := values.map (key, ·)

theorem mapM_keyValue {options : List (String × String)} (h : ∀ o ∈ options, '=' ∉ o.1.toList) :
    (options.map optionWord).mapM keyValue = some options := by
  induction options with
  | nil => rfl
  | cons o options ih =>
    have ho : keyValue (optionWord o) = some o := keyValue_append (h o List.mem_cons_self) o.2
    rw [List.map_cons, List.mapM_cons, ho, ih fun p hp => h p (List.mem_cons_of_mem o hp)]
    rfl

@[simp] theorem valuesOf_nil (key : String) : valuesOf key [] = [] := rfl

@[simp] theorem valuesOf_cons (key : String) (o : String × String) (os : List (String × String)) :
    valuesOf key (o :: os) = if o.1 = key then o.2 :: valuesOf key os else valuesOf key os := by
  unfold valuesOf
  by_cases h : o.1 = key
  · simp [h]
  · simp [h]

@[simp] theorem valuesOf_append (key : String) (os ps : List (String × String)) :
    valuesOf key (os ++ ps) = valuesOf key os ++ valuesOf key ps := by
  unfold valuesOf
  rw [List.filter_append, List.map_append]

@[simp] theorem valuesOf_eachOption (key other : String) (values : List String) :
    valuesOf key (eachOption other values) = if other = key then values else [] := by
  induction values with
  | nil => exact (ite_self []).symm
  | cons v values ih =>
    show valuesOf key ((other, v) :: eachOption other values) = _
    rw [valuesOf_cons, ih]
    by_cases h : other = key
    · simp [h]
    · simp [h]

/-- The options of a resolve call. -/
def resolveOptions (client : Client) (issuer : Issuer) (pointers : PySet TrustFrameworkPointer)
    (endpointTypes : Option EndpointTypes) : List (String × String) :=
  [("--uri", client.uri), ("--issuer", issuer)] ++
    eachOption "--trust-scheme-pointer" pointers.elems ++
    eachOption "--endpoint-type" (sentTypes endpointTypes)

/-- The options of a validate call. -/
def validateOptions (client : Client) (issuer : Issuer) (did : Did) (endpoints : PySet String) :
    List (String × String) :=
  [("--uri", client.uri), ("--issuer", issuer), ("--did", did)] ++
    eachOption "--endpoint" endpoints.elems

theorem resolveWords_eq (self : MinusMinusBaseClient) (issuer : Issuer)
    (pointers : PySet TrustFrameworkPointer) (endpointTypes : Option EndpointTypes) :
    self.resolveWords issuer pointers endpointTypes =
      "resolve" :: (resolveOptions self.toClient issuer pointers endpointTypes).map optionWord := by
  unfold MinusMinusBaseClient.resolveWords resolveOptions eachOption
  rw [List.map_append, List.map_append, List.map_map, List.map_map]
  rfl

theorem validateWords_eq (self : MinusMinusBaseClient) (issuer : Issuer) (did : Did)
    (endpoints : PySet String) :
    self.validateWords issuer did endpoints =
      "validate" :: (validateOptions self.toClient issuer did endpoints).map optionWord := by
  unfold MinusMinusBaseClient.validateWords validateOptions eachOption
  rw [List.map_append, List.map_map]
  rfl

theorem mem_eachOption {key : String} {values : List String} {o : String × String}
    (h : o ∈ eachOption key values) : o.1 = key := by
  obtain ⟨v, -, rfl⟩ := List.mem_map.mp h
  rfl

/-- The options of a resolve call are its own. -/
theorem resolveOptions_known {client : Client} {issuer : Issuer}
    {pointers : PySet TrustFrameworkPointer} {endpointTypes : Option EndpointTypes} :
    ∀ o ∈ resolveOptions client issuer pointers endpointTypes, o.1 ∈ Operation.resolve.options := by
  intro o ho
  simp only [resolveOptions, List.mem_append, List.mem_cons, List.not_mem_nil, or_false] at ho
  rcases ho with ((rfl | rfl) | ho) | ho
  · show "--uri" ∈ _
    decide
  · show "--issuer" ∈ _
    decide
  · rw [mem_eachOption ho]
    decide
  · rw [mem_eachOption ho]
    decide

theorem validateOptions_known {client : Client} {issuer : Issuer} {did : Did}
    {endpoints : PySet String} :
    ∀ o ∈ validateOptions client issuer did endpoints, o.1 ∈ Operation.validate.options := by
  intro o ho
  simp only [validateOptions, List.mem_append, List.mem_cons, List.not_mem_nil, or_false] at ho
  rcases ho with (rfl | rfl | rfl) | ho
  · show "--uri" ∈ _
    decide
  · show "--issuer" ∈ _
    decide
  · show "--did" ∈ _
    decide
  · rw [mem_eachOption ho]
    decide

/-- No option's name has an `=`. -/
theorem noEquals_of_known (operation : Operation) {key : String} (h : key ∈ operation.options) :
    '=' ∉ key.toList := by
  cases operation with
  | resolve =>
    revert key
    decide
  | validate =>
    revert key
    decide

theorem readOptions_resolveWords (self : MinusMinusBaseClient) (issuer : Issuer)
    (pointers : PySet TrustFrameworkPointer) (endpointTypes : Option EndpointTypes) :
    readOptions (self.resolveWords issuer pointers endpointTypes) =
      some (resolveRequest self.toClient issuer pointers endpointTypes) := by
  have hknown := @resolveOptions_known self.toClient issuer pointers endpointTypes
  have hname : Operation.ofName? "resolve" = some .resolve := by decide
  have hguard : (guard (∀ o ∈ resolveOptions self.toClient issuer pointers endpointTypes,
      o.1 ∈ Operation.resolve.options) : Option Unit) = some () := if_pos hknown
  have huri : valuesOf "--uri" (resolveOptions self.toClient issuer pointers endpointTypes) =
      [self.uri] := by
    simp [resolveOptions]
  have hissuer : valuesOf "--issuer" (resolveOptions self.toClient issuer pointers endpointTypes) =
      [issuer] := by
    simp [resolveOptions]
  have hpointers : valuesOf "--trust-scheme-pointer"
      (resolveOptions self.toClient issuer pointers endpointTypes) = pointers.elems := by
    simp [resolveOptions]
  have htypes : valuesOf "--endpoint-type"
      (resolveOptions self.toClient issuer pointers endpointTypes) = sentTypes endpointTypes := by
    simp [resolveOptions]
  rw [resolveWords_eq, readOptions, hname,
    mapM_keyValue fun o ho => noEquals_of_known .resolve (hknown o ho)]
  simp only [Option.bind_eq_bind, Option.bind_some, hguard, huri, hissuer, hpointers, htypes, only,
    readSet_elems, readSet_sentTypes]
  rfl

theorem readOptions_validateWords (self : MinusMinusBaseClient) (issuer : Issuer) (did : Did)
    (endpoints : PySet String) :
    readOptions (self.validateWords issuer did endpoints) =
      some (validateRequest self.toClient issuer did endpoints) := by
  have hknown := @validateOptions_known self.toClient issuer did endpoints
  have hname : Operation.ofName? "validate" = some .validate := by decide
  have hguard : (guard (∀ o ∈ validateOptions self.toClient issuer did endpoints,
      o.1 ∈ Operation.validate.options) : Option Unit) = some () := if_pos hknown
  have huri : valuesOf "--uri" (validateOptions self.toClient issuer did endpoints) =
      [self.uri] := by
    simp [validateOptions]
  have hissuer : valuesOf "--issuer" (validateOptions self.toClient issuer did endpoints) =
      [issuer] := by
    simp [validateOptions]
  have hdid : valuesOf "--did" (validateOptions self.toClient issuer did endpoints) = [did] := by
    simp [validateOptions]
  have hendpoints : valuesOf "--endpoint"
      (validateOptions self.toClient issuer did endpoints) = endpoints.elems := by
    simp [validateOptions]
  rw [validateWords_eq, readOptions, hname,
    mapM_keyValue fun o ho => noEquals_of_known .validate (hknown o ho)]
  simp only [Option.bind_eq_bind, Option.bind_some, hguard, huri, hissuer, hdid, hendpoints, only,
    readSet_elems]
  rfl

/-! ## Exactly when the paths agree -/

theorem operationOf?_target (uri : String) (operation : Operation) :
    operationOf? (target uri operation) = some operation := by
  have hself : ("/" ++ operation.name).toList.isSuffixOf (target uri operation).toList = true := by
    rw [List.isSuffixOf_iff_suffix, target]
    exact ⟨uri.toList, by simp⟩
  have hother : ¬ ("/" ++ Operation.resolve.name).toList <:+ (target uri .validate).toList := by
    rintro ⟨pre, h⟩
    -- the last two letters of the operations differ
    have hrev := congrArg (fun cs => cs.reverse.take 2) h
    simp [target, Operation.name] at hrev
  cases operation with
  | resolve => exact List.find?_cons_of_pos hself
  | validate =>
    have hskip : ("/" ++ Operation.resolve.name).toList.isSuffixOf (target uri .validate).toList =
        false := Bool.eq_false_iff.mpr (List.isSuffixOf_iff_suffix.not.mpr hother)
    unfold operationOf?
    simp only [List.find?_cons, hself, hskip]

/-- The direct path sends its request, whatever the strings are. -/
theorem readPost_resolve (client : Client) (issuer : Issuer) (pointers : PySet TrustFrameworkPointer)
    (endpointTypes : Option EndpointTypes) :
    readPost (client.resolve issuer pointers endpointTypes) =
      some (resolveRequest client issuer pointers endpointTypes) := by
  have hurl : (client.resolve issuer pointers endpointTypes).url = target client.uri .resolve := by
    rw [target, String.append_assoc]
    rfl
  rw [readPost, hurl, operationOf?_target, Post.body, Json.loads_dumps]
  exact readBody_payload client issuer pointers endpointTypes

theorem readPost_tcrValidate (client : Client) (issuer : Issuer) (did : Did)
    (endpoints : PySet String) :
    readPost (client.tcrValidate issuer did endpoints) =
      some (validateRequest client issuer did endpoints) := by
  have hurl : (client.tcrValidate issuer did endpoints).url = target client.uri .validate := by
    rw [target, String.append_assoc]
    rfl
  rw [readPost, hurl, operationOf?_target, Post.body, Json.loads_dumps]
  exact readBody_validatePayload client issuer did endpoints

theorem recovered_of_words {read : List String → Option Request} {line : String}
    {words : List String} (h : shellWords line = .ok words) : recovered read line = read words := by
  rw [recovered, h]
  rfl

/-- A body is read into a request for the operation and URL it came with. -/
theorem operation_url_of_readBody {operation : Operation} {url : String} {value : Json.Value}
    {request : Request} (h : readBody operation url value = some request) :
    request.operation = operation ∧ request.url = url := by
  cases value with
  | str s => nomatch h
  | arr vs => nomatch h
  | obj ms =>
    simp only [readBody, Option.bind_eq_bind, Option.bind_eq_some_iff] at h
    obtain ⟨-, -, issuer, -, h⟩ := h
    cases operation with
    | resolve =>
      simp only [Option.bind_eq_some_iff] at h
      obtain ⟨pointers, -, endpointTypes, -, h⟩ := h
      obtain rfl := Option.some.inj h
      exact ⟨rfl, rfl⟩
    | validate =>
      simp only [Option.bind_eq_some_iff] at h
      obtain ⟨did, -, endpoints, -, h⟩ := h
      obtain rfl := Option.some.inj h
      exact ⟨rfl, rfl⟩

/-- The first of `BaseClient`'s words is the target's base. -/
theorem first_of_readWords {words : List String} {request : Request}
    (h : readWords words = some request) :
    ∃ uri rest, words = ("uri" ++ "=" ++ uri) :: rest ∧
      request.url = target uri request.operation := by
  unfold readWords at h
  split at h
  · next first second third =>
    simp only [Option.bind_eq_bind, Option.bind_eq_some_iff] at h
    obtain ⟨uri, huri, operation, -, value, -, hbody⟩ := h
    obtain ⟨rfl, hurl⟩ := operation_url_of_readBody hbody
    rw [eq_of_valueOf huri]
    exact ⟨uri, [second, third], rfl, hurl⟩
  · nomatch h

/-- The URI of a client has no blank: a host is printed without, and the version is a constant. -/
theorem noBlank_uri (client : Client) : ' ' ∉ client.uri.toList ∧ '\t' ∉ client.uri.toList := by
  have hversion : ' ' ∉ VERSION.toList ∧ '\t' ∉ VERSION.toList := by decide
  unfold Client.uri
  rw [String.toList_append, List.mem_append, List.mem_append, not_or, not_or]
  refine ⟨⟨fun h => ?_, hversion.1⟩, fun h => ?_, hversion.2⟩
  · exact absurd (client.host.urlChar_of_mem_str h) (by decide)
  · exact absurd (client.host.urlChar_of_mem_str h) (by decide)

/-- **The first word tells**: a request recovered for the client's own URL needs a host without a
    single quote. -/
theorem noQuote_host_of_recovered {base : BaseClient} {operation : Operation} {dump : String}
    {request : Request}
    (h : recovered readWords (joined (base.args operation.name dump)) = some request)
    (hoperation : request.operation = operation) (hurl : request.url = target base.uri operation) :
    NoQuote base.host.str := by
  unfold recovered at h
  cases hwords : shellWords (joined (base.args operation.name dump)) with
  | error e =>
    rw [hwords] at h
    nomatch h
  | ok words =>
    rw [hwords] at h
    obtain ⟨uri, rest, rfl, htarget⟩ := first_of_readWords h
    have huri : uri = base.uri := by
      rw [hoperation, hurl] at htarget
      unfold target at htarget
      simpa using htarget.symm
    subst huri
    have hfree : (Arg.quoted "uri=" base.uri).QuoteFree :=
      quoteFree_of_first_word (fun v hv => Option.some.inj hv ▸ noBlank_uri base.toClient) hwords
    rwa [quoteFree_quoted_iff, noQuote_uri_iff] at hfree

/-- **The three paths carry the same request** — of resolve and of validate, for strings without a
    single quote — exactly when the host has no single quote: the issuer, the DID and every set
    element arrive unchanged and once, and endpoint types are absent for `None` and the empty set. -/
theorem requestPaths_agree_iff (client : Client) (command : String → String) (issuer : Issuer)
    (did : Did) (pointers : PySet TrustFrameworkPointer) (endpointTypes : Option EndpointTypes)
    (endpoints : PySet String) (hissuer : NoQuote issuer) (hdid : NoQuote did)
    (hpointers : ∀ p ∈ pointers, NoQuote p) (htypes : ∀ t ∈ sentTypes endpointTypes, NoQuote t)
    (hendpoints : ∀ e ∈ endpoints, NoQuote e) :
    let base : BaseClient := ⟨client, command⟩
    let minusMinus : MinusMinusBaseClient := ⟨base⟩
    (readPost (client.resolve issuer pointers endpointTypes) =
          some (resolveRequest client issuer pointers endpointTypes) ∧
        recovered readWords (base.resolveArguments issuer pointers endpointTypes) =
          some (resolveRequest client issuer pointers endpointTypes) ∧
        recovered readOptions (minusMinus.resolveArguments issuer pointers endpointTypes) =
          some (resolveRequest client issuer pointers endpointTypes) ↔
      NoQuote client.host.str) ∧
    (readPost (client.tcrValidate issuer did endpoints) =
          some (validateRequest client issuer did endpoints) ∧
        recovered readWords (base.validateArguments issuer did endpoints) =
          some (validateRequest client issuer did endpoints) ∧
        recovered readOptions (minusMinus.validateArguments issuer did endpoints) =
          some (validateRequest client issuer did endpoints) ↔
      NoQuote client.host.str) := by
  intro base minusMinus
  constructor
  · have hread := @readWords_words client command .resolve
      (Client.payload issuer pointers endpointTypes)
    rw [readBody_payload client issuer pointers endpointTypes] at hread
    constructor
    · -- the command line of `BaseClient` is enough to tell
      rintro ⟨-, hwords, -⟩
      rw [base.resolveArguments_eq_joined] at hwords
      exact @noQuote_host_of_recovered base .resolve _ _ hwords rfl rfl
    · intro hhost
      have hwords := (base.shellWords_resolveArguments_iff issuer pointers endpointTypes).mpr
        ⟨hhost, hissuer, hpointers, htypes⟩
      have hoptions := (minusMinus.shellWords_resolveArguments_iff issuer pointers endpointTypes).mpr
        ⟨hhost, hissuer, hpointers, htypes⟩
      refine ⟨readPost_resolve client issuer pointers endpointTypes, ?_, ?_⟩
      · rw [recovered_of_words hwords]
        exact hread
      · rw [recovered_of_words hoptions]
        exact readOptions_resolveWords minusMinus issuer pointers endpointTypes
  · have hread := @readWords_words client command .validate
      (Client.validatePayload issuer did endpoints)
    rw [readBody_validatePayload client issuer did endpoints] at hread
    constructor
    · rintro ⟨-, hwords, -⟩
      rw [base.validateArguments_eq_joined] at hwords
      exact @noQuote_host_of_recovered base .validate _ _ hwords rfl rfl
    · intro hhost
      have hwords := (base.shellWords_validateArguments_iff issuer did endpoints).mpr
        ⟨hhost, hissuer, hdid, hendpoints⟩
      have hoptions := (minusMinus.shellWords_validateArguments_iff issuer did endpoints).mpr
        ⟨hhost, hissuer, hdid, hendpoints⟩
      refine ⟨readPost_tcrValidate client issuer did endpoints, ?_, ?_⟩
      · rw [recovered_of_words hwords]
        exact hread
      · rw [recovered_of_words hoptions]
        exact readOptions_validateWords minusMinus issuer did endpoints

/-- The rule at work: quotes, a backslash, `$`, a backtick, blanks and a letter beyond ASCII. -/
theorem requestPaths_agree_localhost :
    let client : Client := ⟨localhost⟩
    let base : BaseClient := ⟨client, id⟩
    let issuer := "https://x/\"a\\ $b`\n\u00e9"
    let pointers : PySet TrustFrameworkPointer := ⟨["alice; reboot", "bob=#1"], by decide⟩
    recovered readWords (base.resolveArguments issuer pointers none) =
        some (resolveRequest client issuer pointers none) ∧
      recovered readOptions (MinusMinusBaseClient.validateArguments ⟨base⟩ issuer "did:web:x" pointers) =
        some (validateRequest client issuer "did:web:x" pointers) := by
  intro client base issuer pointers
  have hagree := requestPaths_agree_iff client id issuer "did:web:x" pointers none pointers (by decide)
    (by decide) (by decide) (by decide) (by decide)
  have hhost : NoQuote client.host.str := by decide
  exact ⟨(hagree.1.mpr hhost).2.1, (hagree.2.mpr hhost).2.2⟩

/-- A resolver under a path with an apostrophe, which a URL may have. -/
def underApostrophe : HttpUrl := .http "127.0.0.1:8087" ["o'k", ""]

/-- There the direct path sends its request and neither command line is a list of words. -/
theorem requestPaths_disagree_underApostrophe :
    let client : Client := ⟨underApostrophe⟩
    let base : BaseClient := ⟨client, id⟩
    let issuer := "https://www.federation1.com/"
    let pointers : PySet TrustFrameworkPointer := ⟨["alice.trust.train1.xfsc.dev"], by decide⟩
    client.host.str = "http://127.0.0.1:8087/o'k/" ∧
      readPost (client.resolve issuer pointers none) = some (resolveRequest client issuer pointers none) ∧
      recovered readWords (base.resolveArguments issuer pointers none) = none ∧
      recovered readOptions (MinusMinusBaseClient.resolveArguments ⟨base⟩ issuer pointers none) =
        none := by
  intro client base issuer pointers
  -- the JSON text ends up outside quotes, and its array opens a file name pattern
  have hbase : shellWords (base.resolveArguments issuer pointers none) = .error (.expansion '[') := by
    simp only [shellWords, BaseClient.resolveArguments, base, client, issuer, Client.uri, VERSION,
      underApostrophe, HttpUrl.http, HttpUrl.str, HttpUrl.path, Option.elim_none, List.map_cons,
      List.map_nil, Json.dumps, String.toList_intercalate, String.toList_append, String.toList_ofList]
    repeat rw [toList_of_ofList rfl]
    decide +kernel
  have hoptions : shellWords (MinusMinusBaseClient.resolveArguments ⟨base⟩ issuer pointers none) =
      .error .unterminated := by
    simp only [shellWords, MinusMinusBaseClient.resolveArguments, base, client, issuer, pointers,
      Client.uri, VERSION, underApostrophe, HttpUrl.http, HttpUrl.str, HttpUrl.path,
      Option.elim_none, Option.map_none, items_none, List.map_cons, List.map_nil, List.cons_append,
      List.nil_append, List.append_nil, String.toList_intercalate, String.toList_append]
    repeat rw [toList_of_ofList rfl]
    decide +kernel
  refine ⟨by decide, readPost_resolve client issuer pointers none, ?_, ?_⟩
  · rw [recovered, hbase]
    rfl
  · rw [recovered, hoptions]
    rfl

end TrainBdd.Tcr
