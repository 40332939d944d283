/-
  `components/tspa/` — the wrapper of the Trusted Service Provider API (TSPA): nine endpoint classes
  with a path template each, and the twelve operations of `Server` on top of them.

  1. **Endpoints** — every method formats its class's path and puts it behind the host as it is.

  2. **Operations** — `Server`'s methods, one endpoint call each.  `Operation.route` reads the request
     line off them: `request_eq_route`.

  3. **Distinct resources** — a request line names its resource as long as names have no slash, with
     THREE exceptions (`clashes`): templates that end with the name meet templates that begin with it,
     when the name is a literal of the other (`requestLine_eq_iff`).
     The proof compares templates first and names last: `same_shape` leaves five pairs of operations
     with one method and one length, and the filled segments decide those.
-/
import TrainBdd.HttpUrl
import TrainBdd.ResolveResponse
import TrainBdd.Lib.Uri

namespace TrainBdd.Tspa

open Uri

/-- The two constants that every path begins with, around `tspa`. -/
def PREFIX : String := "tspa-service"
def VERSION : String := "v1"

/-- The fields of the path templates, `{framework_name}` and `{id}`. -/
inductive Field
  | frameworkName
  | id
deriving DecidableEq, Repr

/-- The arguments of `.format`. -/
def fields (frameworkName : String) (id : String := "") : Field → String
  | .frameworkName => frameworkName
  | .id => id

variable {J : Type}

/-! ## The endpoints -/

/-- What every endpoint method does: `f"{self.host}{self.path.format(…)}"`, and the request. -/
def send (method : HttpMethod) (host : HttpUrl) (path : Template Field) (values : Field → String)
    (body : Body J) : HttpRequest J where
  method := method
  url := host.str ++ path.format values
  body := body

namespace TrustListEndpoint

/-- The trust list of a framework. -/
def path : Template Field :=
  [.lit PREFIX, .lit "tspa", .lit VERSION, .var .frameworkName, .lit "trust-list"]

def get (host : HttpUrl) (frameworkName : String) : HttpRequest J :=
  send .get host path (fields frameworkName) .empty

def delete (host : HttpUrl) (frameworkName : String) : HttpRequest J :=
  send .delete host path (fields frameworkName) .empty

end TrustListEndpoint

namespace TrustListTspEndpoint

/-- The providers on a framework's trust list. -/
def path : Template Field :=
  [.lit PREFIX, .lit "tspa", .lit VERSION, .var .frameworkName, .lit "trust-list", .lit "tsp"]

def put (host : HttpUrl) (frameworkName : String) (jsonData : J) : HttpRequest J :=
  send .put host path (fields frameworkName) (.json jsonData)

end TrustListTspEndpoint

namespace TrustListTspItemEndpoint

/-- One provider, by its id. -/
def path : Template Field :=
  [.lit PREFIX, .lit "tspa", .lit VERSION, .var .frameworkName, .lit "trust-list", .lit "tsp", .var .id]

def delete (host : HttpUrl) (tspId frameworkName : String) : HttpRequest J :=
  send .delete host path (fields frameworkName tspId) .empty

def patch (host : HttpUrl) (tspId frameworkName : String) (jsonData : J) : HttpRequest J :=
  send .patch host path (fields frameworkName tspId) (.json jsonData)

end TrustListTspItemEndpoint

namespace TrustListXmlEndpoint

/-- A new trust list in XML: here the name stands behind the format. -/
def path : Template Field :=
  [.lit PREFIX, .lit "tspa", .lit VERSION, .lit "init", .lit "xml", .var .frameworkName,
    .lit "trust-list"]

def put (host : HttpUrl) (frameworkName xmlData : String) : HttpRequest J :=
  send .put host path (fields frameworkName) (.data xmlData)

end TrustListXmlEndpoint

namespace TrustListJsonEndpoint

/-- A new trust list in JSON. -/
def path : Template Field :=
  [.lit PREFIX, .lit "tspa", .lit VERSION, .lit "init", .lit "json", .var .frameworkName,
    .lit "trust-list"]

def put (host : HttpUrl) (frameworkName : String) (jsonData : J) : HttpRequest J :=
  send .put host path (fields frameworkName) (.json jsonData)

end TrustListJsonEndpoint

namespace TrustListVcEndpoint

/-- The credential of a framework's trust list. -/
def path : Template Field :=
  [.lit PREFIX, .lit "tspa", .lit VERSION, .var .frameworkName, .lit "vc", .lit "trust-list"]

def get (host : HttpUrl) (frameworkName : String) : HttpRequest J :=
  send .get host path (fields frameworkName) .empty

end TrustListVcEndpoint

/-- The methods two endpoint classes inherit; their data is a dictionary `Server` builds. -/
def FrameworkNameItemEndpointHandler.put (path : Template Field) (host : HttpUrl)
    (frameworkName : String) (jsonData : Json.Value) : HttpRequest J :=
  send .put host path (fields frameworkName) (.dict jsonData)

def FrameworkNameItemEndpointHandler.delete (path : Template Field) (host : HttpUrl)
    (frameworkName : String) : HttpRequest J :=
  send .delete host path (fields frameworkName) .empty

namespace DidEndpoint

/-- The DID of a framework. -/
def path : Template Field :=
  [.lit PREFIX, .lit "tspa", .lit VERSION, .var .frameworkName, .lit "did"]

def put (host : HttpUrl) (frameworkName : String) (jsonData : Json.Value) : HttpRequest J :=
  FrameworkNameItemEndpointHandler.put path host frameworkName jsonData

def delete (host : HttpUrl) (frameworkName : String) : HttpRequest J :=
  FrameworkNameItemEndpointHandler.delete path host frameworkName

end DidEndpoint

namespace TrustFrameworkEndpoint

/-- The framework itself, the one template that ends with the name. -/
def path : Template Field :=
  [.lit PREFIX, .lit "tspa", .lit VERSION, .lit "trustframework", .var .frameworkName]

def put (host : HttpUrl) (frameworkName : String) (jsonData : Json.Value) : HttpRequest J :=
  FrameworkNameItemEndpointHandler.put path host frameworkName jsonData

def delete (host : HttpUrl) (frameworkName : String) : HttpRequest J :=
  FrameworkNameItemEndpointHandler.delete path host frameworkName

end TrustFrameworkEndpoint

namespace DidConfigurationEndpoint

/-- The service's own configuration, which belongs to no framework. -/
def path : Template Field := [.lit PREFIX, .lit ".well-known", .lit "did-configuration.json"]

def get (host : HttpUrl) : HttpRequest J := send .get host path (fields "") .empty

/-- The path has no field: the two names it is formatted with are dropped. -/
def patch (host : HttpUrl) (tspId frameworkName : String) (jsonData : J) : HttpRequest J :=
  send .patch host path (fields frameworkName tspId) (.json jsonData)

end DidConfigurationEndpoint

/-! ## The server -/

/-- `Server`, with the host that every URL begins with. -/
structure Server where
  host : HttpUrl

namespace Server

/-- The body names the pointer as its only scheme. -/
def createPointer (self : Server) (pointer : TrustFrameworkPointer) : HttpRequest J :=
  TrustFrameworkEndpoint.put self.host pointer (.obj [("schemes", .arr [.str pointer])])

/-- The DID stands in the body. -/
def createDidForPointer (self : Server) (did : Did) (pointer : TrustFrameworkPointer) :
    HttpRequest J :=
  DidEndpoint.put self.host pointer (.obj [("did", .str did)])

def removeDidFromPointer (self : Server) (pointer : TrustFrameworkPointer) : HttpRequest J :=
  DidEndpoint.delete self.host pointer

/-- DELETE on the URL that `createPointer` puts to. -/
def removePointer (self : Server) (pointer : TrustFrameworkPointer) : HttpRequest J :=
  TrustFrameworkEndpoint.delete self.host pointer

/-- The XML text is the body, as it is. -/
def createTrustListAsXml (self : Server) (pointer : TrustFrameworkPointer) (xmlData : String) :
    HttpRequest J :=
  TrustListXmlEndpoint.put self.host pointer xmlData

def createTrustListAsJson (self : Server) (pointer : TrustFrameworkPointer) (jsonData : J) :
    HttpRequest J :=
  TrustListJsonEndpoint.put self.host pointer jsonData

def readTrustList (self : Server) (pointer : TrustFrameworkPointer) : HttpRequest J :=
  TrustListEndpoint.get self.host pointer

/-- The only method of its endpoint. -/
def readVc (self : Server) (pointer : TrustFrameworkPointer) : HttpRequest J :=
  TrustListVcEndpoint.get self.host pointer

def removeTrustList (self : Server) (pointer : TrustFrameworkPointer) : HttpRequest J :=
  TrustListEndpoint.delete self.host pointer

/-- The data is put to the list: there is no id in the URL. -/
def publishTsp (self : Server) (pointer : TrustFrameworkPointer) (jsonData : J) : HttpRequest J :=
  TrustListTspEndpoint.put self.host pointer jsonData

/-- The id stands in the URL, behind the framework name. -/
def updateTsp (self : Server) (pointer : TrustFrameworkPointer) (tspId : String) (jsonData : J) :
    HttpRequest J :=
  TrustListTspItemEndpoint.patch self.host tspId pointer jsonData

def deleteTsp (self : Server) (pointer : TrustFrameworkPointer) (tspId : String) : HttpRequest J :=
  TrustListTspItemEndpoint.delete self.host tspId pointer

end Server

/-! ## Calls and their resources -/

/-- The operations of `Server`. -/
inductive Operation
  | createPointer
  | createDidForPointer
  | removeDidFromPointer
  | removePointer
  | createTrustListAsXml
  | createTrustListAsJson
  | readTrustList
  | readVc
  | removeTrustList
  | publishTsp
  | updateTsp
  | deleteTsp
deriving DecidableEq, Repr

/-- One call of a `Server` operation, with its arguments. -/
inductive Call (J : Type)
  | createPointer (pointer : TrustFrameworkPointer)
  | createDidForPointer (did : Did) (pointer : TrustFrameworkPointer)
  | removeDidFromPointer (pointer : TrustFrameworkPointer)
  | removePointer (pointer : TrustFrameworkPointer)
  | createTrustListAsXml (pointer : TrustFrameworkPointer) (xmlData : String)
  | createTrustListAsJson (pointer : TrustFrameworkPointer) (jsonData : J)
  | readTrustList (pointer : TrustFrameworkPointer)
  | readVc (pointer : TrustFrameworkPointer)
  | removeTrustList (pointer : TrustFrameworkPointer)
  | publishTsp (pointer : TrustFrameworkPointer) (jsonData : J)
  | updateTsp (pointer : TrustFrameworkPointer) (tspId : String) (jsonData : J)
  | deleteTsp (pointer : TrustFrameworkPointer) (tspId : String)

/-- The request of a call. -/
def Server.request (self : Server) : Call J → HttpRequest J
  | .createPointer pointer => self.createPointer pointer
  | .createDidForPointer did pointer => self.createDidForPointer did pointer
  | .removeDidFromPointer pointer => self.removeDidFromPointer pointer
  | .removePointer pointer => self.removePointer pointer
  | .createTrustListAsXml pointer xmlData => self.createTrustListAsXml pointer xmlData
  | .createTrustListAsJson pointer jsonData => self.createTrustListAsJson pointer jsonData
  | .readTrustList pointer => self.readTrustList pointer
  | .readVc pointer => self.readVc pointer
  | .removeTrustList pointer => self.removeTrustList pointer
  | .publishTsp pointer jsonData => self.publishTsp pointer jsonData
  | .updateTsp pointer tspId jsonData => self.updateTsp pointer tspId jsonData
  | .deleteTsp pointer tspId => self.deleteTsp pointer tspId

/-- What a call is about: the operation, the framework name, and the id where there is one. -/
structure Resource where
  operation : Operation
  frameworkName : String
  tspId : Option String := none
deriving DecidableEq, Repr

/-- The resource of a call, without the data that the call sends. -/
def Call.resource : Call J → Resource
  | .createPointer pointer => ⟨.createPointer, pointer, none⟩
  | .createDidForPointer _ pointer => ⟨.createDidForPointer, pointer, none⟩
  | .removeDidFromPointer pointer => ⟨.removeDidFromPointer, pointer, none⟩
  | .removePointer pointer => ⟨.removePointer, pointer, none⟩
  | .createTrustListAsXml pointer _ => ⟨.createTrustListAsXml, pointer, none⟩
  | .createTrustListAsJson pointer _ => ⟨.createTrustListAsJson, pointer, none⟩
  | .readTrustList pointer => ⟨.readTrustList, pointer, none⟩
  | .readVc pointer => ⟨.readVc, pointer, none⟩
  | .removeTrustList pointer => ⟨.removeTrustList, pointer, none⟩
  | .publishTsp pointer _ => ⟨.publishTsp, pointer, none⟩
  | .updateTsp pointer tspId _ => ⟨.updateTsp, pointer, some tspId⟩
  | .deleteTsp pointer tspId => ⟨.deleteTsp, pointer, some tspId⟩

/-- The method and the path template of an operation. -/
def Operation.route : Operation → HttpMethod × Template Field
  | .createPointer => (.put, TrustFrameworkEndpoint.path)
  | .createDidForPointer => (.put, DidEndpoint.path)
  | .removeDidFromPointer => (.delete, DidEndpoint.path)
  | .removePointer => (.delete, TrustFrameworkEndpoint.path)
  | .createTrustListAsXml => (.put, TrustListXmlEndpoint.path)
  | .createTrustListAsJson => (.put, TrustListJsonEndpoint.path)
  | .readTrustList => (.get, TrustListEndpoint.path)
  | .readVc => (.get, TrustListVcEndpoint.path)
  | .removeTrustList => (.delete, TrustListEndpoint.path)
  | .publishTsp => (.put, TrustListTspEndpoint.path)
  | .updateTsp => (.patch, TrustListTspItemEndpoint.path)
  | .deleteTsp => (.delete, TrustListTspItemEndpoint.path)

/-- The values a resource's path is filled with. -/
def Resource.values (self : Resource) : Field → String := fields self.frameworkName (self.tspId.getD "")

/-- **A request line is the route of its operation**, filled with the resource's names. -/
theorem request_eq_route (server : Server) (call : Call J) :
    (server.request call).method = call.resource.operation.route.1 ∧
      (server.request call).url =
        server.host.str ++ call.resource.operation.route.2.format call.resource.values := by
  cases call with
  | createPointer pointer => exact ⟨rfl, rfl⟩
  | createDidForPointer did pointer => exact ⟨rfl, rfl⟩
  | removeDidFromPointer pointer => exact ⟨rfl, rfl⟩
  | removePointer pointer => exact ⟨rfl, rfl⟩
  | createTrustListAsXml pointer xmlData => exact ⟨rfl, rfl⟩
  | createTrustListAsJson pointer jsonData => exact ⟨rfl, rfl⟩
  | readTrustList pointer => exact ⟨rfl, rfl⟩
  | readVc pointer => exact ⟨rfl, rfl⟩
  | removeTrustList pointer => exact ⟨rfl, rfl⟩
  | publishTsp pointer jsonData => exact ⟨rfl, rfl⟩
  | updateTsp pointer tspId jsonData => exact ⟨rfl, rfl⟩
  | deleteTsp pointer tspId => exact ⟨rfl, rfl⟩

/-- The TSP item template, filled. -/
example : TrustListTspItemEndpoint.path.format (fields "alice" "42") =
    "tspa-service/tspa/v1/alice/trust-list/tsp/42" := by decide

/-! ## Request lines and resources -/

/-- The segments behind the host. -/
def Resource.path (self : Resource) : List String := self.operation.route.2.fill self.values

/-- Neither the name nor the id has a slash. -/
def Resource.SlashFree (self : Resource) : Prop :=
  '/' ∉ self.frameworkName.toList ∧ ∀ id ∈ self.tspId, '/' ∉ id.toList

instance (self : Resource) : Decidable self.SlashFree := inferInstanceAs (Decidable (_ ∧ _))

/-- The operations as a list, for `decide`. -/
def Operation.all : List Operation :=
  [.createPointer, .createDidForPointer, .removeDidFromPointer, .removePointer, .createTrustListAsXml,
    .createTrustListAsJson, .readTrustList, .readVc, .removeTrustList, .publishTsp, .updateTsp,
    .deleteTsp]

theorem Operation.mem_all (o : Operation) : o ∈ all := by
  cases o <;> decide

/-- The pairs of operations whose templates have one length under one method. -/
def siblings : List (Operation × Operation) :=
  [(.createPointer, .createDidForPointer), (.createTrustListAsXml, .createTrustListAsJson),
    (.removePointer, .removeDidFromPointer), (.removePointer, .removeTrustList),
    (.removeDidFromPointer, .removeTrustList)]

theorem same_shape {o o' : Operation} (hmethod : o.route.1 = o'.route.1)
    (hlength : o.route.2.length = o'.route.2.length) :
    o = o' ∨ (o, o') ∈ siblings ∨ (o', o) ∈ siblings := by
  have hall : ∀ o ∈ Operation.all, ∀ o' ∈ Operation.all, o.route.1 = o'.route.1 →
      o.route.2.length = o'.route.2.length →
      o = o' ∨ (o, o') ∈ siblings ∨ (o', o) ∈ siblings := by decide
  exact hall o o.mem_all o' o'.mem_all hmethod hlength

/-- Every template has the name, and none a slash of its own. -/
theorem route_spec (o : Operation) :
    Field.frameworkName ∈ o.route.2.vars ∧ ∀ text ∈ o.route.2.literals, '/' ∉ text.toList := by
  have hall : ∀ o ∈ Operation.all, Field.frameworkName ∈ o.route.2.vars ∧
      ∀ text ∈ o.route.2.literals, '/' ∉ text.toList := by decide
  exact hall o o.mem_all

/-- A call has an id exactly when its template has one. -/
theorem tspId_isSome (call : Call J) :
    call.resource.tspId.isSome = decide (Field.id ∈ call.resource.operation.route.2.vars) := by
  cases call <;> rfl

theorem slashFree_path {r : Resource} (h : r.SlashFree) : ∀ s ∈ r.path, '/' ∉ s.toList := by
  refine Template.forall_mem_fill.mpr ⟨(route_spec r.operation).2, fun x _ => ?_⟩
  cases x with
  | frameworkName => exact h.1
  | id =>
    show '/' ∉ (r.tspId.getD "").toList
    cases hid : r.tspId with
    | none => decide
    | some id => exact h.2 id hid

/-- The three pairs of resources that share a request line: a name that is a literal of the other
    template. -/
def clashes : List (Resource × Resource) :=
  [({ operation := .createPointer, frameworkName := "did" },
      { operation := .createDidForPointer, frameworkName := "trustframework" }),
    ({ operation := .removePointer, frameworkName := "did" },
      { operation := .removeDidFromPointer, frameworkName := "trustframework" }),
    ({ operation := .removePointer, frameworkName := "trust-list" },
      { operation := .removeTrustList, frameworkName := "trustframework" })]

/-- Resources of sibling operations have one path only when they clash. -/
theorem clash_of_siblings {r r' : Resource} (hs : (r.operation, r'.operation) ∈ siblings)
    (hid : r.tspId = none) (hid' : r'.tspId = none) (hpath : r.path = r'.path) :
    (r, r') ∈ clashes := by
  obtain ⟨o, n, id⟩ := r
  obtain ⟨o', n', id'⟩ := r'
  obtain rfl : id = none := hid
  obtain rfl : id' = none := hid'
  simp only [siblings, List.mem_cons, Prod.mk.injEq, List.not_mem_nil, or_false] at hs
  rcases hs with ⟨rfl, rfl⟩ | ⟨rfl, rfl⟩ | ⟨rfl, rfl⟩ | ⟨rfl, rfl⟩ | ⟨rfl, rfl⟩
  -- `trustframework/{framework_name}` meets `{framework_name}/did`
  · obtain ⟨rfl, rfl⟩ : "trustframework" = n' ∧ n = "did" := by
      simpa [Resource.path, Operation.route, Template.fill, Piece.fill, Resource.values, fields,
        TrustFrameworkEndpoint.path, DidEndpoint.path] using hpath
    decide
  -- the literals `xml` and `json` keep these two apart, as `did` and `trust-list` do the last two
  · simp [Resource.path, Operation.route, Template.fill, Piece.fill, TrustListXmlEndpoint.path,
      TrustListJsonEndpoint.path] at hpath
  · obtain ⟨rfl, rfl⟩ : "trustframework" = n' ∧ n = "did" := by
      simpa [Resource.path, Operation.route, Template.fill, Piece.fill, Resource.values, fields,
        TrustFrameworkEndpoint.path, DidEndpoint.path] using hpath
    decide
  · obtain ⟨rfl, rfl⟩ : "trustframework" = n' ∧ n = "trust-list" := by
      simpa [Resource.path, Operation.route, Template.fill, Piece.fill, Resource.values, fields,
        TrustFrameworkEndpoint.path, TrustListEndpoint.path] using hpath
    decide
  · simp [Resource.path, Operation.route, Template.fill, Piece.fill, DidEndpoint.path,
      TrustListEndpoint.path] at hpath

theorem path_of_clashes :
    ∀ p ∈ clashes, p.1.operation.route.1 = p.2.operation.route.1 ∧ p.1.path = p.2.path := by
  decide

/-- No sibling's template has an id. -/
theorem tspId_eq_none_of_siblings {p : Operation × Operation} (hp : p ∈ siblings) {c : Call J}
    (hop : c.resource.operation = p.1 ∨ c.resource.operation = p.2) : c.resource.tspId = none := by
  have hall : ∀ p ∈ siblings, Field.id ∉ p.1.route.2.vars ∧ Field.id ∉ p.2.route.2.vars := by decide
  have hvar : Field.id ∉ c.resource.operation.route.2.vars := by
    rcases hop with hop | hop
    · rw [hop]
      exact (hall p hp).1
    · rw [hop]
      exact (hall p hp).2
  have hid := tspId_isSome c
  rw [decide_eq_false hvar] at hid
  exact Option.isNone_iff_eq_none.mp (Option.isSome_eq_false_iff.mp hid)

/-- Two calls of one operation with one path have one resource. -/
theorem resource_eq_of_path {call other : Call J}
    (hop : call.resource.operation = other.resource.operation)
    (hpath : call.resource.path = other.resource.path) : call.resource = other.resource := by
  have hid := tspId_isSome call
  have hid' := tspId_isSome other
  unfold Resource.path at hpath
  rw [← hop, Template.fill_eq_iff] at hpath
  rw [← hop] at hid'
  have hname := hpath .frameworkName (route_spec call.resource.operation).1
  have htsp : call.resource.tspId = other.resource.tspId := by
    by_cases hvar : Field.id ∈ call.resource.operation.route.2.vars
    · have hval : call.resource.tspId.getD "" = other.resource.tspId.getD "" := hpath .id hvar
      rw [decide_eq_true hvar] at hid hid'
      obtain ⟨id, hid⟩ := Option.isSome_iff_exists.mp hid
      obtain ⟨id', hid'⟩ := Option.isSome_iff_exists.mp hid'
      rw [hid, hid'] at hval
      rw [hid, hid']
      exact congrArg some hval
    · rw [decide_eq_false hvar] at hid hid'
      rw [Option.isSome_eq_false_iff, Option.isNone_iff_eq_none] at hid hid'
      rw [hid, hid']
  cases hr : call.resource with
  | mk o n id =>
    cases hr' : other.resource with
    | mk o' n' id' =>
      rw [hr, hr'] at hop hname htsp
      exact Resource.mk.injEq .. ▸ ⟨hop, hname, htsp⟩

/-- The request lines agree when methods and segments do. -/
theorem requestLine_iff_path (server : Server) {call other : Call J}
    (hcall : call.resource.SlashFree) (hother : other.resource.SlashFree) :
    ((server.request call).method = (server.request other).method ∧
      (server.request call).url = (server.request other).url) ↔
      call.resource.operation.route.1 = other.resource.operation.route.1 ∧
        call.resource.path = other.resource.path := by
  have hne : ∀ o : Operation, o.route.2 ≠ [] := fun o hnil => by
    have hname := (route_spec o).1
    rw [hnil] at hname
    nomatch hname
  rw [(request_eq_route server call).1, (request_eq_route server other).1,
    (request_eq_route server call).2, (request_eq_route server other).2]
  refine and_congr_right fun _ => ?_
  rw [String.append_right_inj]
  exact Template.format_eq_iff (slashFree_path hcall) (slashFree_path hother) (hne _) (hne _)

/-- **Request lines and resources.**  Two calls whose names have no slash send the same method to the
    same URL exactly when they are about the same operation, name and id, or are one of the three
    clashing pairs. -/
theorem requestLine_eq_iff (server : Server) (call other : Call J)
    (hcall : call.resource.SlashFree) (hother : other.resource.SlashFree) :
    ((server.request call).method = (server.request other).method ∧
      (server.request call).url = (server.request other).url) ↔
      call.resource = other.resource ∨ (call.resource, other.resource) ∈ clashes ∨
        (other.resource, call.resource) ∈ clashes := by
  rw [requestLine_iff_path server hcall hother]
  constructor
  · rintro ⟨hmethod, hpath⟩
    have hlength : call.resource.operation.route.2.length =
        other.resource.operation.route.2.length := by
      simpa [Resource.path, Template.fill] using congrArg List.length hpath
    -- one method and one length: one operation, or siblings in either order
    rcases same_shape hmethod hlength with hop | hsib | hsib
    · exact Or.inl (resource_eq_of_path hop hpath)
    · have hid := tspId_eq_none_of_siblings hsib (c := call) (Or.inl rfl)
      have hid' := tspId_eq_none_of_siblings hsib (c := other) (Or.inr rfl)
      exact Or.inr (Or.inl (clash_of_siblings hsib hid hid' hpath))
    · have hid := tspId_eq_none_of_siblings hsib (c := other) (Or.inl rfl)
      have hid' := tspId_eq_none_of_siblings hsib (c := call) (Or.inr rfl)
      exact Or.inr (Or.inr (clash_of_siblings hsib hid hid' hpath.symm))
  · rintro (heq | hclash | hclash)
    · rw [heq]
      exact ⟨rfl, rfl⟩
    · exact path_of_clashes _ hclash
    · obtain ⟨hmethod, hpath⟩ := path_of_clashes _ hclash
      exact ⟨hmethod.symm, hpath.symm⟩

/-- The server of a local set-up. -/
def localServer : Server := ⟨.root "localhost:16003"⟩

/-- Two TSPs of one framework have two request lines. -/
theorem requestLine_eq_iff_twoTsps :
    let call : Call Unit := .deleteTsp "alice.trust.train1.xfsc.dev" "42"
    let other : Call Unit := .deleteTsp "alice.trust.train1.xfsc.dev" "43"
    ¬ ((localServer.request call).method = (localServer.request other).method ∧
      (localServer.request call).url = (localServer.request other).url) := by
  intro call other hsame
  have hcases := (requestLine_eq_iff localServer call other (by decide) (by decide)).mp hsame
  revert hcases
  decide

/-- A framework called "did" and the DID of a framework called "trustframework" share their request
    line, and so do the trust list of "a/vc" and the credential of "a". -/
theorem requestLine_shared :
    let create : Call Unit := .createPointer "did"
    let bind : Call Unit := .createDidForPointer "did:web:essif" "trustframework"
    let list : Call Unit := .readTrustList "a/vc"
    let vc : Call Unit := .readVc "a"
    ((localServer.request create).method = (localServer.request bind).method ∧
      (localServer.request create).url = (localServer.request bind).url ∧
      create.resource ≠ bind.resource) ∧
    (localServer.request list).method = (localServer.request vc).method ∧
      (localServer.request list).url = (localServer.request vc).url ∧
      list.resource ≠ vc.resource := by
  decide

end TrainBdd.Tspa
