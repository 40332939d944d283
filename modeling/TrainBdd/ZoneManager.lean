/-
  `components/dns_zone_manager/server.py` — the wrapper of the DNS Zone Manager (ZM).

  Every method on one pointer addresses one of two URLs, `names/<pointer>/schemes` and
  `names/<pointer>/trust-list`, with the pointer inserted as it is.  `pointerUrl_eq_format` and
  `didUrl_eq_format` present the two as path templates.
-/
import TrainBdd.HttpUrl
import TrainBdd.ResolveResponse
import TrainBdd.Lib.Uri

namespace TrainBdd.ZoneManager

open Python Uri

/-- `Server`, with the host that every URL begins with. -/
structure Server where
  host : HttpUrl

namespace Server

variable {J : Type}

/-! ## The program -/

/-- `_pointer_url`. -/
def pointerUrl (self : Server) (pointer : String) : String :=
  self.host.str ++ "names/" ++ pointer ++ "/schemes"

/-- `_did_url`. -/
def didUrl (self : Server) (pointer : String) : String :=
  self.host.str ++ "names/" ++ pointer ++ "/trust-list"

/-- The body lists the included pointers, in the order of the set. -/
def createPointer (self : Server) (pointer : TrustFrameworkPointer)
    (includedPointers : PySet TrustFrameworkPointer) : HttpRequest J where
  method := .put
  url := self.pointerUrl pointer
  body := .dict (.obj [("schemes", .arr (includedPointers.elems.map .str))])

/-- The one method without a pointer. -/
def readZones (self : Server) : HttpRequest J where
  method := .get
  url := self.host.str ++ "view-zone"
  body := .empty

/-- The source calls the parameter `alias`. -/
def readPointer (self : Server) (aliasName : String) : HttpRequest J where
  method := .get
  url := self.pointerUrl aliasName
  body := .empty

/-- DELETE on the URL that `createPointer` puts to. -/
def removePointer (self : Server) (pointer : String) : HttpRequest J where
  method := .delete
  url := self.pointerUrl pointer
  body := .empty

/-- DELETE on the URL that `createDidForPointer` puts to. -/
def removeDidFromPointer (self : Server) (pointer : String) : HttpRequest J where
  method := .delete
  url := self.didUrl pointer
  body := .empty

/-- Binds an existing pointer to a DID. -/
def createDidForPointer (self : Server) (did : Did) (pointer : String) : HttpRequest J where
  method := .put
  url := self.didUrl pointer
  body := .dict (.obj [("did", .str did)])

/-- The DID is read under the URL it is put to. -/
def readDidForPointer (self : Server) (pointer : String) : HttpRequest J where
  method := .get
  url := self.didUrl pointer
  body := .empty

end Server

/-! ## The two URLs as templates -/

/-- The path of `pointerUrl`. -/
def pointerPath : Template Unit := [.lit "names", .var (), .lit "schemes"]

/-- The path of `didUrl`. -/
def didPath : Template Unit := [.lit "names", .var (), .lit "trust-list"]

/-- Two literals around one variable. -/
theorem format_eq (before after value : String) :
    Template.format (fun _ => value) [Piece.lit before, .var (), .lit after] =
      before ++ "/" ++ value ++ "/" ++ after := rfl

theorem pointerUrl_eq_format (self : Server) (pointer : String) :
    self.pointerUrl pointer = self.host.str ++ pointerPath.format fun _ => pointer := by
  rw [pointerPath, format_eq, Server.pointerUrl]
  simp only [String.append_assoc]
  rfl

theorem didUrl_eq_format (self : Server) (pointer : String) :
    self.didUrl pointer = self.host.str ++ didPath.format fun _ => pointer := by
  rw [didPath, format_eq, Server.didUrl]
  simp only [String.append_assoc]
  rfl

end TrainBdd.ZoneManager
