/-!
# Requests and responses

What an application is asked and what it answers. A request stands here as the routes of an
application get it: it has been read, and if it expected something of the server before it is
answered, that has been settled.
-/

set_option autoImplicit false

namespace PageTrial.Site

/-- Whether two names mean the same header, in whatever case they are written. -/
def sameHeader (name other : String) : Bool :=
  name.toList.map Char.toLower = other.toList.map Char.toLower

structure Request where
  method : String := "GET"
  /-- The path that is asked for, with its escapes resolved. -/
  path : String
  query : String := ""
  headers : List (String × String) := []
  deriving Repr, DecidableEq

/-- A request that asks for something and wants nothing changed. -/
def Request.Asks (request : Request) : Prop := request.method = "GET" ∨ request.method = "HEAD"

instance (request : Request) : Decidable request.Asks := inferInstanceAs (Decidable (_ ∨ _))

/-- A status, headers and a body. -/
structure Response where
  status : Nat
  headers : List (String × String) := []
  body : List UInt8 := []
  deriving Repr, DecidableEq

namespace Response

/-- What a response has under a header's name, in order. -/
def values (response : Response) (name : String) : List String :=
  (response.headers.filter fun header => sameHeader header.1 name).map (·.2)

/-- Two responses that show the same. -/
structure Agrees (response other : Response) : Prop where
  status : response.status = other.status
  body : response.body = other.body
  type : response.values "Content-Type" = other.values "Content-Type"

end Response

end PageTrial.Site
