import VideoWall.Failure
import VideoWall.Json.Token

/-!
# Requests and responses
-/

namespace VideoWall.Http

structure Request where
  method : String
  /-- Path and query. -/
  target : String
  contentType : Option String
  body : Json.Bytes
  deriving Repr, Inhabited

/-- A response: its status, the headers that differ between responses, and its body. -/
structure Response where
  status : Nat
  headers : List (String × String) := []
  body : String := ""
  deriving DecidableEq, Repr, Inhabited

namespace Response

def content (status : Nat) (type body : String) : Response :=
  { status, headers := [("content-type", type)], body }

def json (status : Nat) (j : Json) : Response := content status "application/json" j.compact

def html (body : String) : Response := content 200 "text/html; charset=utf-8" body

def css (body : String) : Response := content 200 "text/css" body

/-- A refusal in words. -/
def plain (status : Nat) (body : String) : Response :=
  content status "text/plain; charset=utf-8" body

def notFound : Response := { status := 404 }

def methodNotAllowed (allow : String) : Response := { status := 405, headers := [("allow", allow)] }

/-- What is told of an error: the backend's are a bad gateway, the others a bad request. -/
def ofError (e : DashboardError) : Response := json (if e.isGateway then 502 else 400) e.toJson

/-- Any page may use the response. -/
def shared (r : Response) : Response :=
  { r with headers := r.headers ++
    [("access-control-allow-origin", "*"),
      ("vary", "origin, access-control-request-method, access-control-request-headers")] }

/-- The response without its body. -/
def bodiless (r : Response) : Response := { r with body := "" }

end Response

end VideoWall.Http
