import VideoWall.Json.Value

/-!
# What can go wrong

A request to the backend fails in one of three ways, and an operation of the dashboard in one of
four.  Each has its wording and, towards the browser, its status.
-/

namespace VideoWall

/-- Why a request to the backend gave nothing. -/
inductive FetchFailure where
  /-- No answer; a timeout is one of the reasons. -/
  | transport (reason : String)
  /-- An answer with a status other than success. -/
  | status (code : Nat)
  /-- A body that is not what it should be. -/
  | malformed (reason : String)
  deriving DecidableEq, Repr, Inhabited

/-- Why an operation of the dashboard was refused or failed. -/
inductive DashboardError where
  | discovery (url : String) (failure : FetchFailure)
  | metadataFetch (url : String) (failure : FetchFailure)
  | unknownStream (raw : String)
  | emptyBaseUrl
  deriving DecidableEq, Repr, Inhabited

def FetchFailure.message : FetchFailure → String
  | transport reason => "request failed: " ++ reason
  | status code => "HTTP " ++ toString code
  | malformed reason => "malformed body: " ++ reason

namespace DashboardError

def message : DashboardError → String
  | discovery url failure => "Failed to fetch " ++ url ++ ": " ++ failure.message
  | metadataFetch _ failure => "Meta unavailable: " ++ failure.message
  | unknownStream raw => "Stream " ++ raw ++ " is not in the catalog"
  | emptyBaseUrl => "Base URL must not be empty"

/-- The backend address that was asked, if one was. -/
def url? : DashboardError → Option String
  | discovery url _ => some url
  | metadataFetch url _ => some url
  | unknownStream _ => none
  | emptyBaseUrl => none

/-- Whether the backend is to blame, and not the request. -/
def isGateway : DashboardError → Bool
  | discovery .. => true
  | metadataFetch .. => true
  | unknownStream _ => false
  | emptyBaseUrl => false

def toJson (e : DashboardError) : Json :=
  .obj [("error", .str e.message), ("url", .ofOption .str e.url?)]

end DashboardError

end VideoWall
