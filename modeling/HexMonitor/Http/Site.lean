import HexMonitor.Http.Assets
import HexMonitor.Http.Route
import HexMonitor.Settings.Basic

namespace HexMonitor.Http

def phaseHeader : String := "x-hexvm-phase"

def haltHeader : String := "x-hexvm-halt"

def faultHeader : String := "x-hexvm-fault"

def uploadLimit : Nat := 2097152

def statusOf : Rejection → StatusCode
  | .invalidEncoding _ => .badRequest
  | .programTooLarge .. => .payloadTooLarge
  | .bufferTooSmall .. => .internalServerError

namespace Response

def note (status : StatusCode) (text : String) : Response :=
  { status
    headers := [("content-type", "text/plain; charset=utf-8")]
    body := Bytes.ofText text }

/-- The dump of an accepted command, with the phase and the fault as headers. A description of the
fault that no header can hold is left out. -/
def ofReply (reply : Reply) : Response :=
  { status := .ok
    headers := ("content-type", "text/plain") :: (phaseHeader, reply.phase.name) ::
      match reply.fault? with
      | none => []
      | some fault => (haltHeader, "fault") ::
        if isHeaderValue fault.message then [(faultHeader, fault.message)] else []
    body := reply.dump }

def ofRejection (rejection : Rejection) : Response :=
  { status := statusOf rejection
    headers := [("content-type", "text/plain")]
    body := Bytes.ofText rejection.message }

def methodNotAllowed (route : Route) : Response :=
  { status := .methodNotAllowed, headers := [("allow", route.allow)] }

def landing (index : String) : Response :=
  if isHeaderValue index then { status := .found, headers := [("location", index)] }
  else note .found "failed to parse header value"

def uploadTooLong : Response :=
  note .payloadTooLarge "Failed to buffer the request body: length limit exceeded"

def preflight (route : Route) : Response :=
  { status := .ok
    headers :=
      [("access-control-allow-methods", "*"), ("access-control-allow-headers", "*")]
        ++ if route = .page then [] else [("allow", route.allow)] }

end Response

structure Site where
  monitor : Monitor
  /-- The landing page that `/` leads to. -/
  index : String
  assets : Assets
  /-- Whether pages of other origins may read the answers. -/
  cors : Bool
  deriving DecidableEq, Repr

inductive Action
  | run (c : Command)
  | reply (r : Response)
  deriving DecidableEq, Repr

namespace Site

def ofSettings (settings : Settings) (assets : Assets) : Site :=
  { monitor := { mode := settings.loadMode, dumpCapacity := settings.dumpCapacity.toNat }
    index := settings.index
    assets
    cors := settings.cors }

def upload (load : Bytes → Command) (body : Bytes) : Action :=
  if body.length > uploadLimit then .reply .uploadTooLong else .run (load body)

/-- What is done about a request: the method is looked at first, then the route. -/
def action (site : Site) (r : Request) : Action :=
  if site.cors ∧ r.method = "OPTIONS" then .reply (.preflight r.route)
  else if r.method ∉ r.route.methods then .reply (.methodNotAllowed r.route)
  else
    match r.route with
    | .landing => .reply (.landing site.index)
    | .loadBinary => upload .loadBinary r.body
    | .loadHex => upload .loadHex r.body
    | .execute => .run .execute
    | .dump => .run .dump
    | .page => .reply (site.assets.serve r)

/-- The response as it is sent. Other origins are let in if they may be, and `HEAD` has no body; the
static pages see to that themselves. -/
def finish (site : Site) (r : Request) (response : Response) : Response :=
  { response with
    headers := response.headers ++
      if site.cors then [("access-control-allow-origin", "*")] else []
    body := if r.method = "HEAD" ∧ r.route ≠ .page then [] else response.body }

/-- Answers one request: the response, and the site afterwards; `none` if the request executes a
program that never stops. -/
def respond (site : Site) (r : Request) : Option (Response × Site) :=
  match site.action r with
  | .reply response => some (site.finish r response, site)
  | .run c =>
    (site.monitor.answer c).map fun
      | (.ok reply, monitor) => (site.finish r (.ofReply reply), { site with monitor })
      | (.error rejection, monitor) =>
        (site.finish r (.ofRejection rejection), { site with monitor })

def respondAll (site : Site) : List Request → Option (List Response × Site)
  | [] => some ([], site)
  | r :: rs => do
    let (response, site') ← site.respond r
    let (responses, site'') ← site'.respondAll rs
    return (response :: responses, site'')

end Site

end HexMonitor.Http
