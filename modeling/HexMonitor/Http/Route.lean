import HexMonitor.Http.Message

namespace HexMonitor.Http

inductive Route
  /-- The root, which leads to the landing page. -/
  | landing
  | loadBinary
  | loadHex
  | execute
  | dump
  /-- Any other path is looked up among the static pages. -/
  | page
  deriving DecidableEq, Repr

namespace Route

def ofPath (path : String) : Route :=
  if path = "/" then landing
  else if path = "/load/bin" then loadBinary
  else if path = "/load/hex" then loadHex
  else if path = "/exec" then execute
  else if path = "/dump" then dump
  else page

/-- The methods that a route answers; `HEAD` goes wherever `GET` does. -/
def methods : Route → List String
  | landing | dump | page => ["GET", "HEAD"]
  | loadBinary | loadHex => ["POST"]
  | execute => ["GET", "HEAD", "POST"]

def allow (route : Route) : String := ",".intercalate route.methods

end Route

def Request.route (r : Request) : Route := .ofPath r.path

end HexMonitor.Http
