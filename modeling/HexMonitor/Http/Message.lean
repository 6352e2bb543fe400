import HexMonitor.Bytes
import HexMonitor.Http.Target

namespace HexMonitor.Http

structure Request where
  /-- The method's name, which is case sensitive. -/
  method : String
  target : Target
  /-- Names in either letter case with their values, in the order in which they were sent. -/
  headers : List (String × String) := []
  body : Bytes := []
  deriving DecidableEq, Repr

namespace Request

def path (r : Request) : String := r.target.path

/-- The first value of a header, which is named in lowercase. -/
def header? (r : Request) (name : String) : Option String :=
  (r.headers.find? fun header => header.1.map Char.toLower = name).map (·.2)

end Request

inductive StatusCode
  | ok | partialContent
  | found | notModified | temporaryRedirect
  | badRequest | notFound | methodNotAllowed | preconditionFailed | payloadTooLarge
  | rangeNotSatisfiable
  | internalServerError
  deriving DecidableEq, Repr

namespace StatusCode

def number : StatusCode → Nat
  | ok => 200
  | partialContent => 206
  | found => 302
  | notModified => 304
  | temporaryRedirect => 307
  | badRequest => 400
  | notFound => 404
  | methodNotAllowed => 405
  | preconditionFailed => 412
  | payloadTooLarge => 413
  | rangeNotSatisfiable => 416
  | internalServerError => 500

def phrase : StatusCode → String
  | ok => "OK"
  | partialContent => "Partial Content"
  | found => "Found"
  | notModified => "Not Modified"
  | temporaryRedirect => "Temporary Redirect"
  | badRequest => "Bad Request"
  | notFound => "Not Found"
  | methodNotAllowed => "Method Not Allowed"
  | preconditionFailed => "Precondition Failed"
  | payloadTooLarge => "Payload Too Large"
  | rangeNotSatisfiable => "Range Not Satisfiable"
  | internalServerError => "Internal Server Error"

end StatusCode

structure Response where
  status : StatusCode
  /-- Names in lowercase with their values; no name occurs twice. -/
  headers : List (String × String) := []
  body : Bytes := []
  deriving DecidableEq, Repr

def Response.header? (r : Response) (name : String) : Option String := r.headers.lookup name

/-- Whether a text may be a header's value: no control character occurs but the tab. -/
def isHeaderValue (text : String) : Bool :=
  text.toList.all fun c => (0x20 ≤ c.toNat && c.toNat ≠ 0x7f) || c == '\t'

end HexMonitor.Http
