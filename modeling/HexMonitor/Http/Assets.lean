import HexMonitor.Hex
import HexMonitor.Http.Date
import HexMonitor.Http.MediaType
import HexMonitor.Http.Message
import HexMonitor.Http.Range

namespace HexMonitor.Http

def escape? (sign high low : UInt8) : Option UInt8 :=
  if sign = 0x25 then do return 16 * (← Hex.digitValue? high) + (← Hex.digitValue? low) else none

def percentDecode : Bytes → Bytes
  | sign :: high :: low :: rest =>
    match escape? sign high low with
    | some byte => byte :: percentDecode rest
    | none => sign :: percentDecode (high :: low :: rest)
  | rest => rest

/-- The names between the slashes of a text; empty names and single dots say nothing. -/
def names (text : String) : List String :=
  ((Text.splitAt '/' text.toList).map String.ofList).filter fun name => name ≠ "" ∧ name ≠ "."

/-- The names that lead to a path's file. There are none if the decoded path is no text, begins
with a slash of its own, or would lead upwards. -/
def place? (path : String) : Option (List String) := do
  let text ← (percentDecode ((Bytes.ofText path).dropWhile (· = 0x2f))).toText?
  if text.toList.head? = some '/' ∨ ".." ∈ names text then none else some (names text)

/-- What stands behind the last dot of a name, unless that dot begins the name. -/
def extension? (name : String) : Option String :=
  match (Text.splitAt '.' name.toList).reverse with
  | _ :: [[]] => none
  | last :: _ :: _ => some (String.ofList last)
  | _ => none

def mediaType (name : String) : String :=
  ((extension? name).bind mediaTypeOf?).getD unknownType

def maxNameLength : Nat := 255

def maxPathLength : Nat := 4095

inductive Entry
  | file (content : Bytes)
  | directory
  deriving DecidableEq, Repr

namespace Entry

def content : Entry → Bytes
  | file content => content
  | directory => []

/-- The announced length; a directory has that of a block on a disk. -/
def size : Entry → Nat
  | file content => content.length
  | directory => 4096

end Entry

/-- Files by the names that lead to them. A place before some file's last name is a directory. -/
structure Assets where
  /-- Of two files at one place the first counts. -/
  files : List (List String × Bytes) := []
  /-- The path of the directory that holds the files. -/
  root : String := ""
  /-- When the files were written last. -/
  modified : Date := {}
  deriving DecidableEq, Repr

namespace Assets

def ofFiles (root : String) (modified : Date) (files : List (String × Bytes)) : Assets :=
  { files := (files.map fun (path, content) => (names path, content)).reverse, root, modified }

def isDirectory (assets : Assets) (place : List String) : Bool :=
  place.isEmpty
    || assets.files.any fun file => place.isPrefixOf file.1 && place.length < file.1.length

def find? (assets : Assets) (place : List String) : Option Entry :=
  match assets.files.lookup place with
  | some content => some (.file content)
  | none => if assets.isDirectory place then some .directory else none

def pathLength (assets : Assets) (place : List String) : Nat :=
  place.foldl (fun length name => length + 1 + name.utf8ByteSize) assets.root.utf8ByteSize

/-- Whether looking a place up fails otherwise than by finding nothing: a name holds a zero
character, the path is too long, or a directory is asked for a longer name than any file has. -/
def isUnusable (assets : Assets) (place : List String) : Bool :=
  place.any (·.toList.contains '\x00')
    || maxPathLength < assets.pathLength place
    || (List.range place.length).any fun i =>
      assets.isDirectory (place.take i) && place[i]?.any (maxNameLength < ·.utf8ByteSize)

/-- The date that a request names under a condition; what is no date sets no condition. -/
def condition? (r : Request) (name : String) : Option Date := (r.header? name).bind Date.read?

/-- The parts that a request asks for, as it writes them. A header that is not made of printing
ASCII characters and tabs does not count. -/
def rangeHeader? (r : Request) : Option String :=
  (r.header? "range").filter fun header =>
    header.toList.all fun c => (0x20 ≤ c.toNat && c.toNat < 0x7f) || c = '\t'

/-- The response to a request for an entry of a type: all of it or one part. Several parts are
refused with a text, even for `HEAD`, which is otherwise answered without a body. -/
def sendEntry (entry : Entry) (type : String) (r : Request) : Response :=
  let headers := [("content-type", type)]
  let content := if r.method = "HEAD" then [] else entry.content
  match rangeHeader? r with
  | none => { status := .ok, headers, body := content }
  | some header =>
    match parts? header entry.size with
    | none => { status := .rangeNotSatisfiable, headers }
    | some [part] => { status := .partialContent, headers, body := part.of content }
    | some _ =>
      { status := .rangeNotSatisfiable
        headers
        body := Bytes.ofText "Cannot serve multipart range requests" }

/-- The response to a request for the entry at a place. The conditions come first: the files must
not have been written after one date, and must have been written after the other. -/
def send (assets : Assets) (place : List String) (r : Request) : Response :=
  match assets.find? place with
  | none => { status := if assets.isUnusable place then .internalServerError else .notFound }
  | some entry =>
    if (condition? r "if-unmodified-since").any (·.seconds < assets.modified.seconds) then
      { status := .preconditionFailed }
    else if (condition? r "if-modified-since").any (assets.modified.seconds ≤ ·.seconds) then
      { status := .notModified }
    else sendEntry entry (mediaType (place.getLastD "")) r

/-- The response for a path. A directory is named with a slash at the end, and stands for the index
page in it; without the slash the response leads there. -/
def serve (assets : Assets) (r : Request) : Response :=
  match place? r.path with
  | none => { status := .notFound }
  | some place =>
    if assets.isDirectory place then
      -- The path as it was sent, where an escaped slash does not count.
      if r.path.toList.getLast? = some '/' then assets.send (place ++ ["index.html"]) r
      else
        let target := { r.target with path := r.path ++ "/" }
        { status := .temporaryRedirect, headers := [("location", target.toText)] }
    else assets.send place r

end Assets

end HexMonitor.Http
