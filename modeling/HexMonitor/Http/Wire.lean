import HexMonitor.Http.Message
import HexMonitor.Text.Numeral
import HexMonitor.Text.Split

namespace HexMonitor.Http

def chomp (line : String) : String :=
  String.ofList (line.toList.filter fun c => c ≠ '\r' ∧ c ≠ '\n')

def requestLine? (line : String) : Option (String × String) :=
  match line.splitOn " " with
  | [method, target, version] =>
    if version.startsWith "HTTP/1." ∧ target ≠ "" then some (method, target) else none
  | _ => none

def headerLine? (line : String) : Option (String × String) :=
  match line.toList.span (· ≠ ':') with
  | (name, ':' :: value) => some (String.ofList name, String.ofList (Text.trimBlanks value))
  | _ => none

/-- The announced lengths of bodies fit 64 bits. -/
def announcedLength : Text.Numeral := ⟨10, none, true, 18446744073709551616⟩

def Request.announcedLength? (r : Request) : Option Nat :=
  (r.header? "content-length").bind fun value => announcedLength.readAll? value.toList

/-- The response as it is sent. The length of the body is always announced. -/
def Response.wire (r : Response) : Bytes :=
  let first := "HTTP/1.1 " ++ toString r.status.number ++ " " ++ r.status.phrase ++ "\r\n"
  let headers := (r.headers ++ [("content-length", toString r.body.length)]).map
    fun (name, value) => name ++ ": " ++ value ++ "\r\n"
  Bytes.ofText (first ++ String.join headers ++ "\r\n") ++ r.body

end HexMonitor.Http
