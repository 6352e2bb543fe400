namespace HexMonitor.Http

structure Target where
  /-- The scheme and the authority, if they are named before the path. -/
  origin? : Option (String × String) := none
  path : String
  /-- What stands behind the first question mark. -/
  query? : Option String := none
  deriving DecidableEq, Repr

namespace Target

def ofPathText (text : List Char) : Target :=
  let text := text.takeWhile (· ≠ '#')
  { path := String.ofList (text.takeWhile (· ≠ '?'))
    query? := match text.dropWhile (· ≠ '?') with
      | _ :: query => some (String.ofList query)
      | [] => none }

/-- The scheme in front of a text, and what follows the two slashes behind it. -/
def splitScheme? (text : List Char) : Option (List Char × List Char) :=
  match text.dropWhile (· ≠ ':') with
  | ':' :: '/' :: '/' :: rest => some (text.takeWhile (· ≠ ':'), rest)
  | _ => none

/-- A scheme as it is written out: the two of the web are known in either letter case. -/
def normalScheme (scheme : String) : String :=
  let lowercase := scheme.map Char.toLower
  if lowercase = "http" ∨ lowercase = "https" then lowercase else scheme

def isAuthorityCharacter (c : Char) : Bool := c ≠ '/' ∧ c ≠ '?' ∧ c ≠ '#'

/-- The target that a text stands for. Behind an authority a missing path is the root. -/
def ofText (text : String) : Target :=
  if text.toList.head? = some '/' ∨ text = "*" then ofPathText text.toList
  else
    match splitScheme? text.toList with
    | none => { path := "" }
    | some (scheme, rest) =>
      let target := ofPathText (rest.dropWhile isAuthorityCharacter)
      { target with
        origin? := some (normalScheme (String.ofList scheme),
          String.ofList (rest.takeWhile isAuthorityCharacter))
        path := if target.path = "" then "/" else target.path }

def toText (target : Target) : String :=
  let origin := match target.origin? with
    | some (scheme, authority) => scheme ++ "://" ++ authority
    | none => ""
  let query := match target.query? with
    | some query => "?" ++ query
    | none => ""
  origin ++ target.path ++ query

end Target

end HexMonitor.Http
