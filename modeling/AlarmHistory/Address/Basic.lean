import AlarmHistory.Address.Escape
import AlarmHistory.Decimal.Digits
/- Addresses of resources, in their parts. -/
namespace AlarmHistory

/-- User, path, query and fragment hold escapes. The port is left out when it is the usual one.
   Where there is no host the path need not begin with a slash. -/
structure Address where
  scheme : String
  user : Option (String × Option String) := none
  host : Option String := none
  port : Option Nat := none
  path : String
  query : Option String
  fragment : Option String
  deriving DecidableEq, Repr

namespace Address

def fileScheme : String := "file"

def credentials (a : Address) : Option (String × Option String) := do
  let (name, password) ← a.user
  let name ← unescaped? name.toList
  let password := password.bind fun p => unescaped? p.toList
  if name == "" && password.isNone then none else some (name, password)

def userText (a : Address) : String :=
  match a.user, a.credentials with
  | some (name, password), none => name ++ (password.map (":" ++ ·)).getD "" ++ "@"
  | _, _ => ""

/-- What comes before the path. A dot keeps an empty segment at the front of a path from being taken
   for the beginning of a host. -/
def authority (a : Address) : String :=
  match a.host with
  | some h => "//" ++ a.userText ++ h ++ (a.port.map fun p => ":" ++ Decimal.natText p).getD ""
  | none =>
    if a.scheme == fileScheme then "//" else if "//".isPrefixOf a.path then "/." else ""

def resource (a : Address) : String := a.path ++ (a.query.map ("?" ++ ·)).getD ""

def text (a : Address) : String :=
  a.scheme ++ ":" ++ a.authority ++ a.resource ++ (a.fragment.map ("#" ++ ·)).getD ""

def isWeb (a : Address) : Bool := a.scheme == "http" || a.scheme == "https"

def unsendable : List Char := "\"\x60\x7b\x7d".toList

def maxLength : Nat := 65534

def isSendable (a : Address) : Bool :=
  a.isWeb && a.text.utf8ByteSize ≤ maxLength &&
    !(a.host.getD "").toList.any (unsendable.contains ·)

end Address
end AlarmHistory
