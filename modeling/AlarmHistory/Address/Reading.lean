import AlarmHistory.Address.Basic
import AlarmHistory.Address.Host
import AlarmHistory.Address.Path
/- Addresses as they are written. They are read leniently and put into one form: the scheme and the
   host are in lower case, dots in the path are resolved, and characters that cannot stand as they
   are become escapes. -/
namespace AlarmHistory.Address

inductive Fault where
  | unreadable
  | notWeb (text : String)
  deriving DecidableEq, Repr

/-- Schemes whose addresses have a host and a path, with their usual ports. -/
def usualPorts : List (String × Nat) :=
  [("http", 80), ("https", 443), ("ws", 80), ("wss", 443), ("ftp", 21)]

def isSchemeChar (c : Char) : Bool := isLetter c || isDigit c || c == '+' || c == '-' || c == '.'

def scheme? (cs : List Char) : Option (String × List Char) :=
  let name := cs.takeWhile isSchemeChar
  match name, cs.drop name.length with
  | c :: _, ':' :: rest =>
    if isLetter c then some (String.ofList (name.map lower), rest) else none
  | _, _ => none

inductive Manner where
  | file
  | web (usualPort : Nat)
  | other
  deriving DecidableEq, Repr

namespace Manner

def ofScheme (scheme : String) : Manner :=
  if scheme == fileScheme then file
  else match usualPorts.lookup scheme with
    | some n => web n
    | none => other

def isSlash (m : Manner) (c : Char) : Bool := c == '/' || (m != other && c == '\\')

def queryEscapes (m : Manner) : List Char :=
  if m == other then Address.queryEscapes else '\'' :: Address.queryEscapes

end Manner

def splitUser (cs : List Char) : Option (List Char) × List Char :=
  match cs.reverse.dropWhile (· != '@') with
  | _ :: before => (some before.reverse, (cs.reverse.takeWhile (· != '@')).reverse)
  | [] => (none, cs)

def escapedText (further cs : List Char) : String := String.ofList (escaped further cs)

def user? (cs : List Char) : Option (String × Option String) :=
  let (name, password) := splitAt (· == ':') cs
  let password := password.drop 1
  if name.isEmpty && password.isEmpty then none
  else
    some (escapedText userEscapes name,
      if password.isEmpty then none else some (escapedText userEscapes password))

def port? (m : Manner) (cs : List Char) : Option (Option Nat × List Char) := do
  let digits := cs.takeWhile isDigit
  let rest := cs.dropWhile isDigit
  if !(rest.isEmpty || rest.head? == some '\\') then none
  if digits.isEmpty then some (none, rest)
  else
    let n ← Decimal.natOfDigits? digits
    if 65535 < n then none else some (if m == .web n then none else some n, rest)

structure Front where
  user : Option (String × Option String) := none
  host : Option (List Char) := none
  port : Option Nat := none
  path : List Char
  deriving DecidableEq, Repr

def pathAfter (m : Manner) (cs : List Char) : List Char :=
  match cs with
  | [] => if m == .other then [] else ['/']
  | c :: rest =>
    (Path.ofSegments false (pieces m.isSlash (if m.isSlash c then rest else cs))).text false

def withAuthority (m : Manner) (cs : List Char) : Option Front := do
  let (authority, path) := splitAt m.isSlash cs
  let (written, hostPort) := splitUser authority
  let user := written.bind user?
  let (host, port) := splitHost false hostPort
  if host.isEmpty && (m != .other || user.isSome || !port.isEmpty) then none
  if hostPort.isEmpty && written == some [] && !path.isEmpty then none
  let host ← if m == .other then blindHost? host else host? host
  let (port, rest) ← port? m (port.drop 1)
  return { user, host := some host, port, path := pathAfter m (rest ++ path) }

/-- A file: a host of its own unless it is this machine, and a path. A drive is never a host, and a
   path that begins with one is on no other host. -/
def file? (cs : List Char) : Option Front := do
  let slash := Manner.file.isSlash
  let here (path : List Char) : Front :=
    { path := (Path.ofSegments true (pieces slash path)).text true }
  let (start, rest) := (cs.takeWhile slash, cs.dropWhile slash)
  match start with
  | [] => some (here rest)
  | [_] => some (here rest)
  | _ :: _ :: more =>
    let (name, after) := splitAt slash (more ++ rest)
    if isDrive name then some (here (more ++ rest))
    else if name.isEmpty then some (here after)
    else do
      let host ← host? name
      if host == "localhost".toList then some (here after)
      else
        let path := Path.ofSegments true (pieces slash (after.drop 1))
        return { host := if path.atDrive then none else some host, path := path.text true }

/-- What follows any other scheme. Without a slash the path is taken as it is. -/
def other? (cs : List Char) : Option Front :=
  match cs with
  | '/' :: '/' :: rest => withAuthority .other rest
  | '/' :: _ => some { path := pathAfter .other cs }
  | _ => some { path := escaped [] cs }

def front? (m : Manner) (cs : List Char) : Option Front :=
  match m with
  | .file => file? cs
  | .web _ => withAuthority m (cs.dropWhile m.isSlash)
  | .other => other? cs

def read? (scheme : String) (cs : List Char) : Option Address := do
  let m := Manner.ofScheme scheme
  let (cs, fragment) := splitAt (· == '#') cs
  let (cs, query) := splitAt (· == '?') cs
  let front ← front? m cs
  return {
    scheme
    user := front.user
    host := front.host.map String.ofList
    port := front.port
    path := String.ofList front.path
    query := query.head?.map fun _ => escapedText m.queryEscapes query.tail
    fragment := fragment.head?.map fun _ => escapedText fragmentEscapes fragment.tail }

def trimmed (s : String) : List Char :=
  let outer (c : Char) : Bool := c.toNat ≤ 0x20
  let cs := ((s.toList.dropWhile outer).reverse.dropWhile outer).reverse
  cs.filter fun c => !(c == '\t' || c == '\n' || c == '\r')

def parse (s : String) : Except Fault Address :=
  match scheme? (trimmed s) >>= fun (scheme, rest) => read? scheme rest with
  | none => .error .unreadable
  | some a => if a.isSendable then .ok a else .error (.notWeb a.text)

end AlarmHistory.Address
