import AlarmHistory.Address.Numeric
import AlarmHistory.Domain.Name
/- Hosts of addresses: names, and numbers in either form. -/
namespace AlarmHistory.Address

def hostForbidden : List Char := " #/:<>?@[\\]^|%".toList

def bracketed? (rest : List Char) : Option (List Char) := do
  if rest.getLast? != some ']' then none
  let gs ← groups? rest.dropLast
  some ('[' :: (groupsText gs ++ [']']))

/-- A host of the web. Escapes stand for bytes, names go by their ASCII names, and a host that ends
   in a number is a number. -/
def host? (cs : List Char) : Option (List Char) := do
  match cs with
  | '[' :: rest => bracketed? rest
  | _ =>
    let name ← Domain.asciiName? (← unescaped? cs).toList
    if name.isEmpty || name.any (fun c => isControl c || hostForbidden.contains c) then none
    let parts := pieces (· == '.') name
    let parts := if 1 < parts.length && parts.getLast? == some [] then parts.dropLast else parts
    if endsInNumber parts then (hostBytes? parts).map bytesText else some name

def blindForbidden : List Char := "\x00\t\n\r #/:<>?@[\\]^|".toList

def blindHost? (cs : List Char) : Option (List Char) :=
  match cs with
  | '[' :: rest => bracketed? rest
  | _ => if cs.any blindForbidden.contains then none else some (escaped [] cs)

def splitHost : Bool → List Char → List Char × List Char
  | _, [] => ([], [])
  | inside, c :: cs =>
    if c == ':' && !inside then ([], c :: cs)
    else
      let (host, rest) := splitHost (c == '[' || (inside && c != ']')) cs
      (c :: host, rest)

end AlarmHistory.Address
