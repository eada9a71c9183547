import AlarmHistory.Store.Link
/- Requests and replies as they go over a connection that carries one exchange. -/
namespace AlarmHistory.Store

namespace Request

def hostText (r : Request) : String :=
  r.address.host.getD "" ++ (r.address.port.map fun p => ":" ++ toString p).getD ""

def message (r : Request) : String :=
  String.join ([r.method.name ++ " " ++ r.address.resource ++ " HTTP/1.1",
    "host: " ++ r.hostText,
    "content-type: " ++ r.contentType,
    "content-length: " ++ toString r.body.utf8ByteSize,
    "accept: */*",
    "connection: close"].map (· ++ "\r\n") ++
    (r.authorization.map fun a => "authorization: " ++ a ++ "\r\n").toList ++ ["\r\n", r.body])

end Request

namespace Wire

def line : List UInt8 → List Char × List UInt8
  | [] => ([], [])
  | 13 :: 10 :: rest => ([], rest)
  | 10 :: rest => ([], rest)
  | b :: rest => let (l, after) := line rest; (Char.ofNat b.toNat :: l, after)

/-- The header lines up to the empty one, by names in lower case, and the body after them. -/
def headers : Nat → List UInt8 → List (String × String) × List UInt8
  | 0, bytes => ([], bytes)
  | fuel + 1, bytes =>
    match line bytes with
    | ([], rest) => ([], rest)
    | (l, rest) =>
      let name := l.takeWhile (· != ':')
      let value := (l.drop (name.length + 1)).dropWhile (· == ' ')
      let (more, body) := headers fuel rest
      ((String.ofList (name.map Address.lower), String.ofList value) :: more, body)

def chunks : Nat → List UInt8 → List UInt8
  | 0, _ => []
  | fuel + 1, bytes =>
    let (l, rest) := line bytes
    let size := (l.takeWhile fun c => (Address.hexValue? c).isSome).foldl
      (fun n c => 16 * n + (Address.hexValue? c).getD 0) 0
    if size = 0 then []
    else rest.take size ++ chunks fuel (line (rest.drop size)).2

def status? (l : List Char) : Option Nat :=
  Decimal.natOfDigits? (((l.dropWhile (· != ' ')).dropWhile (· == ' ')).takeWhile (· != ' '))

def text (bytes : List UInt8) : String :=
  (String.fromUTF8? ⟨bytes.toArray⟩).getD
    (String.ofList (bytes.map fun b => if b < 128 then Char.ofNat b.toNat else '\uFFFD'))

def reply (bytes : List UInt8) : Reply :=
  let (first, rest) := line bytes
  match status? first with
  | none => .unanswered
  | some status =>
    let (fields, body) := headers rest.length rest
    let body :=
      if fields.lookup "transfer-encoding" == some "chunked" then chunks body.length body
      else
        match (fields.lookup "content-length").bind fun v => Decimal.natOfDigits? v.toList with
        | some n => body.take n
        | none => body
    .answered status (text body)

end Wire
end AlarmHistory.Store
