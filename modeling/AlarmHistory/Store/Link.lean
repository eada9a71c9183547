import AlarmHistory.Address.Reading
/- What goes to a store and what comes back. -/
namespace AlarmHistory.Store

inductive Method where
  | put
  | post
  deriving DecidableEq, Repr

def Method.name : Method → String
  | put => "PUT"
  | post => "POST"

structure Request where
  method : Method
  address : Address
  authorization : Option String
  contentType : String
  body : String
  timeoutMs : Nat
  deriving DecidableEq, Repr

inductive Reply where
  | unanswered
  | answered (status : Nat) (body : String)
  deriving DecidableEq, Repr

/-- How requests reach a store, and how time passes between them. -/
structure Link (m : Type → Type) where
  send : Request → m Reply
  wait : Nat → m Unit

inductive StoreError where
  | unusable (fault : Address.Fault)
  | unanswered (address : String)
  | undecodable
  | status (status : Nat) (body : String)
  | mismatch
  deriving DecidableEq, Repr

namespace StoreError

def message : StoreError → String
  | unusable .unreadable => "HTTP error: builder error"
  | unusable (.notWeb address) => "HTTP error: builder error for url (" ++ address ++ ")"
  | unanswered address => "HTTP error: error sending request for url (" ++ address ++ ")"
  | undecodable => "HTTP error: error decoding response body"
  | status n body => "Store returned status " ++ toString n ++ ": " ++ body
  | mismatch => "JSON error"

end StoreError

def base64Digit (n : Nat) : Char :=
  if n < 26 then Char.ofNat (65 + n)
  else if n < 52 then Char.ofNat (71 + n)
  else if n < 62 then Char.ofNat (n - 4)
  else if n == 62 then '+' else '/'

def base64 : List UInt8 → List Char
  | a :: b :: c :: rest =>
    let n := a.toNat * 65536 + b.toNat * 256 + c.toNat
    base64Digit (n / 262144) :: base64Digit (n / 4096 % 64) :: base64Digit (n / 64 % 64) ::
      base64Digit (n % 64) :: base64 rest
  | [a, b] =>
    let n := a.toNat * 256 + b.toNat
    [base64Digit (n / 1024), base64Digit (n / 16 % 64), base64Digit (n * 4 % 64), '=']
  | [a] => [base64Digit (a.toNat / 4), base64Digit (a.toNat * 16 % 64), '=', '=']
  | [] => []

def basicAuthorization (user : String) (password : Option String) : String :=
  "Basic " ++ String.ofList (base64 (user ++ ":" ++ password.getD "").toUTF8.toList)

end AlarmHistory.Store
