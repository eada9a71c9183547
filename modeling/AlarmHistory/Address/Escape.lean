/- Escapes in addresses: a byte is written as `%` and two hexadecimal digits. Each part of an
   address has its own set of characters that cannot stand as they are. -/
namespace AlarmHistory.Address

def isLower (c : Char) : Bool := 'a' ≤ c && c ≤ 'z'

def isUpper (c : Char) : Bool := 'A' ≤ c && c ≤ 'Z'

def isLetter (c : Char) : Bool := isLower c || isUpper c

def isDigit (c : Char) : Bool := '0' ≤ c && c ≤ '9'

def lower (c : Char) : Char := if isUpper c then Char.ofNat (c.toNat + 32) else c

def isControl (c : Char) : Bool := c.toNat < 0x20 || c.toNat == 0x7F

def upperHex (n : Nat) : Char := if n < 10 then Char.ofNat (48 + n) else Char.ofNat (55 + n)

def hexValue? (c : Char) : Option Nat :=
  if isDigit c then some (c.toNat - 48)
  else if 'a' ≤ lower c && lower c ≤ 'f' then some ((lower c).toNat - 87)
  else none

def charBytes (c : Char) : List UInt8 := (String.singleton c).toUTF8.toList

def escapeByte (b : UInt8) : List Char := ['%', upperHex (b.toNat / 16), upperHex (b.toNat % 16)]

/-- Controls, characters beyond ASCII and those of a further set become escapes. -/
def escaped (further : List Char) (cs : List Char) : List Char :=
  cs.flatMap fun c =>
    if isControl c || 0x7F < c.toNat || further.contains c then (charBytes c).flatMap escapeByte
    else [c]

def fragmentEscapes : List Char := " \"<>\x60".toList

def pathEscapes : List Char := fragmentEscapes ++ "#?\x7b\x7d".toList

def userEscapes : List Char := pathEscapes ++ "/:;=@[\\]^|".toList

def queryEscapes : List Char := " \"#<>".toList

def unescapedBytes : List Char → List UInt8
  | '%' :: a :: b :: rest =>
    match hexValue? a, hexValue? b with
    | some x, some y => UInt8.ofNat (16 * x + y) :: unescapedBytes rest
    | _, _ => 0x25 :: unescapedBytes (a :: b :: rest)
  | c :: rest => charBytes c ++ unescapedBytes rest
  | [] => []

def unescaped? (cs : List Char) : Option String :=
  String.fromUTF8? ⟨(unescapedBytes cs).toArray⟩

def splitAt (p : Char → Bool) (cs : List Char) : List Char × List Char :=
  (cs.takeWhile (!p ·), cs.dropWhile (!p ·))

/-- The pieces between the characters of a class, one more than there are of them. -/
def pieces (p : Char → Bool) : List Char → List (List Char)
  | [] => [[]]
  | c :: rest =>
    match pieces p rest with
    | s :: more => if p c then [] :: s :: more else (c :: s) :: more
    | [] => [[c]]

end AlarmHistory.Address
