import AlarmHistory.Address.Escape
import AlarmHistory.Decimal.Digits
/- Hosts that are numbers: four bytes with dots between them, or eight groups of hexadecimal digits
   with colons between them, in brackets. -/
namespace AlarmHistory.Address

open Decimal

def hostNumber? (cs : List Char) : Option Nat :=
  let ofBase (base : Nat) (ds : List Char) : Option Nat :=
    ds.foldlM (fun n d => do
      let v ← hexValue? d
      if v < base then some (base * n + v) else none) 0
  match cs with
  | [] => none
  | '0' :: x :: ds => if lower x == 'x' then ofBase 16 ds else ofBase 8 (x :: ds)
  | _ => ofBase 10 cs

def endsInNumber (parts : List (List Char)) : Bool :=
  match parts.getLast? with
  | some p => (!p.isEmpty && p.all isDigit) || (hostNumber? p).isSome
  | none => false

/-- The four bytes of a numeric host, in which the last number fills all bytes that are left. -/
def hostBytes? (parts : List (List Char)) : Option (List Nat) := do
  if 4 < parts.length then none
  let ns ← parts.mapM hostNumber?
  let last ← ns.getLast?
  let front := ns.dropLast
  if front.any (255 < ·) || Nat.pow 256 (4 - front.length) ≤ last then none
  let value := front.zipIdx.foldl (fun n (b, i) => n + b * Nat.pow 256 (3 - i)) last
  some [value / 16777216 % 256, value / 65536 % 256, value / 256 % 256, value % 256]

def bytesText (bytes : List Nat) : List Char := ['.'].intercalate (bytes.map natDigits)

def plainBytes? (cs : List Char) : Option (List Nat) := do
  let parts := pieces (· == '.') cs
  if parts.length != 4 then none
  parts.mapM fun p => do
    let n ← natOfDigits? p
    if 255 < n || (1 < p.length && p.head? == some '0') then none else some n

/-- The groups of a host in brackets, and how many of them stand before the gap that fills up with
   zeros. -/
structure Groups where
  groups : List Nat := []
  gap : Option Nat := none
  deriving DecidableEq, Repr

namespace Groups

def add (g : Groups) (ns : List Nat) : Groups := { g with groups := g.groups ++ ns }

def group? (cs : List Char) : Option Nat :=
  if cs.isEmpty || 4 < cs.length then none
  else cs.foldlM (fun n d => (hexValue? d).map (16 * n + ·)) 0

/-- Reads the pieces between the colons. Only at a gap is a piece empty, and it is there once. The
   last two groups may be written as four bytes. -/
def read (g : Groups) : List (List Char) → Option Groups
  | [] => some g
  | [p] =>
    if p.contains '.' then do
      match ← plainBytes? p with
      | [a, b, c, d] => some (g.add [256 * a + b, 256 * c + d])
      | _ => none
    else (group? p).map fun n => g.add [n]
  | [] :: rest =>
    if g.gap.isSome then none
    else
      let g := { g with gap := some g.groups.length }
      if rest == [[]] then some g else g.read rest
  | p :: q :: rest => do (g.add [← group? p]).read (q :: rest)

def filled? (g : Groups) : Option (List Nat) :=
  match g.gap with
  | none => if g.groups.length = 8 then some g.groups else none
  | some n =>
    if 7 < g.groups.length then none
    else some (g.groups.take n ++ List.replicate (8 - g.groups.length) 0 ++ g.groups.drop n)

end Groups

def groups? (cs : List Char) : Option (List Nat) :=
  match cs with
  | ':' :: ':' :: [] => some (List.replicate 8 0)
  | ':' :: ':' :: rest => Groups.read { gap := some 0 } (pieces (· == ':') rest) >>= Groups.filled?
  | ':' :: _ => none
  | _ => Groups.read {} (pieces (· == ':') cs) >>= Groups.filled?

def zeros (gs : List Nat) : Nat := (gs.takeWhile (· == 0)).length

def longestZeros : Nat → List Nat → Nat × Nat
  | at_, [] => (at_, 0)
  | at_, n :: rest =>
    let here := zeros (n :: rest)
    let later := longestZeros (at_ + 1) rest
    if 0 < here && later.2 ≤ here then (at_, here) else later

def hexDigits (n : Nat) : List Char := Nat.toDigits 16 n

def joined (gs : List Nat) : List Char := [':'].intercalate (gs.map hexDigits)

def groupsText (gs : List Nat) : List Char :=
  let (place, run) := longestZeros 0 gs
  if run < 2 then joined gs
  else joined (gs.take place) ++ [':', ':'] ++ joined (gs.drop (place + run))

end AlarmHistory.Address
