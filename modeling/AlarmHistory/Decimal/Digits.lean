/- Decimal digits of natural numbers and integers, as lists of characters.
   Leading zeros are never written, and a negative number has one leading '-'. -/
namespace AlarmHistory.Decimal

def digitChar (d : Nat) : Char := Char.ofNat (48 + d % 10)

def digitValue? (c : Char) : Option Nat :=
  if '0' ≤ c ∧ c ≤ '9' then some (c.toNat - 48) else none

def natDigits (n : Nat) : List Char :=
  if n < 10 then [digitChar n] else natDigits (n / 10) ++ [digitChar (n % 10)]

def intDigits (i : Int) : List Char :=
  if i < 0 then '-' :: natDigits i.natAbs else natDigits i.natAbs

def natText (n : Nat) : String := String.ofList (natDigits n)

def intText (i : Int) : String := String.ofList (intDigits i)

/-- The value of a run of digits; anything else counts as zero, so callers check first. -/
def ofDigits (cs : List Char) : Nat :=
  cs.foldl (fun n c => 10 * n + (digitValue? c).getD 0) 0

def padded (width n : Nat) : List Char :=
  let ds := natDigits n
  List.replicate (width - ds.length) '0' ++ ds

def natOfDigits? (cs : List Char) : Option Nat :=
  if cs.isEmpty || cs.any (fun c => (digitValue? c).isNone) then none else some (ofDigits cs)

end AlarmHistory.Decimal
