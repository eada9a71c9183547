import AlarmHistory.Decimal.Binary64
import AlarmHistory.Decimal.Digits
/- The shortest decimal text of a binary number: the fewest digits that lie in the interval of
   reals rounding to the number, and of those the nearest. A zero keeps its sign. -/
namespace AlarmHistory.Binary64

open Decimal

/-- The reals that round to a number, between `low` and `high`, with a common denominator. -/
structure Interval where
  low : Nat
  value : Nat
  high : Nat
  den : Nat
  closed : Bool
  deriving DecidableEq, Repr

def interval (x : Binary64) : Interval :=
  let (p, q) := pow2 x.exponent
  let gap := if x.mantissa = Nat.pow 2 52 ∧ -1074 < x.exponent then 1 else 2
  { low := (4 * x.mantissa - gap) * p
    value := 4 * x.mantissa * p
    high := (4 * x.mantissa + 2) * p
    den := 4 * q
    closed := x.mantissa % 2 = 0 }

def Interval.holds (i : Interval) (d : Nat) (power : Int) : Bool :=
  let up := if 0 ≤ power then Nat.pow 10 power.toNat else 1
  let down := if 0 ≤ power then 1 else Nat.pow 10 (-power).toNat
  let point := d * up * i.den
  if i.closed then i.low * down ≤ point && point ≤ i.high * down
  else i.low * down < point && point < i.high * down

/-- The two neighbours of the value on the grid of multiples of 10^power; the nearer one that
   lies in the interval, a tie going to the even neighbour. -/
def Interval.onGrid (i : Interval) (power : Int) : Option Nat :=
  let up := if 0 ≤ power then Nat.pow 10 power.toNat else 1
  let down := if 0 ≤ power then 1 else Nat.pow 10 (-power).toNat
  let below := i.value * down / (up * i.den)
  let rest := 2 * (i.value * down - below * (up * i.den))
  let nearBelow := rest < up * i.den || (rest == up * i.den && below % 2 == 0)
  match i.holds below power, i.holds (below + 1) power with
  | true, true => some (if nearBelow then below else below + 1)
  | true, false => some below
  | false, true => some (below + 1)
  | false, false => none

def leadingExponent (num den : Nat) : Int :=
  let count (n : Nat) : Int := (natDigits n).length
  let guess := count num - count den
  let reached := if 0 ≤ guess then decide (den * Nat.pow 10 guess.toNat ≤ num)
    else decide (den ≤ num * Nat.pow 10 (-guess).toNat)
  if reached then guess else guess - 1

def shortest (x : Binary64) : Nat × Int :=
  let i := x.interval
  let first := leadingExponent i.value i.den
  let found := (List.range 17).findSome? fun (n : Nat) =>
    (i.onGrid (first - n)).map fun d => (d, first - (n : Int))
  found.getD (0, 0)

def trimZeros (digits : List Char) : List Char × Nat :=
  let kept := (digits.reverse.dropWhile (· == '0')).reverse
  (kept, digits.length - kept.length)

structure Layout where
  leastPositional : Int
  mostPositional : Int
  plusSign : Bool
  deriving DecidableEq, Repr

def jsonLayout : Layout := ⟨-5, 15, true⟩

def Layout.exponent (l : Layout) (e : Int) : List Char :=
  'e' :: (if l.plusSign && decide (0 ≤ e) then '+' :: intDigits e else intDigits e)

def Layout.place (l : Layout) (digits : List Char) (first : Int) : List Char :=
  if l.leastPositional ≤ first ∧ first ≤ l.mostPositional then
    if first < 0 then '0' :: '.' :: (List.replicate (-first - 1).toNat '0' ++ digits)
    else
      let whole := digits.take (first.toNat + 1)
      let part := digits.drop (first.toNat + 1)
      whole ++ List.replicate (first.toNat + 1 - whole.length) '0' ++ '.' ::
        (if part.isEmpty then ['0'] else part)
  else
    match digits with
    | [] => []
    | [d] => d :: l.exponent first
    | d :: ds => d :: '.' :: (ds ++ l.exponent first)

def decimalDigits (x : Binary64) : List Char :=
  let sign := if x.negative then ['-'] else []
  if x.isZero then sign ++ ['0', '.', '0']
  else
    let (d, power) := x.shortest
    let (digits, dropped) := trimZeros (natDigits d)
    sign ++ jsonLayout.place digits (power + dropped + digits.length - 1)

end AlarmHistory.Binary64
