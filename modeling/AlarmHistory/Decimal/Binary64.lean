/- Finite numbers of the 64-bit binary format, held as sign, mantissa and exponent.
   All arithmetic is exact on naturals and rounded once, to the nearest number, a tie to the
   even mantissa. Infinities are not numbers here: an operation that overflows has no value. -/
namespace AlarmHistory

structure Binary64 where
  negative : Bool
  mantissa : Nat
  exponent : Int
  deriving DecidableEq, Repr

namespace Binary64

def zero : Binary64 := ⟨false, 0, 0⟩

def neg (x : Binary64) : Binary64 := { x with negative := !x.negative }

def isZero (x : Binary64) : Bool := x.mantissa == 0

def roundDiv (num den : Nat) : Nat :=
  let q := num / den
  let r := num % den
  if 2 * r < den then q
  else if den < 2 * r then q + 1
  else if q % 2 = 0 then q else q + 1

def pow2 (e : Int) : Nat × Nat :=
  if 0 ≤ e then (Nat.pow 2 e.toNat, 1) else (1, Nat.pow 2 (-e).toNat)

/-- The exponent of the unit in which a positive fraction is rounded: 53 bits remain,
   and never finer than the format's smallest unit. -/
def unitExponent (num den : Nat) : Int :=
  let guess : Int := (num.log2 : Int) - (den.log2 : Int) - 52
  let (p, q) := pow2 guess
  let exact := if num * q < Nat.pow 2 52 * (den * p) then guess - 1 else guess
  max exact (-1074)

def ofRatio (num den : Nat) : Option Binary64 :=
  if num = 0 then some zero
  else
    let e := unitExponent num den
    let (p, q) := pow2 e
    let m := roundDiv (num * q) (den * p)
    let (m, e) := if m = Nat.pow 2 53 then (Nat.pow 2 52, e + 1) else (m, e)
    if 971 < e then none else some ⟨false, m, e⟩

def ofNat (n : Nat) : Option Binary64 := ofRatio n 1

def ratio (x : Binary64) : Nat × Nat :=
  let (p, q) := pow2 x.exponent
  (x.mantissa * p, q)

def mul (x y : Binary64) : Option Binary64 :=
  ofRatio (x.ratio.1 * y.ratio.1) (x.ratio.2 * y.ratio.2)

def div (x y : Binary64) : Option Binary64 :=
  ofRatio (x.ratio.1 * y.ratio.2) (x.ratio.2 * y.ratio.1)

def maxStep : Nat := 308

def shrink (x : Binary64) (n : Nat) : Binary64 :=
  ((ofNat (Nat.pow 10 n)).bind (x.div ·)).getD zero

/-- A significand of at most 64 bits times a power of ten, rounded at each step: first the
   significand, then the power, then their product. Below 10^-308 the scaling takes several
   steps, of which the third already gives zero. -/
def scaled (significand : Nat) (power : Int) : Option Binary64 :=
  (ofNat significand).bind fun x =>
    if x.isZero then some zero
    else if maxStep < power then none
    else if 0 ≤ power then (ofNat (Nat.pow 10 power.toNat)).bind (x.mul ·)
    else
      let n := (-power).toNat
      if n ≤ maxStep then some (x.shrink n)
      else if n ≤ 2 * maxStep then some ((x.shrink maxStep).shrink (n - maxStep))
      else some zero

end Binary64
end AlarmHistory
