/- Properties of characters, written as runs. Characters follow each other by number, and a run says
   how many of them share a property: a hexadecimal length, a sign for the property, and maybe
   numbers with dots between them. -/
namespace AlarmHistory.Domain

structure Run where
  length : Nat
  sign : Char
  numbers : List Nat
  deriving DecidableEq, Repr

namespace Run

def hexDigit? (c : Char) : Option Nat :=
  if '0' ≤ c && c ≤ '9' then some (c.toNat - 48)
  else if 'A' ≤ c && c ≤ 'F' then some (c.toNat - 55)
  else none

/-- Reads on: the length up to the sign, then the numbers. -/
def extend (r : Run) (c : Char) : Run :=
  match hexDigit? c, r.numbers with
  | some d, [] => { r with length := 16 * r.length + d }
  | some d, n :: rest => { r with numbers := (16 * n + d) :: rest }
  | none, ns =>
    if c == '.' then { r with numbers := 0 :: ns } else { r with sign := c, numbers := [0] }

def ofWord (w : String) : Run :=
  let r := w.toList.foldl extend ⟨0, ' ', []⟩
  { r with numbers := r.numbers.reverse }

def first (r : Run) : Nat := r.numbers.headD 0

end Run

def runsOf (ls : List String) : List Run :=
  ls.flatMap fun l => (l.splitOn " ").map Run.ofWord

def runAt : List Run → Nat → Option (Run × Nat)
  | [], _ => none
  | r :: rest, n => if n < r.length then some (r, n) else runAt rest (n - r.length)

def signAt (rs : List Run) (usual : Char) (c : Char) : Char :=
  match runAt rs c.toNat with
  | some (r, _) => r.sign
  | none => usual

end AlarmHistory.Domain
