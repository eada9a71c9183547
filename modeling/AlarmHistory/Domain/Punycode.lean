/- Labels of domain names in ASCII. The ASCII characters of a label come first and in order; the
   others are told by how far it is from each to the next, in the order of their numbers and then of
   their places. Distances are written in digits of base 36, lowest first, and a digit below a
   threshold is the last one. The thresholds follow how large the distances have been. -/
namespace AlarmHistory.Domain.Punycode

def base : Nat := 36

def firstNumber : Nat := 128

def firstBias : Nat := 72

def digitChar (d : Nat) : Char := if d < 26 then Char.ofNat (97 + d) else Char.ofNat (22 + d)

def digit? (c : Char) : Option Nat :=
  if 'a' ≤ c && c ≤ 'z' then some (c.toNat - 97)
  else if 'A' ≤ c && c ≤ 'Z' then some (c.toNat - 65)
  else if '0' ≤ c && c ≤ '9' then some (c.toNat - 22)
  else none

def threshold (bias weight : Nat) : Nat :=
  if weight ≤ bias + 1 then 1 else if bias + 26 ≤ weight then 26 else weight - bias

theorem threshold_pos (bias weight : Nat) : 0 < threshold bias weight := by
  unfold threshold; split
  · omega
  · split <;> omega

def scaled (delta : Nat) : Nat × Nat :=
  if 455 < delta then
    let (d, k) := scaled (delta / 35)
    (d, k + base)
  else (delta, 0)
termination_by delta
decreasing_by omega

/-- The bias after a distance, with so many characters placed. -/
def adapted (delta count : Nat) (isFirst : Bool) : Nat :=
  let delta := if isFirst then delta / 700 else delta / 2
  let (d, k) := scaled (delta + delta / count)
  k + base * d / (d + 38)

def digits (bias weight delta : Nat) : List Char :=
  let t := threshold bias weight
  if delta < t then [digitChar delta]
  else
    digitChar (t + (delta - t) % (base - t)) ::
      digits bias (weight + base) ((delta - t) / (base - t))
termination_by delta
decreasing_by
  have positive := threshold_pos bias weight
  have _ := Nat.div_le_self (delta - threshold bias weight) (base - threshold bias weight)
  omega

/-- What has been written so far. `delta` counts the places passed since the last character. -/
structure Writing where
  text : List Char
  delta : Nat
  bias : Nat
  placed : Nat
  deriving DecidableEq, Repr

def Writing.pass (ascii number : Nat) (w : Writing) (c : Char) : Writing :=
  if c.toNat < number then { w with delta := w.delta + 1 }
  else if c.toNat = number then
    { text := w.text ++ digits w.bias base w.delta
      delta := 0
      bias := adapted w.delta (w.placed + 1) (w.placed == ascii)
      placed := w.placed + 1 }
  else w

def Writing.place (label : List Char) (ascii : Nat) : Nat → List Nat → Writing → Writing
  | _, [], w => w
  | next, number :: rest, w =>
    let w := { w with delta := w.delta + (number - next) * (w.placed + 1) }
    let w := label.foldl (Writing.pass ascii number) w
    place label ascii (number + 1) rest { w with delta := w.delta + 1 }

def insertNumber (n : Nat) : List Nat → List Nat
  | [] => [n]
  | m :: rest =>
    if n < m then n :: m :: rest else if n = m then m :: rest else m :: insertNumber n rest

def isAscii (c : Char) : Bool := c.toNat < firstNumber

def encode (label : List Char) : List Char :=
  let ascii := label.filter isAscii
  let others := (label.filter (!isAscii ·)).foldl (fun ns c => insertNumber c.toNat ns) []
  let start := if ascii.isEmpty then [] else ascii ++ ['-']
  (Writing.place label ascii.length firstNumber others ⟨start, 0, firstBias, ascii.length⟩).text

/-- What has been read so far. The digits of the distance at hand have come up to `delta`, and the
   next digit counts `unit` times. -/
structure Decoding where
  label : List Char
  number : Nat := firstNumber
  place : Nat := 0
  bias : Nat := firstBias
  isFirst : Bool := true
  delta : Nat := 0
  unit : Nat := 1
  weight : Nat := base
  deriving DecidableEq, Repr

def charOfNat? (n : Nat) : Option Char :=
  if h : n.isValidChar then some (Char.ofNatAux n h) else none

def insertAt (c : Char) (n : Nat) (cs : List Char) : List Char := cs.take n ++ c :: cs.drop n

def Decoding.put (d : Decoding) : Option Decoding := do
  let count := d.label.length + 1
  let goal := d.place + d.delta
  let number := d.number + goal / count
  let c ← charOfNat? number
  return {
    label := insertAt c (goal % count) d.label
    number
    place := goal % count + 1
    bias := adapted d.delta count d.isFirst
    isFirst := false }

def Decoding.step (d : Decoding) (c : Char) : Option Decoding := do
  let n ← digit? c
  let t := threshold d.bias d.weight
  let d := { d with delta := d.delta + n * d.unit }
  if n < t then d.put
  else some { d with unit := d.unit * (base - t), weight := d.weight + base }

/-- The label that a text stands for. The text before the last hyphen is its ASCII part. -/
def decode? (cs : List Char) : Option (List Char) := do
  let after := (cs.reverse.takeWhile (· != '-')).reverse
  let before := cs.take (cs.length - after.length - 1)
  let (ascii, rest) := if before.isEmpty then ([], cs) else (before, after)
  if !ascii.all isAscii then none
  let d ← rest.foldlM Decoding.step { label := ascii }
  if d.weight = base then some d.label else none

end AlarmHistory.Domain.Punycode
