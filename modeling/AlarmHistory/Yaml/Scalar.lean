import AlarmHistory.Yaml.Cursor
/- Scalars as they are written: plain, quoted, and block scalars. Each reader gives the text and
   the place after it, or nothing when the text breaks the grammar. -/
namespace AlarmHistory.Yaml

/-- Blanks and breaks between two pieces of a scalar. Once there was a break, blanks no longer
   count; the first break is kept apart from those after it. -/
structure Gap where
  blanks : List Char := []
  first : List Char := []
  more : List Char := []
  broken : Bool := false
  deriving DecidableEq, Repr

namespace Gap

def joined (g : Gap) : List Char :=
  if g.broken then
    if g.first == ['\n'] then (if g.more.isEmpty then [' '] else g.more)
    else g.first ++ g.more
  else g.blanks

def read (tabColumn : Option Nat) : Nat → Cursor → Gap → Option (Gap × Cursor)
  | 0, c, g => some (g, c)
  | fuel + 1, c, g =>
    match c.peek with
    | none => some (g, c)
    | some d =>
      if isBlank d then
        if g.broken && d == '\t' && tabColumn.any (c.column < ·) then none
        else
          read tabColumn fuel c.skip
            (if g.broken then g else { g with blanks := g.blanks ++ [d] })
      else if isBreak d then
        read tabColumn fuel c.skipLine
          (if g.broken then { g with more := g.more ++ c.breakChar }
           else { g with blanks := [], first := c.breakChar, broken := true })
      else some (g, c)

end Gap

def isFlowIndicator (d : Char) : Bool :=
  d == ',' || d == '[' || d == ']' || d == '\x7b' || d == '\x7d'

/-- One unbroken piece of a plain scalar. In a flow collection a colon may not stand right before
   an indicator. -/
def plainPiece (inFlow : Bool) : List Char → Option (List Char)
  | [] => some []
  | d :: rest =>
    if isBlank d || isBreak d then some []
    else if d == ':' && rest.head?.all (fun e => isBlank e || isBreak e) then some []
    else if inFlow && d == ':' && rest.head?.any (fun e => isFlowIndicator e || e == '?') then none
    else if inFlow && isFlowIndicator d then some []
    else (plainPiece inFlow rest).map (d :: ·)

def plainScalar (inFlow : Bool) (indent : Nat) :
    Nat → Cursor → List Char → Gap → Option (List Char × Cursor × Bool)
  | 0, c, done, gap => some (done, c, gap.broken)
  | fuel + 1, c, done, gap =>
    if c.onAnyMarker || c.isAt '#' then some (done, c, gap.broken)
    else do
      let piece ← plainPiece inFlow c.rest
      let c := c.skipN piece.length
      let (done, gap) := if piece.isEmpty then (done, gap) else (done ++ gap.joined ++ piece, {})
      if !(c.onBlank || c.onBreak) then some (done, c, gap.broken)
      else do
        let (gap, c) ← Gap.read (some indent) c.rest.length c gap
        if !inFlow && c.column < indent then some (done, c, gap.broken)
        else plainScalar inFlow indent fuel c done gap

def escapes : List (Char × Char) :=
  [('0', '\x00'), ('a', '\x07'), ('b', '\x08'), ('t', '\t'), ('\t', '\t'), ('n', '\n'),
    ('v', '\x0b'), ('f', '\x0c'), ('r', '\r'), ('e', '\x1b'), (' ', ' '), ('"', '"'), ('/', '/'),
    ('\\', '\\'), ('N', '\x85'), ('_', '\xa0'), ('L', '\u2028'), ('P', '\u2029')]

def hexLength? (d : Char) : Option Nat :=
  if d == 'x' then some 2 else if d == 'u' then some 4 else if d == 'U' then some 8 else none

def hexValue? (ds : List Char) : Option Nat :=
  ds.foldlM (fun n d => (hexDigit? d).map (16 * n + ·)) 0

def escape? : List Char → Option (Char × Nat)
  | [] => none
  | d :: rest =>
    match hexLength? d with
    | none => (escapes.lookup d).map (·, 1)
    | some n =>
      if rest.length < n then none
      else do
        let v ← hexValue? (rest.take n)
        if (0xD800 ≤ v && v ≤ 0xDFFF) || 0x10FFFF < v then none
        else some (Char.ofNat v, n + 1)

def quotedScalar (single : Bool) : Nat → Cursor → List Char → Gap → Option (List Char × Cursor)
  | 0, _, _, _ => none
  | fuel + 1, c, done, gap =>
    match c.peek with
    | none => none
    | some d =>
      if c.onAnyMarker then none
      else if isBlank d || isBreak d then do
        let (gap, c) ← Gap.read none c.rest.length c gap
        quotedScalar single fuel c (done ++ gap.joined) {}
      else if single && d == '\'' && c.peekAt 1 == some '\'' then
        quotedScalar single fuel (c.skipN 2) (done ++ ['\'']) {}
      else if d == (if single then '\'' else '"') then some (done, c.skip)
      else if !single && d == '\\' then
        if (c.peekAt 1).any isBreak then do
          let (gap, c) ← Gap.read none c.rest.length c.skip.skipLine { gap with broken := true }
          quotedScalar single fuel c (done ++ gap.joined) {}
        else do
          let (e, n) ← escape? c.rest.tail
          quotedScalar single fuel (c.skipN (n + 1)) (done ++ [e]) {}
      else quotedScalar single fuel c.skip (done ++ [d]) {}

inductive Chomp where
  | clip
  | strip
  | keep
  deriving DecidableEq, Repr

def chomp? (d : Char) : Option Chomp :=
  if d == '+' then some .keep else if d == '-' then some .strip else none

def blockHeader (c : Cursor) : Option (Chomp × Option Nat × Cursor) := do
  let chompAt (c : Cursor) : Option Chomp := c.peek.bind chomp?
  let digitAt (c : Cursor) : Option Nat := c.peek.bind digit?
  let (chomp, width, c) := match chompAt c, digitAt c with
    | some h, _ => match digitAt c.skip with
      | some n => (h, some n, c.skipN 2)
      | none => (h, none, c.skip)
    | none, some n => match chompAt c.skip with
      | some h => (h, some n, c.skipN 2)
      | none => (.clip, some n, c.skip)
    | none, none => (.clip, none, c)
  if width == some 0 then none
  let c := (c.skipWhile isBlank).skipComment
  if c.onLineEnd then some (chomp, width, if c.onBreak then c.skipLine else c) else none

def blockBreaks (indent : Option Nat) :
    Nat → Cursor → List Char → Nat → Option (List Char × Nat × Cursor)
  | 0, c, breaks, widest => some (breaks, widest, c)
  | fuel + 1, c, breaks, widest =>
    let room (column : Nat) : Bool := indent.all (column < ·)
    if room c.column && c.isAt ' ' then blockBreaks indent fuel c.skip breaks widest
    else
      let widest := max widest c.column
      if room c.column && c.isAt '\t' then none
      else if c.onBreak then blockBreaks indent fuel c.skipLine (breaks ++ c.breakChar) widest
      else some (breaks, widest, c)

/-- The lines of a block scalar. `lead` is the break after the last line read, `breaks` the empty
   lines after it, and `indented` says that the last line began with a blank. -/
def blockLines (literal : Bool) (chomp : Chomp) (indent : Nat) :
    Nat → Cursor → List Char → List Char → List Char → Bool → Option (List Char × Cursor)
  | 0, _, _, _, _, _ => none
  | fuel + 1, c, done, lead, breaks, indented =>
    if c.column == indent && !c.atEnd then do
      let fold := !literal && lead == ['\n'] && !indented && !c.onBlank
      let lead := if fold then (if breaks.isEmpty then [' '] else []) else lead
      let line := c.run (!isBreak ·)
      let after := c.skipWhile (!isBreak ·)
      let next := if after.onBreak then after.skipLine else after
      let (more, _, next) ← blockBreaks (some indent) (next.rest.length + 1) next [] 0
      blockLines literal chomp indent fuel next (done ++ lead ++ breaks ++ line) after.breakChar
        more c.onBlank
    else
      let tail := match chomp with
        | .strip => []
        | .clip => lead
        | .keep => lead ++ breaks
      some (done ++ tail, c)

def blockScalar (literal : Bool) (parent : Int) (c : Cursor) : Option (List Char × Cursor) := do
  let (chomp, width, c) ← blockHeader c
  let given := width.map fun n => if 0 ≤ parent then parent.toNat + n else n
  let (breaks, widest, c) ← blockBreaks given (c.rest.length + 1) c [] 0
  let indent := given.getD (max widest (max (parent + 1).toNat 1))
  blockLines literal chomp indent (c.rest.length + 1) c [] [] breaks false

end AlarmHistory.Yaml
