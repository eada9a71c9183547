import AlarmHistory.Yaml.Scalar
import AlarmHistory.Yaml.Markup
/- A YAML text as tokens. A key shows itself only at its colon, so the place of every scalar or
   collection that could be one is remembered, and the tokens for it are put in there later. -/
namespace AlarmHistory.Yaml

/-- Where a key may have begun. `required` says that nothing but a key may stand there. -/
structure KeyPlace where
  index : Nat
  start : Cursor
  required : Bool
  deriving DecidableEq, Repr

/-- The state of a scan. `places` holds one entry for every open flow collection and one for the
   block around them. -/
structure Scan where
  cursor : Cursor
  tokens : Array Token := #[]
  indent : Int := -1
  outer : List Int := []
  places : List (Option KeyPlace) := [none]
  keyAllowed : Bool := true
  deriving DecidableEq, Repr

namespace Scan

def inFlow (s : Scan) : Bool := 1 < s.places.length

def place (s : Scan) : Option KeyPlace := s.places.head?.join

def setPlace (s : Scan) (p : Option KeyPlace) : Scan := { s with places := p :: s.places.tail }

def emit (s : Scan) (t : Token) : Scan := { s with tokens := s.tokens.push t }

def emitAt (s : Scan) (n : Nat) (t : Token) : Scan :=
  { s with tokens := (s.tokens.extract 0 n).push t ++ s.tokens.extract n s.tokens.size }

def emitOver (s : Scan) (n : Nat) (t : Token) : Scan :=
  { s.emit t with cursor := s.cursor.skipN n }

def allowKey (s : Scan) (b : Bool) : Scan := { s with keyAllowed := b }

def dropKey (s : Scan) : Option Scan :=
  if s.place.any (·.required) then none else some (s.setPlace none)

def noteKey (s : Scan) : Option Scan :=
  if !s.keyAllowed then some s
  else do
    let required := !s.inFlow && s.indent == (s.cursor.column : Int)
    let s ← s.dropKey
    some (s.setPlace (some ⟨s.tokens.size, s.cursor, required⟩))

/-- A key and its colon stand on one line, at most 1024 bytes apart. -/
def KeyPlace.isStale (p : KeyPlace) (c : Cursor) : Bool :=
  p.start.line < c.line || p.start.offset + 1024 < c.offset

def dropStale (s : Scan) : Option Scan :=
  let stale (p : Option KeyPlace) : Bool := p.any (KeyPlace.isStale · s.cursor)
  if s.places.any fun p => stale p && p.any (·.required) then none
  else some { s with places := s.places.map fun p => if stale p then none else p }

def openBlock (s : Scan) (column : Nat) (index : Nat) (t : Token) : Scan :=
  if !s.inFlow && s.indent < column then
    { s.emitAt index t with indent := column, outer := s.indent :: s.outer }
  else s

def closeBlocks (column : Int) (s : Scan) : Scan :=
  if s.inFlow then s else go s s.outer
where
  go (s : Scan) : List Int → Scan
    | [] => s
    | indent :: outer =>
      if column < s.indent then go { s.emit .blockEnd with indent, outer } outer else s

def toNextToken : Nat → Scan → Scan
  | 0, s => s
  | fuel + 1, s =>
    let tabs := s.inFlow || !s.keyAllowed
    let c := s.cursor.skipMark
    let c := (c.skipWhile fun d => d == ' ' || (tabs && d == '\t')).skipComment
    if c.onBreak then
      toNextToken fuel { s with cursor := c.skipLine, keyAllowed := s.keyAllowed || !s.inFlow }
    else { s with cursor := c }

def atDirective (s : Scan) : Option Scan := do
  let s ← (s.closeBlocks (-1)).dropKey
  let (token, c) ← directive s.cursor
  some { s.emit token with cursor := c, keyAllowed := false }

def atMarker (s : Scan) (t : Token) : Option Scan := do
  let s ← (s.closeBlocks (-1)).dropKey
  some ((s.allowKey false).emitOver 3 t)

def atFlowStart (s : Scan) (t : Token) : Option Scan := do
  let s ← s.noteKey
  some (({ s with places := none :: s.places }.allowKey true).emitOver 1 t)

def atFlowEnd (s : Scan) (t : Token) : Option Scan := do
  let s ← s.dropKey
  let places := if s.inFlow then s.places.tail else s.places
  some (({ s with places }.allowKey false).emitOver 1 t)

def atComma (s : Scan) : Option Scan := do
  let s ← s.dropKey
  some ((s.allowKey true).emitOver 1 .comma)

def atEntry (s : Scan) : Option Scan := do
  if !s.inFlow && !s.keyAllowed then none
  let s ← (s.openBlock s.cursor.column s.tokens.size .blockSequence).dropKey
  some ((s.allowKey true).emitOver 1 .entry)

def atKey (s : Scan) : Option Scan := do
  if !s.inFlow && !s.keyAllowed then none
  let s ← (s.openBlock s.cursor.column s.tokens.size .blockMapping).dropKey
  some ((s.allowKey (!s.inFlow)).emitOver 1 .key)

def atValue (s : Scan) : Option Scan :=
  match s.place with
  | some p =>
    let s := (s.emitAt p.index .key).openBlock p.start.column p.index .blockMapping
    some (((s.setPlace none).allowKey false).emitOver 1 .value)
  | none =>
    if !s.inFlow && !s.keyAllowed then none
    else
      let s := s.openBlock s.cursor.column s.tokens.size .blockMapping
      some ((s.allowKey (!s.inFlow)).emitOver 1 .value)

def atMark (s : Scan) (t : String → Token) : Option Scan := do
  let s ← s.noteKey
  let (name, c) ← markName s.cursor
  some { s.emit (t name) with cursor := c, keyAllowed := false }

def atTag (s : Scan) : Option Scan := do
  let s ← s.noteKey
  let (token, c) ← tagToken s.inFlow s.cursor
  some { s.emit token with cursor := c, keyAllowed := false }

def atBlockScalar (s : Scan) (literal : Bool) : Option Scan := do
  let s ← s.dropKey
  let (text, c) ← blockScalar literal s.indent s.cursor.skip
  let token := Token.scalar (String.ofList text) (if literal then .literal else .folded)
  some { s.emit token with cursor := c, keyAllowed := true }

def atQuote (s : Scan) (single : Bool) : Option Scan := do
  let s ← s.noteKey
  let (text, c) ← quotedScalar single (s.cursor.rest.length + 1) s.cursor.skip [] {}
  let token := Token.scalar (String.ofList text) (if single then .singleQuoted else .doubleQuoted)
  some { s.emit token with cursor := c, keyAllowed := false }

def atPlain (s : Scan) : Option Scan := do
  let s ← s.noteKey
  let (text, c, broken) ←
    plainScalar s.inFlow (s.indent + 1).toNat (s.cursor.rest.length + 1) s.cursor [] {}
  some { s.emit (.scalar (String.ofList text) .plain) with cursor := c, keyAllowed := broken }

def startsPlain (inFlow : Bool) (d : Char) (next : Option Char) : Bool :=
  let blank := next.any isBlank
  let space := next.all fun e => isBlank e || isBreak e
  if d == '-' then !blank
  else if d == '?' || d == ':' then !inFlow && !space
  else !(isBlank d || isBreak d || ",[]\x7b\x7d#&*!|>'\"%@\x60".toList.contains d)

/-- One token, by the character it begins with. Nothing is given when none can begin here. -/
def step (s : Scan) (d : Char) : Option Scan :=
  let c := s.cursor
  if c.column == 0 && d == '%' then s.atDirective
  else if c.onMarker '-' then s.atMarker .documentStart
  else if c.onMarker '.' then s.atMarker .documentEnd
  else if d == '[' then s.atFlowStart .flowSequence
  else if d == '\x7b' then s.atFlowStart .flowMapping
  else if d == ']' then s.atFlowEnd .flowSequenceEnd
  else if d == '\x7d' then s.atFlowEnd .flowMappingEnd
  else if d == ',' then s.atComma
  else if d == '-' && c.spaceAt 1 then s.atEntry
  else if d == '?' && (s.inFlow || c.spaceAt 1) then s.atKey
  else if d == ':' && (s.inFlow || c.spaceAt 1) then s.atValue
  else if d == '*' then s.atMark .alias
  else if d == '&' then s.atMark .anchor
  else if d == '!' then s.atTag
  else if d == '|' && !s.inFlow then s.atBlockScalar true
  else if d == '>' && !s.inFlow then s.atBlockScalar false
  else if d == '\'' then s.atQuote true
  else if d == '"' then s.atQuote false
  else if startsPlain s.inFlow d (c.peekAt 1) then s.atPlain
  else none

def finish (s : Scan) : Option Scan := (s.closeBlocks (-1)).dropKey

def run : Nat → Scan → Option Scan
  | 0, _ => none
  | fuel + 1, s => do
    let s ← (toNextToken (s.cursor.rest.length + 1) s).dropStale
    let s := s.closeBlocks s.cursor.column
    match s.cursor.peek with
    | none => s.finish
    | some d => run fuel (← s.step d)

end Scan

/-- The tokens of a text. Every token takes at least one character, so the fuel lasts. -/
def tokens? (text : String) : Option (List Token) :=
  let cs := text.toList
  if cs.all isPrintable then
    (Scan.run (cs.length + 1) { cursor := ⟨cs, 0, 0, 0⟩ }).map (·.tokens.toList)
  else none

end AlarmHistory.Yaml
