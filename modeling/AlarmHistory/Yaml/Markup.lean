import AlarmHistory.Yaml.Cursor
import AlarmHistory.Yaml.Token
/- Names that decorate a node (anchors, aliases, tags) and the directives before a document. -/
namespace AlarmHistory.Yaml

def markName (c : Cursor) : Option (String × Cursor) :=
  let c := c.skip
  let name := c.run isNameChar
  let after := c.skipWhile isNameChar
  let closed := after.onSpace || after.peek.any fun d => "?:,]\x7d%@\x60".toList.contains d
  if name.isEmpty || !closed then none else some (String.ofList name, after)

/-- A tag handle: `!`, `!!` or `!name!`. Outside a directive the last sign may be missing. -/
def tagHandle (directive : Bool) (c : Cursor) : Option (List Char × Cursor) :=
  if !c.isAt '!' then none
  else
    let name := c.skip.run isNameChar
    let after := c.skip.skipWhile isNameChar
    if after.isAt '!' then some ('!' :: name ++ ['!'], after.skip)
    else if directive && !name.isEmpty then none
    else some ('!' :: name, after)

def isTagChar (verbatim : Bool) (d : Char) : Bool :=
  isNameChar d || ";/?:@&=+$.%!~*'()".toList.contains d || (verbatim && ",[]".toList.contains d)

def trailing? (b : Nat) : Option Nat :=
  if b < 0x80 then some 0
  else if 0xC0 ≤ b && b < 0xE0 then some 1
  else if 0xE0 ≤ b && b < 0xF0 then some 2
  else if 0xF0 ≤ b && b < 0xF8 then some 3
  else none

/-- The bytes of a tag, in which `%` and two hexadecimal digits stand for one. Escapes come in
   groups of the length that the first of them tells; `more` are missing from a group. -/
def unescapeTag : Nat → List Char → Option TagBytes
  | 0, [] => some []
  | _ + 1, [] => none
  | more, '%' :: a :: b :: rest => do
    let x ← hexDigit? a
    let y ← hexDigit? b
    let byte := 16 * x + y
    let more ←
      match more with
      | 0 => trailing? byte
      | n + 1 => if 0x80 ≤ byte && byte < 0xC0 then some n else none
    return UInt8.ofNat byte :: (← unescapeTag more rest)
  | _, '%' :: _ => none
  | 0, d :: rest => (unescapeTag 0 rest).map (textBytes [d] ++ ·)
  | _ + 1, _ :: _ => none
where
  textBytes (cs : List Char) : TagBytes := (String.ofList cs).toUTF8.toList

def tagStem (verbatim : Bool) (head : List Char) (c : Cursor) : Option (TagBytes × Cursor) := do
  let run := c.run (isTagChar verbatim)
  if run.isEmpty && head.isEmpty then none
  let bytes := (← unescapeTag 0 run).takeWhile (· != 0)
  return ((String.ofList head.tail).toUTF8.toList ++ bytes, c.skipWhile (isTagChar verbatim))

def bareTag : TagBytes := [0x21]

def tagToken (inFlow : Bool) (c : Cursor) : Option (Token × Cursor) := do
  let (token, after) ←
    if c.peekAt 1 == some '<' then do
      let (suffix, after) ← tagStem true [] (c.skipN 2)
      if after.isAt '>' then some (Token.tag "" suffix, after.skip) else none
    else do
      let (handle, after) ← tagHandle false c
      if 1 < handle.length && handle.getLast? == some '!' then do
        let (suffix, after) ← tagStem false [] after
        some (Token.tag (String.ofList handle) suffix, after)
      else do
        let (suffix, after) ← tagStem false handle after
        some (if suffix.isEmpty then Token.tag "" bareTag else Token.tag "!" suffix, after)
  if after.onSpace || (inFlow && after.isAt ',') then some (token, after) else none

def versionNumber (c : Cursor) : Option (Nat × Cursor) :=
  let isDigit (d : Char) : Bool := (digit? d).isSome
  let ds := (c.run isDigit).filterMap digit?
  if ds.isEmpty || 9 < ds.length then none
  else some (ds.foldl (fun n d => 10 * n + d) 0, c.skipWhile isDigit)

def directive (c : Cursor) : Option (Token × Cursor) := do
  let name := String.ofList (c.skip.run isNameChar)
  let after := c.skip.skipWhile isNameChar
  if !after.onSpace then none
  let (token, after) ←
    if name == "YAML" then do
      let (major, after) ← versionNumber (after.skipWhile isBlank)
      if !after.isAt '.' then none
      let (minor, after) ← versionNumber after.skip
      some (Token.version major minor, after)
    else if name == "TAG" then do
      let (handle, after) ← tagHandle true (after.skipWhile isBlank)
      if !after.onBlank then none
      let (stem, after) ← tagStem true [] (after.skipWhile isBlank)
      if !after.onSpace then none
      some (Token.tagDirective (String.ofList handle) stem, after)
    else none
  let after := (after.skipWhile isBlank).skipComment
  if after.onLineEnd then some (token, if after.onBreak then after.skipLine else after) else none

end AlarmHistory.Yaml
