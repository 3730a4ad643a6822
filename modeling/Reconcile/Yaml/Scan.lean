import Reconcile.Yaml.Scalar
import Reconcile.Yaml.Tag

namespace Reconcile.Yaml

structure KeyMark where
  number : Nat
  place : Place
  required : Bool
  deriving Repr

structure Scan where
  place : Place
  rest : List Char
  tokens : List Token
  /-- The key mark of each flow level, the innermost first; the last is that of the blocks. -/
  marks : List (Option KeyMark)
  indent : Int
  outer : List Int
  keyAllowed : Bool
  deriving Repr

namespace Scan

def start (text : List Char) : Scan := ⟨.start, text, [], [none], -1, [], true⟩

def inFlow (s : Scan) : Bool := 1 < s.marks.length

def emit (s : Scan) (t : Token) : Scan := { s with tokens := t :: s.tokens }

def emitAt (s : Scan) (number : Nat) (t : Token) : Scan :=
  let later := s.tokens.length - number
  { s with tokens := s.tokens.take later ++ t :: s.tokens.drop later }

def skip (s : Scan) (n : Nat) : Scan :=
  { s with place := s.place.advance n, rest := s.rest.drop n }

def skipGap (flow : Bool) (keyAllowed inRemark : Bool) :
    Place → List Char → Place × List Char × Bool
  | p, [] => (p, [], keyAllowed)
  | p, c :: cs =>
      if isBreak c then skipGap flow (keyAllowed || !flow) false p.newLine cs
      else if inRemark then skipGap flow keyAllowed true (p.advance 1) cs
      else if c = ' ' || (c = '\t' && (flow || !keyAllowed)) then
        skipGap flow keyAllowed false (p.advance 1) cs
      else if c = '#' then skipGap flow keyAllowed true (p.advance 1) cs
      else (p, c :: cs, keyAllowed)

def skipMark (s : Scan) : Scan :=
  if s.place.index = 0 && s.rest.head? == some '\uFEFF' then s.skip 1 else s

def nextToken (s : Scan) : Scan :=
  let s := s.skipMark
  let (place, rest, keyAllowed) := skipGap s.inFlow s.keyAllowed false s.place s.rest
  { s with place, rest, keyAllowed }

def longestKey : Nat := 1024

def isStale (now : Place) (k : KeyMark) : Bool :=
  k.place.line < now.line || k.place.index + longestKey < now.index

def dropStale (s : Scan) : Option Scan := do
  let marks ← s.marks.mapM fun mark =>
    match mark with
    | none => some none
    | some k =>
        if isStale s.place k then (if k.required then none else some none) else some (some k)
  pure { s with marks }

def dropMark (s : Scan) : Option Scan :=
  match s.marks with
  | some k :: marks => if k.required then none else some { s with marks := none :: marks }
  | _ => some s

def saveMark (s : Scan) : Option Scan :=
  if s.keyAllowed then do
    let s ← s.dropMark
    let required := !s.inFlow && s.indent == s.place.column
    let mark : KeyMark := ⟨s.tokens.length, s.place, required⟩
    pure { s with marks := some mark :: s.marks.drop 1 }
  else some s

def roll (s : Scan) (column number : Nat) (t : Token) : Scan :=
  if !s.inFlow && s.indent < column then
    { s.emitAt number t with indent := column, outer := s.indent :: s.outer }
  else s

def closeBlocks (column : Int) (tokens : List Token) (indent : Int) :
    List Int → List Token × Int × List Int
  | [] => (tokens, indent, [])
  | i :: outer =>
      if column < indent then closeBlocks column (.blockEnd :: tokens) i outer
      else (tokens, indent, i :: outer)

def unroll (s : Scan) (column : Int) : Scan :=
  if s.inFlow then s
  else
    let (tokens, indent, outer) := closeBlocks column s.tokens s.indent s.outer
    { s with tokens, indent, outer }

def finish (s : Scan) : Option (List Token) := do
  let s ← (s.unroll (-1)).dropMark
  pure s.tokens.reverse

def advanceTo (s : Scan) (rest : List Char) : Scan := s.skip (s.rest.length - rest.length)

def directive (s : Scan) : Option Scan := do
  let s ← (s.unroll (-1)).dropMark
  let (token, rest) ← Directive.read (s.rest.drop 1)
  pure ({ s with keyAllowed := false }.emit token |>.advanceTo rest)

def documentMark (s : Scan) (t : Token) : Option Scan := do
  let s ← (s.unroll (-1)).dropMark
  pure (({ s with keyAllowed := false }.emit t).skip 3)

def flowStart (s : Scan) (t : Token) : Option Scan := do
  let s ← s.saveMark
  pure (({ s with marks := none :: s.marks, keyAllowed := true }.emit t).skip 1)

def flowEnd (s : Scan) (t : Token) : Option Scan := do
  let s ← s.dropMark
  let marks := if s.inFlow then s.marks.drop 1 else s.marks
  pure (({ s with marks, keyAllowed := false }.emit t).skip 1)

def flowEntry (s : Scan) : Option Scan := do
  let s ← s.dropMark
  pure (({ s with keyAllowed := true }.emit .flowEntry).skip 1)

def blockEntry (s : Scan) : Option Scan := do
  guard (s.inFlow || s.keyAllowed)
  let s ← (s.roll s.place.column s.tokens.length .sequenceStart).dropMark
  pure (({ s with keyAllowed := true }.emit .blockEntry).skip 1)

def key (s : Scan) : Option Scan := do
  guard (s.inFlow || s.keyAllowed)
  let s ← (s.roll s.place.column s.tokens.length .mappingStart).dropMark
  pure (({ s with keyAllowed := !s.inFlow }.emit .key).skip 1)

def value (s : Scan) : Option Scan := do
  match s.marks with
  | some k :: marks =>
      let s := (s.emitAt k.number .key).roll k.place.column k.number .mappingStart
      pure (({ s with marks := none :: marks, keyAllowed := false }.emit .value).skip 1)
  | _ => do
      guard (s.inFlow || s.keyAllowed)
      let s := s.roll s.place.column s.tokens.length .mappingStart
      pure (({ s with keyAllowed := !s.inFlow }.emit .value).skip 1)

def anchor (s : Scan) (token : String → Token) : Option Scan := do
  let s ← s.saveMark
  let (name, rest) ← anchorName? (s.rest.drop 1)
  pure ({ s with keyAllowed := false }.emit (token name) |>.advanceTo rest)

def tag (s : Scan) : Option Scan := do
  let s ← s.saveMark
  let (token, rest) ← Tag.read s.inFlow s.rest
  pure ({ s with keyAllowed := false }.emit token |>.advanceTo rest)

def scalarAt (s : Scan) (style : Style) (keyAllowed : Bool) (r : Scanned) : Scan :=
  { s with place := r.place, rest := r.rest, keyAllowed }.emit
    (.scalar (String.ofList r.text) style)

def blockScalar (s : Scan) (style : Style) : Option Scan := do
  let s ← s.dropMark
  let r ← Block.read (style == .folded) s.indent (s.place.advance 1) (s.rest.drop 1)
  pure (s.scalarAt style true r)

def quoted (s : Scan) (style : Style) : Option Scan := do
  let s ← s.saveMark
  let r ← Quoted.read (style == .singleQuoted) .text [] .none (s.place.advance 1) (s.rest.drop 1)
  pure (s.scalarAt style false r)

def plain (s : Scan) : Option Scan := do
  let s ← s.saveMark
  let (r, broken) ← Plain.read s.inFlow (s.indent + 1) [] .none false s.place s.rest
  pure (s.scalarAt .plain broken r)

def indicators : List Char := "-?:,[]\x7b\x7d#&*!|>'\"%@\x60".toList

def beginsPlain (flow : Bool) (c : Char) (cs : List Char) : Bool :=
  !(isBlank c || indicators.contains c) || (c == '-' && !cs.head?.any isBlank) ||
    (!flow && (c == '?' || c == ':') && !isGap cs)

def token (s : Scan) (c : Char) (cs : List Char) : Option Scan :=
  let flow := s.inFlow
  if s.place.column = 0 && c = '%' then s.directive
  else if s.place.column = 0 && isDocumentMark (c :: cs) then
    s.documentMark (if c = '-' then .documentStart else .documentEnd)
  else if c = '[' then s.flowStart .flowSequenceStart
  else if c = '\x7b' then s.flowStart .flowMappingStart
  else if c = ']' then s.flowEnd .flowSequenceEnd
  else if c = '\x7d' then s.flowEnd .flowMappingEnd
  else if c = ',' then s.flowEntry
  else if c = '-' && isGap cs then s.blockEntry
  else if c = '?' && (flow || isGap cs) then s.key
  else if c = ':' && (flow || isGap cs) then s.value
  else if c = '*' then s.anchor .alias
  else if c = '&' then s.anchor .anchor
  else if c = '!' then s.tag
  else if c = '|' && !flow then s.blockScalar .literal
  else if c = '>' && !flow then s.blockScalar .folded
  else if c = '\'' then s.quoted .singleQuoted
  else if c = '"' then s.quoted .doubleQuoted
  else if beginsPlain flow c cs then s.plain
  else none

def run : Nat → Scan → Option (List Token)
  | 0, _ => none
  | fuel + 1, s => do
      let s ← s.nextToken.dropStale
      let s := s.unroll s.place.column
      match s.rest with
      | [] => s.finish
      | c :: cs => do
          let s ← s.token c cs
          run fuel s

end Scan

def Token.ofText? (text : List Char) : Option (List Token) :=
  if text.all isAllowed then
    let text := unifyBreaks text
    Scan.run (text.length + 1) (Scan.start text)
  else none

end Reconcile.Yaml
