import Reconcile.Pattern.Basic

namespace Reconcile.Pattern

structure Flags where
  ignoreCase : Bool
  multiLine : Bool
  dotAll : Bool
  swapGreed : Bool
  crlf : Bool
  verbose : Bool
  deriving DecidableEq, Repr

def Flags.none : Flags := ⟨false, false, false, false, false, false⟩

structure Reader where
  rest : List Char
  flags : Flags
  groups : Nat
  names : List (String × Nat)
  deriving DecidableEq, Repr

def Reader.at (r : Reader) (rest : List Char) : Reader := { r with rest }

def skipVerbose : List Char → List Char
  | [] => []
  | c :: cs =>
      if Text.isBlank c then skipVerbose cs
      else if c = '#' then skipComment cs
      else c :: cs
where
  skipComment : List Char → List Char
    | [] => []
    | c :: cs => if c = '\n' then skipVerbose cs else skipComment cs

def Reader.skip (r : Reader) : Reader :=
  if r.flags.verbose then r.at (skipVerbose r.rest) else r

def fold (flags : Flags) (s : CharSet) : CharSet :=
  if flags.ignoreCase then .folded s else s

def literal (flags : Flags) (c : Char) : Pattern := .set (fold flags (.single c))

def isEscapable (c : Char) : Bool :=
  Text.isAscii c && !c.isAlphanum && c != '<' && c != '>'

def codePoint? (width : Nat) (s : List Char) : Option (Char × List Char) :=
  let build (digits rest : List Char) : Option (Char × List Char) :=
    if digits.isEmpty || !digits.all Text.isHexDigit then none
    else
      let n := digits.foldl (fun n c => n * 16 + Text.hexValue c) 0
      if n.isValidChar then some (Char.ofNat n, rest) else none
  match s with
  | '\x7b' :: cs =>
      match cs.span (· != '\x7d') with
      | (digits, _ :: rest) => build digits rest
      | (_, []) => none
  | cs => if cs.length < width then none else build (cs.take width) (cs.drop width)

def letterClass? (c : Char) : Option CharSet :=
  match c with
  | 'd' => some .digit
  | 'D' => some (.compl .digit)
  | 's' => some .space
  | 'S' => some (.compl .space)
  | 'w' => some .word
  | 'W' => some (.compl .word)
  | _ => none

def propertySet? (name : String) : Option CharSet :=
  match name with
  | "Alphabetic" => some .alphabetic
  | "N" => some .numeric
  | "Number" => some .numeric
  | "Nd" => some .digit
  | "White_Space" => some .space
  | _ => none

def property? (negated : Bool) (s : List Char) : Option (CharSet × List Char) := do
  let (name, rest) ← match s with
    | '\x7b' :: cs =>
        match cs.span (· != '\x7d') with
        | (name, _ :: rest) => some (name, rest)
        | (_, []) => none
    | c :: rest => some ([c], rest)
    | [] => none
  let (flip, name) := match name with
    | '^' :: name => (true, name)
    | name => (false, name)
  let cls ← propertySet? (String.ofList name)
  pure (if negated != flip then .compl cls else cls, rest)

inductive Escape where
  | char (c : Char)
  | set (s : CharSet)
  | anchor (a : Anchor)
  deriving DecidableEq, Repr

/-- What stands in braces after the mark of a word boundary. Anything else there is a count. -/
def boundary? (s : List Char) : Option (Anchor × List Char) :=
  let isWordMark (c : Char) : Bool := c.isAlpha || c == '-'
  match s with
  | '\x7b' :: c :: cs =>
      if isWordMark c then
        match (c :: cs).span isWordMark with
        | (name, '\x7d' :: rest) =>
            match String.ofList name with
            | "start" => some (.wordStart .word, rest)
            | "end" => some (.wordEnd .word, rest)
            | "start-half" => some (.notAfterWord .word, rest)
            | "end-half" => some (.notBeforeWord .word, rest)
            | _ => none
        | _ => none
      else some (.wordBoundary .word, s)
  | s => some (.wordBoundary .word, s)

def escape? : List Char → Option (Escape × List Char)
  | [] => none
  | c :: cs =>
      match letterClass? c with
      | some s => some (.set s, cs)
      | none =>
          if isEscapable c then some (.char c, cs)
          else
            match c with
            | 'n' => some (.char '\n', cs)
            | 't' => some (.char '\t', cs)
            | 'r' => some (.char '\r', cs)
            | 'a' => some (.char '\x07', cs)
            | 'f' => some (.char '\x0c', cs)
            | 'v' => some (.char '\x0b', cs)
            | 'x' => (codePoint? 2 cs).map fun p => (.char p.1, p.2)
            | 'u' => (codePoint? 4 cs).map fun p => (.char p.1, p.2)
            | 'U' => (codePoint? 8 cs).map fun p => (.char p.1, p.2)
            | 'p' => (property? false cs).map fun p => (.set p.1, p.2)
            | 'P' => (property? true cs).map fun p => (.set p.1, p.2)
            | 'A' => some (.anchor .textStart, cs)
            | 'z' => some (.anchor .textEnd, cs)
            | 'b' => (boundary? cs).map fun p => (.anchor p.1, p.2)
            | 'B' => some (.anchor (.notWordBoundary .word), cs)
            | '<' => some (.anchor (.wordStart .word), cs)
            | '>' => some (.anchor (.wordEnd .word), cs)
            | _ => none

def asciiClass? (name : String) : Option CharSet :=
  let letters : CharSet := .union (.range 'a' 'z') (.range 'A' 'Z')
  let alnum : CharSet := .union letters (.range '0' '9')
  match name with
  | "alpha" => some letters
  | "digit" => some (.range '0' '9')
  | "alnum" => some alnum
  | "lower" => some (.range 'a' 'z')
  | "upper" => some (.range 'A' 'Z')
  | "word" => some (.union alnum (.single '_'))
  | "space" => some (.union (.range '\t' '\r') (.single ' '))
  | "blank" => some (.union (.single '\t') (.single ' '))
  | "xdigit" => some (.union (.range '0' '9') (.union (.range 'a' 'f') (.range 'A' 'F')))
  | "cntrl" => some (.union (.range '\x00' '\x1f') (.single '\x7f'))
  | "graph" => some (.range '!' '~')
  | "print" => some (.range ' ' '~')
  | "punct" => some (.minus (.range '!' '~') alnum)
  | "ascii" => some (.range '\x00' '\x7f')
  | _ => none

def bracketClass? : List Char → Option (CharSet × List Char)
  | ':' :: cs =>
      let (negated, cs) := match cs with
        | '^' :: cs => (true, cs)
        | cs => (false, cs)
      match cs.span (· != ':') with
      | (name, ':' :: ']' :: rest) =>
          (asciiClass? (String.ofList name)).map fun s => (if negated then .compl s else s, rest)
      | _ => none
  | _ => none

def classChar? : List Char → Option (Escape × List Char)
  | [] => none
  | '\\' :: cs => escape? cs
  | c :: cs => some (.char c, cs)

inductive ClassOp where
  | inter
  | minus
  | differ
  deriving DecidableEq, Repr

def ClassOp.apply : ClassOp → CharSet → CharSet → CharSet
  | .inter, a, b => .inter a b
  | .minus, a, b => .minus a b
  | .differ, a, b => .minus (.union a b) (.inter a b)

structure ClassReader where
  left : Option (ClassOp × CharSet)
  union : CharSet
  deriving DecidableEq, Repr

namespace ClassReader

def add (r : ClassReader) (s : CharSet) : ClassReader := { r with union := .union r.union s }

def result (r : ClassReader) (flags : Flags) : CharSet :=
  let right := fold flags r.union
  match r.left with
  | none => right
  | some (op, left) => op.apply left right

def operator (r : ClassReader) (flags : Flags) (op : ClassOp) : ClassReader :=
  ⟨some (op, r.result flags), .empty⟩

end ClassReader

def classRange? (blank : List Char → List Char) (s : List Char) :
    Option (CharSet × List Char) := do
  let (item, rest) ← classChar? s
  let alone : Option CharSet := match item with
    | .char c => some (.single c)
    | .set s => some s
    | .anchor _ => none
  match blank rest with
  | '-' :: more => do
      let next := (blank more).head?
      if next == some ']' || next == some '-' then alone.map fun s => (s, '-' :: more)
      else
        let (last, rest) ← classChar? (blank more)
        match item, last with
        | .char lo, .char hi => if lo ≤ hi then some (.range lo hi, rest) else none
        | _, _ => none
  | rest => alone.map fun s => (s, rest)

mutual

def class? : Nat → Flags → List Char → Option (CharSet × List Char)
  | 0, _, _ => none
  | fuel + 1, flags, s => do
      let blank (s : List Char) := if flags.verbose then skipVerbose s else s
      let (negated, s) := match blank s with
        | '^' :: cs => (true, blank cs)
        | cs => (false, cs)
      let hyphens := s.takeWhile (· == '-')
      let s := s.drop hyphens.length
      let first : CharSet := if hyphens.isEmpty then .empty else .single '-'
      let (first, s) := match hyphens, s with
        | [], ']' :: cs => (CharSet.single ']', cs)
        | _, s => (first, s)
      let (inner, rest) ← classItems? fuel flags ⟨none, first⟩ s
      pure (if negated then .compl inner else inner, rest)

def classItems? : Nat → Flags → ClassReader → List Char → Option (CharSet × List Char)
  | 0, _, _, _ => none
  | fuel + 1, flags, r, s =>
      let blank (s : List Char) := if flags.verbose then skipVerbose s else s
      match blank s with
      | [] => none
      | ']' :: rest => some (r.result flags, rest)
      | '&' :: '&' :: rest => classItems? fuel flags (r.operator flags .inter) rest
      | '-' :: '-' :: rest => classItems? fuel flags (r.operator flags .minus) rest
      | '~' :: '~' :: rest => classItems? fuel flags (r.operator flags .differ) rest
      | '[' :: rest =>
          match bracketClass? rest with
          | some (inner, rest) => classItems? fuel flags (r.add inner) rest
          | none => do
              let (inner, rest) ← class? fuel flags rest
              classItems? fuel flags (r.add inner) rest
      | s => do
          let (inner, rest) ← classRange? blank s
          classItems? fuel flags (r.add inner) rest

end

def number? (s : List Char) : Option (Nat × List Char) :=
  let s := s.dropWhile Text.isBlank
  let digits := s.takeWhile Char.isDigit
  let n := digits.foldl (fun n c => n * 10 + (c.toNat - 48)) 0
  if digits.isEmpty || Nat.pow 2 32 ≤ n then none
  else some (n, (s.drop digits.length).dropWhile Text.isBlank)

def bounds? (s : List Char) : Option ((Nat × Option Nat) × List Char) := do
  let (least, s) ← number? s
  match s with
  | '\x7d' :: rest => some ((least, some least), rest)
  | ',' :: '\x7d' :: rest => some ((least, none), rest)
  | ',' :: s => do
      let (most, s) ← number? s
      match s with
      | '\x7d' :: rest => if least ≤ most then some ((least, some most), rest) else none
      | _ => none
  | _ => none

def suffixes? (item : Option Pattern) : Nat → Reader → Option (Pattern × Reader)
  | 0, _ => none
  | fuel + 1, r =>
      let r := r.skip
      let operator : Option ((Nat × Option Nat) × List Char) :=
        match r.rest with
        | '*' :: cs => some ((0, none), cs)
        | '+' :: cs => some ((1, none), cs)
        | '?' :: cs => some ((0, some 1), cs)
        | _ => none
      let bounded := r.rest.head? == some '\x7b'
      if operator.isNone && !bounded then some (item.getD .empty, r)
      else
        match item with
        | none => none
        | some p => do
            let ((least, most), rest) ← if bounded then bounds? (r.rest.drop 1) else operator
            let (lazily, rest) := match rest with
              | '?' :: cs => (true, cs)
              | cs => (false, cs)
            suffixes? (some (.many least most (lazily == r.flags.swapGreed) p)) fuel (r.at rest)

def groupName? (s : List Char) : Option (String × List Char) :=
  match s.span (· != '>') with
  | (name, _ :: rest) => if Text.isGroupName name then some (String.ofList name, rest) else none
  | _ => none

def Flags.set? (flags : Flags) (on : Bool) (c : Char) : Option Flags :=
  match c with
  | 'i' => some { flags with ignoreCase := on }
  | 'm' => some { flags with multiLine := on }
  | 's' => some { flags with dotAll := on }
  | 'U' => some { flags with swapGreed := on }
  | 'x' => some { flags with verbose := on }
  | 'R' => some { flags with crlf := on }
  | 'u' => if on then some flags else none
  | _ => none

def flags? (seen : List Char) (flags : Flags) : List Char → Option (Flags × List Char)
  | [] => none
  | c :: cs =>
      if c = ')' || c = ':' then (if seen.head? = some '-' then none else some (flags, c :: cs))
      else if seen.contains c then none
      else if c = '-' then flags? (c :: seen) flags cs
      else
        match flags.set? (!seen.contains '-') c with
        | some flags => flags? (c :: seen) flags cs
        | none => none

def lineFeeds (flags : Flags) : CharSet :=
  if flags.crlf then .union (.single '\r') (.single '\n') else .single '\n'

def dot (flags : Flags) : Pattern :=
  .set (.compl (if flags.dotAll then .empty else lineFeeds flags))

def lineAnchor (flags : Flags) : Anchor :=
  if flags.multiLine then .lineStart flags.crlf else .textStart

def lastAnchor (flags : Flags) : Anchor :=
  if flags.multiLine then .lineEnd flags.crlf else .textEnd

def escaped (flags : Flags) : Escape → Pattern
  | .char c => literal flags c
  | .set s => .set (fold flags s)
  | .anchor a => .anchor a

def plainItem? (flags : Flags) : List Char → Option (Pattern × List Char)
  | [] => none
  | '[' :: cs => (class? (2 * cs.length + 2) flags cs).map fun p => (.set p.1, p.2)
  | '.' :: cs => some (dot flags, cs)
  | '^' :: cs => some (.anchor (lineAnchor flags), cs)
  | '$' :: cs => some (.anchor (lastAnchor flags), cs)
  | '\\' :: cs => (escape? cs).map fun p => (escaped flags p.1, p.2)
  | c :: cs =>
      if c == '*' || c == '+' || c == '?' || c == '\x7b' then none else some (literal flags c, cs)

def nameMark? (cs : List Char) : Option (List Char) :=
  match cs with
  | 'P' :: '<' :: more => some more
  | '<' :: more => some more
  | _ => none

mutual

def alternatives? : Nat → Reader → Option (Pattern × Reader)
  | 0, _ => none
  | fuel + 1, r => do
      let (p, r) ← sequence? fuel r
      match r.rest with
      | '|' :: cs => do
          let (q, r) ← alternatives? fuel (r.at cs)
          pure (.alt p q, r)
      | _ => pure (p, r)

def sequence? : Nat → Reader → Option (Pattern × Reader)
  | 0, _ => none
  | fuel + 1, r =>
      let r := r.skip
      match r.rest with
      | [] => some (.empty, r)
      | '|' :: _ => some (.empty, r)
      | ')' :: _ => some (.empty, r)
      | _ => do
          let (item, r) ← item? fuel r
          let (p, r) ← suffixes? item (r.rest.length + 1) r
          let (q, r) ← sequence? fuel r
          pure (if q = .empty then p else .seq p q, r)

/-- One item; a change of flags is an item that cannot be repeated. -/
def item? : Nat → Reader → Option (Option Pattern × Reader)
  | 0, _ => none
  | fuel + 1, r =>
      match r.rest with
      | '(' :: '?' :: cs =>
          match nameMark? cs with
          | some more => do
              let (name, rest) ← groupName? more
              guard (!(r.names.any (·.1 == name)))
              let index := r.groups + 1
              let inner := { r with rest, groups := index, names := r.names ++ [(name, index)] }
              let (p, s) ← enclosed? fuel inner
              pure (some (.group index p), { s with flags := r.flags })
          | none => do
              guard (cs.head? != some ')')
              let (flags, rest) ← flags? [] r.flags cs
              match rest with
              | ')' :: rest => pure (none, { r with rest, flags })
              | _ :: rest => do
                  let (p, s) ← enclosed? fuel { r with rest, flags }
                  pure (some p, { s with flags := r.flags })
              | [] => none
      | '(' :: cs => do
          let index := r.groups + 1
          let (p, s) ← enclosed? fuel { r with rest := cs, groups := index }
          pure (some (.group index p), { s with flags := r.flags })
      | s => (plainItem? r.flags s).map fun p => (some p.1, r.at p.2)

def enclosed? : Nat → Reader → Option (Pattern × Reader)
  | 0, _ => none
  | fuel + 1, r => do
      let (p, r) ← alternatives? fuel r
      match r.rest with
      | ')' :: cs => pure (p, r.at cs)
      | _ => none

end

structure Compiled where
  pattern : Pattern
  names : List (String × Nat)
  deriving DecidableEq, Repr

abbrev Engine := String → Option Compiled

-- An engine of a part of the syntax. A property whose characters are in no table is refused, and so
-- is a text that takes back the flag `u`; how deep groups may stand in each other is not bounded.
def compile? : Engine := fun text => do
  let s := text.toList
  let (p, r) ← alternatives? (4 * s.length + 4) ⟨s, Flags.none, 0, []⟩
  guard (r.rest.isEmpty && p.size ≤ largest)
  pure ⟨p, r.names⟩

end Reconcile.Pattern
