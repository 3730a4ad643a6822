import Reconcile.Yaml.Token

namespace Reconcile.Yaml

/-- Blanks and line ends that the next word may turn out to need. Lists are in reverse order. -/
structure Space where
  blanks : List Char
  broken : Bool
  first : List Char
  further : List Char
  deriving Repr

namespace Space

def none : Space := ⟨[], false, [], []⟩

def blank (s : Space) (c : Char) : Space :=
  if s.broken then s else { s with blanks := c :: s.blanks }

def lineEnd (s : Space) (c : Char) : Space :=
  if s.broken then { s with further := c :: s.further } else ⟨[], true, [c], []⟩

def folded (s : Space) : List Char :=
  if s.broken then
    if s.first = ['\n'] then (if s.further.isEmpty then [' '] else s.further)
    else s.further ++ s.first
  else s.blanks

end Space

structure Scanned where
  text : List Char
  place : Place
  rest : List Char

namespace Plain

def isEnd (flow : Bool) (c : Char) (cs : List Char) : Bool :=
  (c == ':' && isGap cs) ||
    (flow && (c == ',' || c == '[' || c == ']' || c == '\x7b' || c == '\x7d'))

def isBadColon (flow : Bool) (c : Char) (cs : List Char) : Bool :=
  flow && c == ':' &&
    match cs with
    | d :: _ => ",?[]\x7b\x7d".toList.contains d
    | [] => false

def read (flow : Bool) (indent : Int) (held : List Char) (space : Space) (inWord : Bool) :
    Place → List Char → Option (Scanned × Bool)
  | p, [] => some (⟨held.reverse, p, []⟩, space.broken)
  | p, c :: cs =>
      if isBlank c then
        if space.broken && p.column < indent && c == '\t' then none
        else read flow indent held (space.blank c) false (p.advance 1) cs
      else if isBreak c then read flow indent held (space.lineEnd c) false p.newLine cs
      else
        let stops :=
          !inWord &&
            ((space.broken && !flow && p.column < indent) ||
              (p.column == 0 && isDocumentMark (c :: cs)) || c == '#')
        if stops then some (⟨held.reverse, p, c :: cs⟩, space.broken)
        else if isBadColon flow c cs then none
        else if isEnd flow c cs then some (⟨held.reverse, p, c :: cs⟩, space.broken)
        else read flow indent (c :: (space.folded ++ held)) .none true (p.advance 1) cs

end Plain

namespace Quoted

inductive Mode where
  | text
  | escape
  | code (digits value : Nat)
  deriving DecidableEq, Repr

inductive Escape where
  | char (c : Char)
  | code (digits : Nat)
  deriving DecidableEq, Repr

def escape? : Char → Option Escape
  | '0' => some (.char '\x00')
  | 'a' => some (.char '\x07')
  | 'b' => some (.char '\x08')
  | 't' => some (.char '\t')
  | '\t' => some (.char '\t')
  | 'n' => some (.char '\n')
  | 'v' => some (.char '\x0b')
  | 'f' => some (.char '\x0c')
  | 'r' => some (.char '\r')
  | 'e' => some (.char '\x1b')
  | ' ' => some (.char ' ')
  | '"' => some (.char '"')
  | '/' => some (.char '/')
  | '\\' => some (.char '\\')
  | 'N' => some (.char '\u0085')
  | '_' => some (.char '\u00a0')
  | 'L' => some (.char '\u2028')
  | 'P' => some (.char '\u2029')
  | 'x' => some (.code 2)
  | 'u' => some (.code 4)
  | 'U' => some (.code 8)
  | _ => none

def isScalarValue (n : Nat) : Bool := n < 0xD800 || (0xDFFF < n && n ≤ 0x10FFFF)

def read (single : Bool) (mode : Mode) (held : List Char) (space : Space) :
    Place → List Char → Option Scanned
  | _, [] => none
  | p, c :: cs =>
      match mode with
      | .code digits value =>
          if !Text.isHexDigit c then none
          else
            let value := value * 16 + Text.hexValue c
            if digits ≤ 1 then
              if isScalarValue value then
                read single .text (Char.ofNat value :: held) .none (p.advance 1) cs
              else none
            else read single (.code (digits - 1) value) held space (p.advance 1) cs
      | .escape =>
          if isBreak c then read single .text held ⟨[], true, [], []⟩ p.newLine cs
          else
            match escape? c with
            | none => none
            | some (.char d) => read single .text (d :: held) .none (p.advance 1) cs
            | some (.code digits) => read single (.code digits 0) held .none (p.advance 1) cs
      | .text =>
          if isBlank c then read single .text held (space.blank c) (p.advance 1) cs
          else if isBreak c then read single .text held (space.lineEnd c) p.newLine cs
          else if p.column == 0 && isDocumentMark (c :: cs) then none
          else
            let held := space.folded ++ held
            if single then
              if c = '\'' then
                match cs with
                | '\'' :: cs => read single .text ('\'' :: held) .none (p.advance 2) cs
                | _ => some ⟨held.reverse, p.advance 1, cs⟩
              else read single .text (c :: held) .none (p.advance 1) cs
            else if c = '"' then some ⟨held.reverse, p.advance 1, cs⟩
            else if c = '\\' then read single .escape held .none (p.advance 1) cs
            else read single .text (c :: held) .none (p.advance 1) cs

end Quoted

namespace Block

inductive Chomp where
  | strip
  | clip
  | keep
  deriving DecidableEq, Repr

def chomp? : Char → Option Chomp
  | '-' => some .strip
  | '+' => some .keep
  | _ => none

def indentation? : List Char → Option (Nat × List Char)
  | [] => some (0, [])
  | c :: cs =>
      if c.isDigit then (if c = '0' then none else some (c.toNat - 48, cs)) else some (0, c :: cs)

def chompAfter : List Char → Chomp × List Char
  | [] => (.clip, [])
  | c :: cs =>
      match chomp? c with
      | some chomp => (chomp, cs)
      | none => (.clip, c :: cs)

def header? (s : List Char) : Option (Chomp × Nat × List Char) :=
  match chompAfter s with
  | (.clip, s) => do
      let (digit, s) ← indentation? s
      let (chomp, s) := if digit = 0 then (.clip, s) else chompAfter s
      pure (chomp, digit, s)
  | (chomp, s) => do
      let (digit, s) ← indentation? s
      pure (chomp, digit, s)

def restOfLine (s : List Char) : Option (List Char) :=
  match s.dropWhile isBlank with
  | '#' :: cs => some (cs.dropWhile (!isBreak ·))
  | cs => if isLineEnd cs then some cs else none

structure State where
  held : List Char
  first : List Char
  further : List Char
  leadingBlank : Bool
  inLine : Bool
  indent : Nat
  widest : Nat
  deriving Repr

def State.startLine (st : State) (folds : Bool) (indent : Nat) (c : Char) : State :=
  let joins := folds && st.first == ['\n'] && !st.leadingBlank && !isBlank c
  let gap :=
    if joins then (if st.further.isEmpty then [' '] else st.further) else st.further ++ st.first
  { st with
    held := c :: (gap ++ st.held), first := [], further := []
    leadingBlank := isBlank c, inLine := true, indent }

def State.text (st : State) (chomp : Chomp) : List Char :=
  let tail := match chomp with
    | .strip => []
    | .clip => st.first
    | .keep => st.further ++ st.first
  (tail ++ st.held).reverse

def lines (folds : Bool) (least : Nat) :
    State → Place → List Char → Option (State × Place × List Char)
  | st, p, [] => some (st, p, [])
  | st, p, c :: cs =>
      if st.inLine then
        if isBreak c then lines folds least { st with inLine := false, first := [c] } p.newLine cs
        else lines folds least { st with held := c :: st.held } (p.advance 1) cs
      else
        let inside := st.indent = 0 || p.column < st.indent
        if inside && c == ' ' then lines folds least st (p.advance 1) cs
        else if inside && c == '\t' then none
        else
          let widest := max st.widest p.column
          if isBreak c then
            lines folds least { st with further := c :: st.further, widest } p.newLine cs
          else
            let indent := if st.indent = 0 then max widest least else st.indent
            if p.column = indent then
              lines folds least (st.startLine folds indent c) (p.advance 1) cs
            else some ({ st with indent }, p, c :: cs)

def read (folds : Bool) (outer : Int) (p : Place) (s : List Char) : Option Scanned := do
  let (chomp, digit, s) ← header? s
  let s ← restOfLine s
  let least := (max (outer + 1) 1).toNat
  let indent := if digit = 0 then 0 else (max outer 0).toNat + digit
  let (p, s) := match s with
    | _ :: cs => (p.newLine, cs)
    | [] => (p, [])
  let (st, p, rest) ← lines folds least ⟨[], [], [], false, false, indent, 0⟩ p s
  pure ⟨st.text chomp, p, rest⟩

end Block

end Reconcile.Yaml
