import Reconcile.Json.Basic
import Reconcile.Text.Class

namespace Reconcile.Json

/-- A syntax tree: members in the order of the text, repetitions included. -/
inductive Tree where
  | null
  | bool (b : Bool)
  | int (n : Int)
  | float (x : Double)
  | str (s : String)
  | arr (items : List Tree)
  | obj (members : List (String × Tree))
  deriving Repr

mutual

def Tree.value : Tree → Json
  | .null => .null
  | .bool b => .bool b
  | .int n => .int n
  | .float x => .float x
  | .str s => .str s
  | .arr items => .arr (Tree.values items)
  | .obj members => .obj (Keyed.ofList (Tree.entries members))

def Tree.values : List Tree → List Json
  | [] => []
  | t :: ts => t.value :: Tree.values ts

def Tree.entries : List (String × Tree) → List (String × Json)
  | [] => []
  | (k, t) :: ts => (k, t.value) :: Tree.entries ts

end

def isSpace (c : Char) : Bool := c == ' ' || c == '\n' || c == '\t' || c == '\r'

def skipSpace (s : List Char) : List Char := s.dropWhile isSpace

def digitsValue (ds : List Char) : Nat := ds.foldl (fun n c => n * 10 + (c.toNat - 48)) 0

def maxSignificand : Nat := Nat.pow 2 64 - 1

/-- Takes digits while the significand fits 64 bits: the significand, the number of digits taken,
and the digits left over. -/
def takeSignificand (m count : Nat) : List Char → Nat × Nat × List Char
  | [] => (m, count, [])
  | c :: cs =>
      let m' := m * 10 + (c.toNat - 48)
      if maxSignificand < m' then (m, count, c :: cs) else takeSignificand m' (count + 1) cs

def decimal? (negative : Bool) (whole fraction : List Char) (exponent : Int) : Option Double := do
  let (m, _, rest) := takeSignificand 0 0 whole
  let (m, places) :=
    if rest.isEmpty then
      let (m, taken, _) := takeSignificand m 0 fraction
      (m, -(taken : Int))
    else
      let (m, taken, _) := takeSignificand m 0 fraction
      (m, (rest.length : Int) - taken)
  let x ← Double.ofNat m
  let y ← x.scale (places + exponent)
  pure (if negative then y.negate else y)

def exponentLimit : Nat := Nat.pow 2 31 - 1

def clampExponent (e : Int) : Int :=
  max (-(exponentLimit : Int) - 1) (min exponentLimit e)

def number? (negative : Bool) (s : List Char) : Option (Tree × List Char) := do
  let whole := s.takeWhile Char.isDigit
  let rest := s.dropWhile Char.isDigit
  guard !whole.isEmpty
  guard (whole.length = 1 || whole.head? != some '0')
  let (fraction, rest, hasPoint) := match rest with
    | '.' :: cs => (cs.takeWhile Char.isDigit, cs.dropWhile Char.isDigit, true)
    | _ => ([], rest, false)
  guard (!hasPoint || !fraction.isEmpty)
  let (exponent, rest, hasExponent) ← match rest with
    | c :: cs =>
        if c == 'e' || c == 'E' then do
          let (down, cs) := match cs with
            | '+' :: cs => (false, cs)
            | '-' :: cs => (true, cs)
            | _ => (false, cs)
          let digits := cs.takeWhile Char.isDigit
          guard !digits.isEmpty
          let e := digitsValue digits
          pure ((if down then -(e : Int) else e), cs.dropWhile Char.isDigit, true)
        else pure (0, c :: cs, false)
    | [] => pure (0, [], false)
  let n := digitsValue whole
  if !hasPoint && !hasExponent then
    if !negative && n ≤ maxSignificand then return (.int n, rest)
    if negative && 0 < n && n ≤ Nat.pow 2 63 then return (.int (-n), rest)
  let (m, _, _) := takeSignificand 0 0 (whole ++ fraction)
  let x ←
    if exponentLimit < exponent.natAbs then
      if 0 < exponent && m != 0 then none else some (Double.zero negative)
    else decimal? negative whole fraction (clampExponent exponent)
  pure (.float x, rest)

def hex4? : List Char → Option (Nat × List Char)
  | a :: b :: c :: d :: rest =>
      if Text.isHexDigit a && Text.isHexDigit b && Text.isHexDigit c && Text.isHexDigit d then
        some (((Text.hexValue a * 16 + Text.hexValue b) * 16 + Text.hexValue c) * 16 +
          Text.hexValue d, rest)
      else none
  | _ => none

theorem length_hex4? {s rest : List Char} {n : Nat} (h : hex4? s = some (n, rest)) :
    rest.length + 4 = s.length := by
  unfold hex4? at h
  split at h
  · split at h
    · simp at h; simp [h]
    · simp at h
  · simp at h

def escape? : List Char → Option (Char × List Char)
  | '"' :: cs => some ('"', cs)
  | '\\' :: cs => some ('\\', cs)
  | '/' :: cs => some ('/', cs)
  | 'b' :: cs => some ('\x08', cs)
  | 'f' :: cs => some ('\x0c', cs)
  | 'n' :: cs => some ('\n', cs)
  | 'r' :: cs => some ('\r', cs)
  | 't' :: cs => some ('\t', cs)
  | 'u' :: cs =>
      match hex4? cs with
      | none => none
      | some (n, rest) =>
          if 0xDC00 ≤ n && n ≤ 0xDFFF then none
          else if 0xD800 ≤ n && n ≤ 0xDBFF then
            match rest with
            | '\\' :: 'u' :: more =>
                match hex4? more with
                | some (l, rest) =>
                    if 0xDC00 ≤ l && l ≤ 0xDFFF then
                      some (Char.ofNat (0x10000 + (n - 0xD800) * 0x400 + (l - 0xDC00)), rest)
                    else none
                | none => none
            | _ => none
          else some (Char.ofNat n, rest)
  | _ => none

theorem length_escape? {s rest : List Char} {c : Char} (h : escape? s = some (c, rest)) :
    rest.length < s.length := by
  unfold escape? at h
  split at h
  case h_9 =>
    split at h
    · simp at h
    · next n r hr =>
      have := length_hex4? hr
      split at h
      · simp at h
      · split at h
        · split at h
          · split at h
            · next more _ l r' hl =>
              have := length_hex4? hl
              split at h
              · simp only [Option.some.injEq, Prod.mk.injEq] at h
                obtain ⟨-, rfl⟩ := h
                simp only [List.length_cons] at *
                omega
              · simp at h
            · simp at h
          · simp at h
        · simp only [Option.some.injEq, Prod.mk.injEq] at h
          obtain ⟨-, rfl⟩ := h
          simp only [List.length_cons]
          omega
  all_goals first
    | (simp only [Option.some.injEq, Prod.mk.injEq] at h; simp [h.2])
    | simp at h

def string? : List Char → Option (List Char × List Char)
  | [] => none
  | c :: cs =>
      if c = '"' then some ([], cs)
      else if c = '\\' then
        match _h : escape? cs with
        | none => none
        | some (e, rest) => (string? rest).map fun p => (e :: p.1, p.2)
      else if c.toNat < 32 then none
      else (string? cs).map fun p => (c :: p.1, p.2)
termination_by s => s.length
decreasing_by
  · have := length_escape? _h
    simp only [List.length_cons]
    omega
  · simp

def literal? (word : String) (t : Tree) (s : List Char) : Option (Tree × List Char) :=
  if word.toList.isPrefixOf s then some (t, s.drop word.length) else none

mutual

def value? : Nat → Nat → List Char → Option (Tree × List Char)
  | 0, _, _ => none
  | fuel + 1, depth, s =>
      match skipSpace s with
      | '"' :: cs => (string? cs).map fun p => (.str (String.ofList p.1), p.2)
      | '[' :: cs =>
          match depth with
          | 0 => none
          | depth + 1 =>
              match skipSpace cs with
              | ']' :: rest => some (.arr [], rest)
              | cs => (items? fuel depth cs).map fun p => (.arr p.1, p.2)
      | '\x7b' :: cs =>
          match depth with
          | 0 => none
          | depth + 1 =>
              match skipSpace cs with
              | '\x7d' :: rest => some (.obj [], rest)
              | cs => (members? fuel depth cs).map fun p => (.obj p.1, p.2)
      | 't' :: cs => literal? "true" (.bool true) ('t' :: cs)
      | 'f' :: cs => literal? "false" (.bool false) ('f' :: cs)
      | 'n' :: cs => literal? "null" .null ('n' :: cs)
      | '-' :: cs => number? true cs
      | cs => number? false cs

def items? : Nat → Nat → List Char → Option (List Tree × List Char)
  | 0, _, _ => none
  | fuel + 1, depth, s =>
      match value? fuel depth s with
      | none => none
      | some (t, rest) =>
          match skipSpace rest with
          | ',' :: rest => (items? fuel depth rest).map fun p => (t :: p.1, p.2)
          | ']' :: rest => some ([t], rest)
          | _ => none

def members? : Nat → Nat → List Char → Option (List (String × Tree) × List Char)
  | 0, _, _ => none
  | fuel + 1, depth, s =>
      match skipSpace s with
      | '"' :: cs =>
          match string? cs with
          | none => none
          | some (k, rest) =>
              match skipSpace rest with
              | ':' :: rest =>
                  match value? fuel depth rest with
                  | none => none
                  | some (t, rest) =>
                      let entry := (String.ofList k, t)
                      match skipSpace rest with
                      | ',' :: rest => (members? fuel depth rest).map fun p => (entry :: p.1, p.2)
                      | '\x7d' :: rest => some ([entry], rest)
                      | _ => none
              | _ => none
      | _ => none

end

def depthLimit : Nat := 127

def tree? (s : List Char) : Option Tree := do
  let (t, rest) ← value? (2 * s.length + 2) depthLimit s
  guard (skipSpace rest).isEmpty
  pure t

def read? (s : String) : Option Json := (tree? s.toList).map Tree.value

end Reconcile.Json
