import Reconcile.Text.Search
import Reconcile.Url.Percent
import Reconcile.Url.Punycode

namespace Reconcile.Url

inductive Error where
  | emptyHost
  | invalidPort
  | invalidIpv6
  | invalidIpv4
  | invalidInternationalName
  | noBase
  deriving DecidableEq, Repr

def Error.message : Error → String
  | .emptyHost => "empty host"
  | .invalidPort => "invalid port number"
  | .invalidIpv6 => "invalid IPv6 address"
  | .invalidIpv4 => "invalid IPv4 address"
  | .invalidInternationalName => "invalid international domain name"
  | .noBase => "relative URL without a base"

inductive Host where
  | domain (name : List Char)
  | ipv4 (address : Nat)
  | ipv6 (pieces : List Nat)
  deriving DecidableEq, Repr

def isForbiddenInDomain (c : Char) : Bool :=
  c.toNat ≤ 32 || c.toNat == 127 || "%#/:<>?@[\\]^|".toList.contains c

def isIgnoredInDomain (c : Char) : Bool :=
  let n := c.toNat
  n == 0xAD || n == 0x34F || n == 0x200B || n == 0x2060 || n == 0x2064 || n == 0xFEFF ||
    (0x180B ≤ n && n ≤ 0x180D) || (0xFE00 ≤ n && n ≤ 0xFE0F) || (0xE0100 ≤ n && n ≤ 0xE01EF)

def plainDomainChar (c : Char) : Char :=
  let n := c.toNat
  if n == 0x3002 || n == 0xFF0E || n == 0xFF61 then '.'
  else if 0xFF01 ≤ n && n ≤ 0xFF5E then Text.toLower (Char.ofNat (n - 0xFEE0))
  else Text.toLower c

def isAllowedInDomain (c : Char) : Bool :=
  Text.isAscii c || Text.isPrintable c || Text.inRanges Text.extendingRanges c

def beginsWithMark (label : List Char) : Bool :=
  label.head?.any fun c => !Text.isAscii c && Text.inRanges Text.markRanges c

def labelToAscii (label : List Char) : Option (List Char) :=
  match Text.after? ['x', 'n', '-', '-'] label with
  | some rest =>
      match Punycode.decode? rest with
      | some name =>
          if name.all Text.isAscii || !label.all Text.isAscii then none
          else if beginsWithMark name then none
          else if name.all fun c => isAllowedInDomain c && Text.toLower c == c then some label
          else none
      | none => none
  | none =>
      if label.all Text.isAscii then some label
      else if beginsWithMark label then none
      else some ("xn--".toList ++ Punycode.encode label)

-- International names in outline: the mapping is that of cases, widths and ignored characters, and
-- neither composition nor the rules for joiners and for the direction of a script are checked.
def domainToAscii? (bytes : List UInt8) : Option (List Char) := do
  let name ← Text.Utf8.decode? bytes
  let name := name.filter (!isIgnoredInDomain ·)
  guard (name.all isAllowedInDomain)
  let name := name.map plainDomainChar
  guard !(name.any isForbiddenInDomain)
  let labels ← (Text.splitOn '.' name).mapM labelToAscii
  pure (Text.join ['.'] labels)

inductive Ipv4Part where
  | notNumber
  | tooLarge
  | number (n : Nat)
  deriving DecidableEq, Repr

def valueIn (base : Nat) (s : List Char) : Nat := s.foldl (fun n c => n * base + Text.hexValue c) 0

def ipv4Part (s : List Char) : Ipv4Part :=
  let (digits, base, ok) : List Char × Nat × (Char → Bool) :=
    match s with
    | '0' :: 'x' :: rest => (rest, 16, Text.isHexDigit)
    | '0' :: 'X' :: rest => (rest, 16, Text.isHexDigit)
    | '0' :: c :: rest => (c :: rest, 8, Text.isOctalDigit)
    | s => (s, 10, Char.isDigit)
  if s.isEmpty then .notNumber
  else if digits.all ok then
    let n := valueIn base digits
    if n < Nat.pow 2 32 then .number n else .tooLarge
  else .notNumber

def lastLabel (labels : List (List Char)) : List Char :=
  match labels.reverse with
  | [] :: label :: _ => label
  | label :: _ => label
  | [] => []

def endsInNumber (name : List Char) : Bool :=
  let last := lastLabel (Text.splitOn '.' name)
  (!last.isEmpty && last.all Char.isDigit) || ipv4Part last != .notNumber

def ipv4Numbers? : List (List Char) → Option (List Nat)
  | [] => some []
  | p :: ps =>
      match ipv4Part p with
      | .number n => (ipv4Numbers? ps).map (n :: ·)
      | _ => none

def ipv4? (name : List Char) : Option Nat := do
  let labels := Text.splitOn '.' name
  let labels := if labels.getLast? = some [] then labels.dropLast else labels
  guard (labels.length ≤ 4)
  let numbers ← ipv4Numbers? labels
  let last ← numbers.getLast?
  let lead := numbers.dropLast
  guard (last < Nat.pow 256 (4 - lead.length))
  guard (lead.all (· < 256))
  pure (lead.foldl (fun n part => n * 256 + part) 0 * Nat.pow 256 (4 - lead.length) + last)

def dotted (address : Nat) : List Char :=
  Text.join ['.'] ([16777216, 65536, 256, 1].map fun w => (toString (address / w % 256)).toList)

def embeddedIpv4? (s : List Char) : Option (List Nat) := do
  let parts := Text.splitOn '.' s
  guard (parts.length = 4)
  let numbers ← parts.mapM fun p =>
    if !p.isEmpty && p.all Char.isDigit && p.length ≤ 3 && (p.length = 1 || p.head? != some '0')
      && valueIn 10 p < 256 then some (valueIn 10 p) else none
  match numbers with
  | [a, b, c, d] => some [a * 256 + b, c * 256 + d]
  | _ => none

def ipv6Piece? (s : List Char) : Option Nat :=
  if !s.isEmpty && s.length ≤ 4 && s.all Text.isHexDigit then some (valueIn 16 s) else none

def ipv6Pieces? (tail : Bool) : List (List Char) → Option (List Nat)
  | [] => some []
  | [p] =>
      if p.contains '.' then (if tail then embeddedIpv4? p else none)
      else (ipv6Piece? p).map ([·])
  | p :: ps => do
      let n ← ipv6Piece? p
      let ns ← ipv6Pieces? tail ps
      pure (n :: ns)

def ipv6Side? (tail : Bool) (s : List Char) : Option (List Nat) :=
  if s.isEmpty then some [] else ipv6Pieces? tail (Text.splitOn ':' s)

def ipv6? (s : List Char) : Option (List Nat) :=
  match Text.cut? [':', ':'] s with
  | none => do
      let pieces ← ipv6Side? true s
      guard (pieces.length = 8)
      pure pieces
  | some (before, after) => do
      let head ← ipv6Side? false before
      let tail ← ipv6Side? true after
      guard (head.length + tail.length ≤ 7)
      pure (head ++ List.replicate (8 - head.length - tail.length) 0 ++ tail)

def zeroRun : List Nat → Nat
  | 0 :: ns => zeroRun ns + 1
  | _ => 0

def longestZeros : Nat → List Nat → Nat × Nat
  | _, [] => (0, 0)
  | i, n :: ns =>
      let here := zeroRun (n :: ns)
      let (j, rest) := longestZeros (i + 1) ns
      if rest ≤ here && 0 < here then (i, here) else (j, rest)

def hexPieces (ns : List Nat) : List Char := Text.join [':'] (ns.map (Nat.toDigits 16))

def ipv6Text (pieces : List Nat) : List Char :=
  let (start, run) := longestZeros 0 pieces
  if run < 2 then hexPieces pieces
  else hexPieces (pieces.take start) ++ [':', ':'] ++ hexPieces (pieces.drop (start + run))

def Host.text : Host → List Char
  | .domain name => name
  | .ipv4 address => dotted address
  | .ipv6 pieces => '[' :: ipv6Text pieces ++ [']']

def Host.parse (s : List Char) : Except Error Host :=
  match s with
  | '[' :: rest =>
      if rest.getLast? = some ']' then
        match ipv6? rest.dropLast with
        | some pieces => .ok (.ipv6 pieces)
        | none => .error .invalidIpv6
      else .error .invalidIpv6
  | s =>
      match domainToAscii? (percentDecode s) with
      | none => .error .invalidInternationalName
      | some [] => .error .emptyHost
      | some name =>
          if endsInNumber name then
            match ipv4? name with
            | some address => .ok (.ipv4 address)
            | none => .error .invalidIpv4
          else .ok (.domain name)

end Reconcile.Url
