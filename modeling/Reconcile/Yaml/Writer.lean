import Reconcile.Json.Writer
import Reconcile.Yaml.Desired

namespace Reconcile.Yaml

namespace Writer

def isPrintable (c : Char) : Bool :=
  let n := c.toNat
  n == 10 || (0x20 ≤ n && n ≤ 0x7E) || (0xA0 ≤ n && n ≤ 0xFFFD && n != 0xFEFF)

def isLineBreak (c : Char) : Bool := isBreak c || c == '\r' || c.toNat == 0x85

def isSpaceLike (c : Char) : Bool := isBlank c || isLineBreak c

def gapFollows : List Char → Bool
  | [] => true
  | c :: _ => isSpaceLike c

def hasPair (p q : Char → Bool) : List Char → Bool
  | a :: b :: cs => (p a && q b) || hasPair p q (b :: cs)
  | _ => false

def hasInnerIndicator (afterGap : Bool) : List Char → Bool
  | [] => false
  | c :: cs =>
      (c == ':' && gapFollows cs) || (c == '#' && afterGap) ||
        hasInnerIndicator (isSpaceLike c) cs

def hasIndicator : List Char → Bool
  | [] => false
  | c :: cs =>
      ['-', '-', '-'].isPrefixOf (c :: cs) || ['.', '.', '.'].isPrefixOf (c :: cs) ||
        "#,[]\x7b\x7d&*!|>'\"%@\x60".toList.contains c ||
        ((c == '?' || c == ':' || c == '-') && gapFollows cs) ||
        hasInnerIndicator (isSpaceLike c) cs

def isSpace (c : Char) : Bool := c == ' '

def isSpecial (s : List Char) : Bool :=
  s.any (!isPrintable ·) || hasPair isSpace isLineBreak s

def fitsPlain (s : List Char) : Bool :=
  !(isSpecial s || s.any isLineBreak || hasIndicator s || s.head?.any isSpace ||
    s.getLast?.any isSpace)

def fitsSingle (s : List Char) : Bool := !(isSpecial s || hasPair isLineBreak isSpace s)

def fitsBlock (s : List Char) : Bool := !(isSpecial s || s.getLast?.any isSpace)

def truthWords : List String :=
  ["y", "Y", "yes", "Yes", "YES", "n", "N", "no", "No", "NO", "true", "True", "TRUE",
    "false", "False", "FALSE", "on", "On", "ON", "off", "Off", "OFF"]

def isSpecialFloat (s : String) : Bool :=
  [".inf", ".Inf", ".INF", "+.inf", "+.Inf", "+.INF", "-.inf", "-.Inf", "-.INF", ".nan", ".NaN",
    ".NAN"].contains s

def significant (whole fraction : List Char) (exponent : Int) : List Char × Int :=
  let digits := whole ++ fraction
  let kept := digits.dropWhile (· == '0')
  (kept, whole.length - (digits.length - kept.length : Nat) + exponent)

def overflow : Nat := Nat.pow 2 1024 - Nat.pow 2 970

def isFinite (whole fraction : List Char) (exponent : Int) : Bool :=
  let (digits, point) := significant whole fraction exponent
  if digits.isEmpty || point < 309 then true
  else if 309 < point then false
  else
    let digits := (digits ++ List.replicate 309 '0').take 309
    digits.foldl (fun n c => n * 10 + (c.toNat - 48)) 0 < overflow

def exponent? : List Char → Option Int
  | [] => some 0
  | c :: cs =>
      if c == 'e' || c == 'E' then
        let (negative, ds) := match cs with
          | '-' :: ds => (true, ds)
          | '+' :: ds => (false, ds)
          | ds => (false, ds)
        (digits? 10 ds).bind fun n =>
          if ds.all Char.isDigit then some (if negative then -(n : Int) else n) else none
      else none

def isDecimal (s : List Char) : Bool :=
  let s := match s with
    | '-' :: cs => cs
    | '+' :: '-' :: _ => ['?']
    | '+' :: cs => cs
    | cs => cs
  let whole := s.takeWhile Char.isDigit
  let rest := s.dropWhile Char.isDigit
  let (fraction, rest) := match rest with
    | '.' :: cs => (cs.takeWhile Char.isDigit, cs.dropWhile Char.isDigit)
    | cs => ([], cs)
  if whole.isEmpty && fraction.isEmpty then false
  else
    match exponent? rest with
    | none => false
    | some e => isFinite whole fraction e

def isMarkedNumber (s : List Char) : Bool :=
  let s := match s with
    | '-' :: cs => cs
    | '+' :: cs => cs
    | cs => cs
  (marked? s).any (· < Nat.pow 2 128)

def isAmbiguous (s : String) : Bool :=
  s.isEmpty || isNullWord s || truthWords.contains s || isSpecialFloat s ||
    isMarkedNumber s.toList || isDecimal s.toList

def escaped (c : Char) : List Char :=
  match c.toNat with
  | 0 => ['0']
  | 7 => ['a']
  | 8 => ['b']
  | 9 => ['t']
  | 10 => ['n']
  | 11 => ['v']
  | 12 => ['f']
  | 13 => ['r']
  | 0x1B => ['e']
  | 0x22 => ['"']
  | 0x5C => ['\\']
  | 0x85 => ['N']
  | 0xA0 => ['_']
  | 0x2028 => ['L']
  | 0x2029 => ['P']
  | n =>
      let (mark, width) := if n ≤ 0xFF then ('x', 2) else if n ≤ 0xFFFF then ('u', 4) else ('U', 8)
      let digits := (Nat.toDigits 16 n).map Char.toUpper
      mark :: (List.replicate (width - digits.length) '0' ++ digits)

def doubleQuoted (s : List Char) : List Char :=
  let inner := s.flatMap fun c =>
    if !isPrintable c || isLineBreak c || c == '"' || c == '\\' then '\\' :: escaped c else [c]
  '"' :: inner ++ ['"']

def singleQuoted (s : List Char) : List Char :=
  '\'' :: (s.flatMap fun c => if c == '\'' then ['\'', '\''] else [c]) ++ ['\'']

def indented (line : List Char) : List Char := if line.isEmpty then [] else ' ' :: ' ' :: line

def chompMark (s : List Char) : List Char :=
  match s.reverse with
  | a :: b :: _ => if !isLineBreak a then ['-'] else if isLineBreak b then ['+'] else []
  | [a] => if isLineBreak a then ['+'] else ['-']
  | [] => ['-']

def block (s : List Char) : List Char :=
  let hint := if s.head?.any fun c => isSpace c || isLineBreak c then ['2'] else []
  let lines := (Text.splitOn '\n' s).map indented
  let body := Text.join ['\n'] lines
  let body := if s.getLast? == some '\n' then body.dropLast else body
  '|' :: hint ++ chompMark s ++ '\n' :: body

def text (s : String) : List Char :=
  let cs := s.toList
  if !truthWords.contains s && cs.contains '\n' then
    if fitsBlock cs then block cs else doubleQuoted cs
  else if !isAmbiguous s && fitsPlain cs then cs
  else if fitsSingle cs then singleQuoted cs
  else doubleQuoted cs

def scalar : Json → List Char
  | .str s => text s
  | .int n => (toString n).toList
  | j => Json.write j

def item (j : Json) : List Char := '\n' :: '-' :: ' ' :: scalar j

def entry (e : String × Json) : List Char :=
  let value := match e.2 with
    | .arr items => items.flatMap item
    | j => ' ' :: scalar j
  text e.1 ++ ':' :: value ++ ['\n']

end Writer

def textOf (entries : List (String × Json)) : String :=
  String.ofList (entries.flatMap Writer.entry)

end Reconcile.Yaml
