import Reconcile.Text.Table.Unprintable
import Reconcile.Text.Table.Extending
import Reconcile.Text.Table.Alphabetic
import Reconcile.Text.Table.Numeric
import Reconcile.Text.Table.Digit
import Reconcile.Text.Table.Mark
import Reconcile.Text.Table.LowerCase

namespace Reconcile.Text

def inRanges (ranges : Array (Nat × Nat)) (c : Char) : Bool :=
  ranges.any fun r => r.1 ≤ c.toNat && c.toNat ≤ r.2

def isAscii (c : Char) : Bool := c.toNat < 128

def isBlank (c : Char) : Bool :=
  let n := c.toNat
  (9 ≤ n && n ≤ 13) || n == 32 || n == 0x85 || n == 0xA0 || n == 0x1680 ||
    (0x2000 ≤ n && n ≤ 0x200A) || n == 0x2028 || n == 0x2029 || n == 0x202F || n == 0x205F ||
    n == 0x3000

def isPrintable (c : Char) : Bool :=
  if c.toNat < 127 then 32 ≤ c.toNat
  else !inRanges unprintableRanges c && !inRanges extendingRanges c

def isAlphabetic (c : Char) : Bool :=
  if isAscii c then c.isAlpha else inRanges alphabeticRanges c

def isNumeric (c : Char) : Bool :=
  if isAscii c then c.isDigit else inRanges numericRanges c

def isAlphanumeric (c : Char) : Bool := isAlphabetic c || isNumeric c

def isDecimalDigit (c : Char) : Bool :=
  if isAscii c then c.isDigit else inRanges digitRanges c

def isWordChar (c : Char) : Bool :=
  if isAscii c then c.isAlphanum || c == '_'
  else isAlphabetic c || isDecimalDigit c || inRanges markRanges c

def isNameStart (c : Char) : Bool := c == '_' || isAlphabetic c

def isNameChar (c : Char) : Bool :=
  c == '_' || c == '.' || c == '[' || c == ']' || isAlphanumeric c

def isGroupName : List Char → Bool
  | [] => false
  | c :: cs => isNameStart c && cs.all isNameChar

def isHexDigit (c : Char) : Bool :=
  c.isDigit || ('a' ≤ c && c ≤ 'f') || ('A' ≤ c && c ≤ 'F')

def hexValue (c : Char) : Nat :=
  if c.isDigit then c.toNat - 48
  else if 'a' ≤ c && c ≤ 'f' then c.toNat - 87
  else c.toNat - 55

def isOctalDigit (c : Char) : Bool := '0' ≤ c && c ≤ '7'

def CaseRun.mem (r : CaseRun) (n : Nat) : Bool :=
  r.first ≤ n && n ≤ r.last && (n - r.first) % r.step == 0

def toLower (c : Char) : Char :=
  if isAscii c then c.toLower
  else
    match caseRuns.find? (·.mem c.toNat) with
    | some r => Char.ofNat (c.toNat + r.shift).toNat
    | none => c

end Reconcile.Text
