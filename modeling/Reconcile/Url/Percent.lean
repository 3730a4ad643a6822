import Reconcile.Text.Class
import Reconcile.Text.Utf8

namespace Reconcile.Url

def isControlChar (c : Char) : Bool := c.toNat < 32 || c.toNat == 127

def inFragmentSet (c : Char) : Bool :=
  isControlChar c || c == ' ' || c == '"' || c == '<' || c == '>' || c == '\x60'

def inPathSet (c : Char) : Bool :=
  inFragmentSet c || c == '#' || c == '?' || c == '\x7b' || c == '\x7d'

def inQuerySet (c : Char) : Bool :=
  isControlChar c || c == ' ' || c == '"' || c == '#' || c == '<' || c == '>'

def inSpecialQuerySet (c : Char) : Bool := inQuerySet c || c == '\''

def upperHexDigit (n : Nat) : Char := (Nat.digitChar n).toUpper

def encodeByte (b : UInt8) : List Char :=
  ['%', upperHexDigit (b.toNat / 16), upperHexDigit (b.toNat % 16)]

def encodeChar (set : Char → Bool) (c : Char) : List Char :=
  if set c || !Text.isAscii c then (Text.Utf8.encodeChar c).flatMap encodeByte else [c]

def percentEncode (set : Char → Bool) (s : List Char) : List Char :=
  s.flatMap (encodeChar set)

def percentDecode : List Char → List UInt8
  | [] => []
  | c :: cs =>
      match c, cs with
      | '%', a :: b :: rest =>
          if Text.isHexDigit a && Text.isHexDigit b then
            (Text.hexValue a * 16 + Text.hexValue b).toUInt8 :: percentDecode rest
          else (0x25 : UInt8) :: percentDecode (a :: b :: rest)
      | c, cs => Text.Utf8.encodeChar c ++ percentDecode cs

end Reconcile.Url
