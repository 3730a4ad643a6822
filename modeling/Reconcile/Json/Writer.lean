import Reconcile.Json.Basic
import Reconcile.Decimal.Shortest

namespace Reconcile.Json

def hex2 (n : Nat) : List Char := [Nat.digitChar (n / 16), Nat.digitChar (n % 16)]

def escapeChar (c : Char) : List Char :=
  if c = '"' then ['\\', '"']
  else if c = '\\' then ['\\', '\\']
  else if c = '\n' then ['\\', 'n']
  else if c = '\r' then ['\\', 'r']
  else if c = '\t' then ['\\', 't']
  else if c.toNat = 8 then ['\\', 'b']
  else if c.toNat = 12 then ['\\', 'f']
  else if c.toNat < 32 then ['\\', 'u', '0', '0'] ++ hex2 c.toNat
  else [c]

def writeStr (s : String) : List Char :=
  '"' :: s.toList.flatMap escapeChar ++ ['"']

mutual

def write : Json → List Char
  | .null => ['n', 'u', 'l', 'l']
  | .bool true => ['t', 'r', 'u', 'e']
  | .bool false => ['f', 'a', 'l', 's', 'e']
  | .int n => (toString n).toList
  | .float x => x.text.toList
  | .str s => writeStr s
  | .arr items => '[' :: writeItems items ++ [']']
  | .obj members => '\x7b' :: writeMembers members ++ ['\x7d']

def writeItems : List Json → List Char
  | [] => []
  | [j] => write j
  | j :: js => write j ++ ',' :: writeItems js

def writeMembers : List (String × Json) → List Char
  | [] => []
  | [(k, j)] => writeStr k ++ ':' :: write j
  | (k, j) :: ms => writeStr k ++ ':' :: write j ++ ',' :: writeMembers ms

end

def text (j : Json) : String := String.ofList (write j)

end Reconcile.Json
