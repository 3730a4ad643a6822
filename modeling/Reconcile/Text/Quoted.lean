import Reconcile.Text.Class
import Reconcile.Text.Search

namespace Reconcile.Text

def quoteChar (c : Char) : List Char :=
  if c = '"' then ['\\', '"']
  else if c = '\\' then ['\\', '\\']
  else if c = '\n' then ['\\', 'n']
  else if c = '\r' then ['\\', 'r']
  else if c = '\t' then ['\\', 't']
  else if c.toNat = 0 then ['\\', '0']
  else if isPrintable c then [c]
  else ['\\', 'u', '\x7b'] ++ Nat.toDigits 16 c.toNat ++ ['\x7d']

def quoteChars (s : List Char) : List Char :=
  '"' :: s.flatMap quoteChar ++ ['"']

def quoted (s : String) : String :=
  String.ofList (quoteChars s.toList)

def quotedList (items : List String) : String :=
  "[" ++ ", ".intercalate (items.map quoted) ++ "]"

example : quoted "a\"b\n" = "\"a\\\"b\\n\"" := by decide

end Reconcile.Text
