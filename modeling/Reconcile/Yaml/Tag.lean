import Reconcile.Text.Utf8
import Reconcile.Yaml.Token

namespace Reconcile.Yaml

namespace Tag

def isUriChar (verbatim : Bool) (c : Char) : Bool :=
  isNameChar c || ";/?:@&=+$.!~*'()".toList.contains c || (verbatim && ",[]".toList.contains c)

def leadWidth (octet : Nat) : Nat :=
  if octet < 0x80 then 1
  else if 0xC0 ≤ octet && octet < 0xE0 then 2
  else if 0xE0 ≤ octet && octet < 0xF0 then 3
  else if 0xF0 ≤ octet && octet < 0xF8 then 4
  else 0

/-- Characters of a tag with its escapes undone. `due` further octets belong to the character that
was begun. -/
def uri? (verbatim : Bool) (due : Nat) : List Char → Option (List UInt8 × List Char)
  | '%' :: a :: b :: cs =>
      if !(Text.isHexDigit a && Text.isHexDigit b) then none
      else
        let octet := Text.hexValue a * 16 + Text.hexValue b
        let width := if due = 0 then leadWidth octet else due
        if width = 0 || (due != 0 && octet / 64 != 2) then none
        else (uri? verbatim (width - 1) cs).map fun r => (octet.toUInt8 :: r.1, r.2)
  | c :: cs =>
      if due != 0 || c == '%' then none
      else if isUriChar verbatim c then
        (uri? verbatim 0 cs).map fun r => (Text.Utf8.encodeChar c ++ r.1, r.2)
      else some ([], c :: cs)
  | [] => if due != 0 then none else some ([], [])

def uriText? (verbatim : Bool) (s : List Char) : Option (List Char × List Char) :=
  (uri? verbatim 0 s).map fun r => (Text.Utf8.decodeLossy r.1, r.2)

def handle? : List Char → Option (List Char × List Char)
  | '!' :: cs =>
      let name := cs.takeWhile isNameChar
      match cs.dropWhile isNameChar with
      | '!' :: rest => some ('!' :: name ++ ['!'], rest)
      | rest => some ('!' :: name, rest)
  | _ => none

def isHandle (handle : List Char) : Bool :=
  1 < handle.length && handle.getLast? == some '!'

def parts? (s : List Char) : Option (List Char × List Char × List Char) :=
  match s with
  | '!' :: '<' :: cs => do
      let (suffix, rest) ← uriText? true cs
      guard !suffix.isEmpty
      match rest with
      | '>' :: rest => pure ([], suffix, rest)
      | _ => none
  | _ => do
      let (handle, rest) ← handle? s
      let (suffix, rest) ← uriText? false rest
      if isHandle handle then
        guard !suffix.isEmpty
        pure (handle, suffix, rest)
      else
        let suffix := handle.drop 1 ++ suffix
        if suffix.isEmpty then pure ([], ['!'], rest) else pure (['!'], suffix, rest)

def read (flow : Bool) (s : List Char) : Option (Token × List Char) := do
  let (handle, suffix, rest) ← parts? s
  guard (isGap rest || (flow && rest.head? == some ','))
  pure (.tag (String.ofList handle) (String.ofList suffix), rest)

end Tag

def anchorName? (s : List Char) : Option (String × List Char) :=
  let name := s.takeWhile isNameChar
  let rest := s.dropWhile isNameChar
  let ends := isGap rest || rest.head?.any fun c => "?:,]\x7d%@\x60".toList.contains c
  if name.isEmpty || !ends then none else some (String.ofList name, rest)

namespace Directive

def number? (s : List Char) : Option (Nat × List Char) :=
  let digits := s.takeWhile Char.isDigit
  if digits.isEmpty || 9 < digits.length then none
  else some (digits.foldl (fun n c => n * 10 + (c.toNat - 48)) 0, s.dropWhile Char.isDigit)

def version? (s : List Char) : Option (Token × List Char) := do
  let (major, rest) ← number? (s.dropWhile isBlank)
  match rest with
  | '.' :: rest => do
      let (minor, rest) ← number? rest
      pure (.version major minor, rest)
  | _ => none

def tagRule? (s : List Char) : Option (Token × List Char) := do
  let (handle, rest) ← Tag.handle? (s.dropWhile isBlank)
  guard (handle = ['!'] || Tag.isHandle handle)
  guard (rest.head?.any isBlank)
  let (lead, rest) ← Tag.uriText? true (rest.dropWhile isBlank)
  guard (!lead.isEmpty && isGap rest)
  pure (.tagRule (String.ofList handle) (String.ofList lead), rest)

def read (s : List Char) : Option (Token × List Char) := do
  let name := s.takeWhile isNameChar
  let rest := s.dropWhile isNameChar
  guard (!name.isEmpty && isGap rest)
  let (token, rest) ← match String.ofList name with
    | "YAML" => version? rest
    | "TAG" => tagRule? rest
    | _ => none
  let rest := match rest.dropWhile isBlank with
    | '#' :: cs => cs.dropWhile (!isBreak ·)
    | cs => cs
  guard (isLineEnd rest)
  pure (token, rest)

end Directive

end Reconcile.Yaml
