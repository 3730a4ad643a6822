import Reconcile.Failure
import Reconcile.Text.Search

namespace Reconcile

abbrev Fields := List (String × String)

namespace Template

inductive Segment where
  | literal (text : List Char)
  | field (name : List Char)
  deriving DecidableEq, Repr

/-- Reads up to the next opening brace, or inside braces. `held` is in reverse order. -/
def scan (inside : Bool) (held : List Char) : List Char → List Segment
  | [] =>
      if inside then [.literal ('\x7b' :: held.reverse)]
      else if held.isEmpty then [] else [.literal held.reverse]
  | c :: cs =>
      if inside then
        if c = '\x7d' then .field held.reverse :: scan false [] cs else scan true (c :: held) cs
      else if c = '\x7b' then
        if held.isEmpty then scan true [] cs else .literal held.reverse :: scan true [] cs
      else scan false (c :: held) cs

end Template

structure Template where
  text : String
  deriving DecidableEq, Repr

namespace Template

def segments (t : Template) : List Segment := scan false [] t.text.toList

def names (t : Template) : List String :=
  t.segments.filterMap fun
    | .field name => some (String.ofList name)
    | .literal _ => none

def value? (fields : Fields) (name : List Char) : Option String :=
  (Keyed.get? (String.ofList name) fields).filter (!·.isEmpty)

def renderSegments (t : Template) (fields : Fields) :
    List Segment → Except Failure (List Char)
  | [] => .ok []
  | .literal text :: rest => (renderSegments t fields rest).map (text ++ ·)
  | .field name :: rest =>
      match value? fields name with
      | some value => (renderSegments t fields rest).map (value.toList ++ ·)
      | none => .error (.invalid (String.ofList name) (.neededBy t.text))

def render (t : Template) (fields : Fields) : Except Failure String :=
  (renderSegments t fields t.segments).map String.ofList

/-- Takes as much of the text as leaves a match for the rest of the segments, then less. `most`
bounds the length of the value. -/
def longest (next : List Char → Option Fields) (name : String) (s : List Char) :
    Nat → Option Fields
  | 0 => none
  | most + 1 =>
      match next (s.drop (most + 1)) with
      | some fields => some ((name, String.ofList (s.take (most + 1))) :: fields)
      | none => longest next name s most

def parseSegments : List Segment → List Char → Option Fields
  | [], s => if s.isEmpty then some [] else none
  | .literal text :: rest, s => (Text.after? text s).bind (parseSegments rest)
  | .field name :: rest, s =>
      longest (parseSegments rest) (String.ofList name) s (s.takeWhile (· != '/')).length

def parse (t : Template) (rendered : String) : Option Fields :=
  let names := t.names
  if names.all (Text.isGroupName ·.toList) && names.eraseDups.length == names.length then
    (parseSegments t.segments rendered.toList).map Keyed.ofList
  else none

example : parse ⟨"{a}.{b}"⟩ "x.y.z" = some [("a", "x.y"), ("b", "z")] := by decide +kernel

end Template

end Reconcile
