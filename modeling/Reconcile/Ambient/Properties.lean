import Reconcile.Text.Class
import Reconcile.Text.Search

namespace Reconcile.Properties

def trim (line : List Char) : List Char := Text.trim Text.isBlank line

def isRemark (line : List Char) : Bool :=
  match line with
  | [] => true
  | c :: _ => c == '#' || c == ';'

def isHeader (line : List Char) : Bool := line.head? == some '['

def header (part : String) : List Char := '[' :: part.toList ++ [']']

def lines (content : List Char) : List (List Char) :=
  ((Text.splitOn '\n' content).map trim).filter (!isRemark ·)

def below (part : String) (inside : Bool) : List (List Char) → List (List Char)
  | [] => []
  | line :: rest =>
      if isHeader line then below part (line == header part) rest
      else if inside then line :: below part inside rest
      else below part inside rest

def assigned? (key : String) (line : List Char) : Option (List Char) :=
  match Text.cut? ['='] line with
  | some (name, value) =>
      if trim name = key.toList && !(trim value).isEmpty then some (trim value) else none
  | none => none

def value? (part key : String) (content : List Char) : Option String :=
  ((below part false (lines content)).findSome? (assigned? key)).map String.ofList

end Reconcile.Properties
