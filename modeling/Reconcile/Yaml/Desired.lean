import Reconcile.Kind
import Reconcile.Yaml.Node

namespace Reconcile

namespace Yaml

def isNullWord (text : String) : Bool :=
  text == "null" || text == "Null" || text == "NULL" || text == "~"

def nullTag : String := "tag:yaml.org,2002:null"

def intTag : String := "tag:yaml.org,2002:int"

def digit? (radix : Nat) (c : Char) : Option Nat :=
  if Text.isHexDigit c && Text.hexValue c < radix then some (Text.hexValue c) else none

def digits? (radix : Nat) (s : List Char) : Option Nat := do
  guard !s.isEmpty
  let values ← s.mapM (digit? radix)
  pure (values.foldl (fun n d => n * radix + d) 0)

def within? (n : Int) : Option Int :=
  if Decode.minSigned ≤ n ∧ n ≤ Decode.maxSigned then some n else none

def radix? : Char → Option Nat
  | 'x' => some 16
  | 'o' => some 8
  | 'b' => some 2
  | _ => none

def marked? : List Char → Option Nat
  | '0' :: mark :: s => (radix? mark).bind (digits? · s)
  | _ => none

def isPadded (s : List Char) : Bool :=
  s.head? == some '0' && 1 < s.length && s.all Char.isDigit

def negated? (s : List Char) (read : List Char → Option Nat) : Option Int :=
  (read s).bind fun n => within? (-n)

def integer? (s : List Char) : Option Int :=
  match s with
  | '-' :: rest =>
      match negated? rest marked? with
      | some n => some n
      | none => if isPadded rest then none else negated? rest (digits? 10)
  | _ =>
      let rest := match s with
        | '+' :: rest => rest
        | _ => s
      match (marked? rest).bind fun n => within? n with
      | some n => some n
      | none => if isPadded rest then none else (digits? 10 rest).bind fun n => within? n

namespace Node

def isNothing? : Node → Option Bool
  | .scalar text .plain none => some (text.isEmpty || isNullWord text)
  | .scalar text .plain (some tag) =>
      if tag = nullTag then (if isNullWord text then some true else none) else some false
  | _ => some false

def isEmptyPlain : Node → Bool
  | .scalar text .plain _ => text.isEmpty
  | _ => false

end Node

namespace Document

def text? (d : Document) (n : Node) : Option Json := do
  match ← d.resolve? n with
  | .scalar text _ _ => some (.str text)
  | _ => none

def integer? (d : Document) (n : Node) : Option Json := do
  match ← d.resolve? n with
  | .scalar text .plain _ => (Yaml.integer? text.toList).map .int
  | .scalar text .literal (some tag) =>
      if tag = intTag then (Yaml.integer? text.toList).map .int else none
  | _ => none

def texts? (d : Document) (n : Node) : Option Json := do
  match ← d.resolve? n with
  | .list items => (items.mapM d.text?).map .arr
  | n => if n.isEmptyPlain then some (.arr []) else none

def orNothing (d : Document) (read : Node → Option Json) (n : Node) : Option Json := do
  let n ← d.resolve? n
  if ← n.isNothing? then some .null else read n

def value? (d : Document) (shape : Shape) (n : Node) : Option Json :=
  match shape with
  | .text => d.text? n
  | .optionalText => d.orNothing d.text? n
  | .optionalSigned => d.orNothing d.integer? n
  | .optionalUnsigned => d.orNothing d.integer? n
  | .texts => d.texts? n
  | .other => none

def name? (d : Document) (n : Node) : Option String := do
  match ← d.resolve? n with
  | .scalar text _ _ => some text
  | _ => none

def members? {σ : Type} (d : Document) (fields : List (Field σ)) (seen : List String) :
    List (Node × Node) → Option (List (String × Json))
  | [] => some []
  | (key, node) :: rest => do
      let name ← d.name? key
      match fields.find? (·.name == name) with
      | none => members? d fields seen rest
      | some field => do
          guard !(seen.contains name)
          let value ← d.value? field.shape node
          let more ← members? d fields (name :: seen) rest
          pure ((name, value) :: more)

def table? (d : Document) : Option (List (Node × Node)) :=
  match d.root with
  | none => some []
  | some n => do
      match ← d.resolve? n with
      | .table pairs => some pairs
      | n => if n.isEmptyPlain then some [] else none

end Document

end Yaml

namespace Kind

def ofYaml? {σ : Type} (k : Kind σ) (text : List Char) : Option σ := do
  let d ← Yaml.Document.ofText? text
  let pairs ← d.table?
  let members ← d.members? k.fields [] pairs
  (Decode.members k.fields k.initial members).toOption

end Kind

end Reconcile
