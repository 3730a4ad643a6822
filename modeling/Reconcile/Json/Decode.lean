import Reconcile.Json.Basic
import Reconcile.Decimal.Shortest
import Reconcile.Text.Quoted

namespace Reconcile

namespace Decode

inductive Found where
  | null
  | bool (b : Bool)
  | int (n : Int)
  | float (x : Double)
  | str (s : String)
  | sequence
  | map
  deriving DecidableEq, Repr

def Found.ofJson : Json → Found
  | .null => .null
  | .bool b => .bool b
  | .int n => .int n
  | .float x => .float x
  | .str s => .str s
  | .arr _ => .sequence
  | .obj _ => .map

def Found.text : Found → String
  | .null => "null"
  | .bool b => "boolean \x60" ++ toString b ++ "\x60"
  | .int n => "integer \x60" ++ toString n ++ "\x60"
  | .float x => "floating point \x60" ++ x.text ++ "\x60"
  | .str s => "string " ++ Text.quoted s
  | .sequence => "sequence"
  | .map => "map"

inductive Expected where
  | string
  | sequence
  | integer (signed : Bool)
  | unit
  | stringOrMap
  | record (name : String)
  deriving DecidableEq, Repr

def Expected.text : Expected → String
  | .string => "a string"
  | .sequence => "a sequence"
  | .integer true => "i64"
  | .integer false => "u64"
  | .unit => "unit"
  | .stringOrMap => "string or map"
  | .record name => "struct " ++ name

inductive Error where
  | wrongType (found : Found) (expected : Expected)
  | outOfRange (n : Int) (signed : Bool)
  | manyKeys
  | surplus (length : Nat)
  deriving DecidableEq, Repr

def Error.message : Error → String
  | .wrongType found expected => "invalid type: " ++ found.text ++ ", expected " ++ expected.text
  | .outOfRange n signed =>
      "invalid value: integer \x60" ++ toString n ++ "\x60, expected " ++
        (Expected.integer signed).text
  | .manyKeys => "invalid value: map, expected map with a single key"
  | .surplus length =>
      "invalid length " ++ toString length ++ ", expected fewer elements in array"

def wrong {α : Type} (j : Json) (expected : Expected) : Except Error α :=
  .error (.wrongType (.ofJson j) expected)

def string : Json → Except Error String
  | .str s => .ok s
  | j => wrong j .string

def minSigned : Int := -9223372036854775808

def maxSigned : Int := 9223372036854775807

def signed : Json → Except Error Int
  | .int n => if minSigned ≤ n ∧ n ≤ maxSigned then .ok n else .error (.outOfRange n true)
  | j => wrong j (.integer true)

def unsigned : Json → Except Error Nat
  | .int n => if 0 ≤ n then .ok n.toNat else .error (.outOfRange n false)
  | j => wrong j (.integer false)

def optional {α : Type} (read : Json → Except Error α) : Json → Except Error (Option α)
  | .null => .ok none
  | j => (read j).map some

def list {α : Type} (read : Json → Except Error α) : Json → Except Error (List α)
  | .arr items => items.mapM read
  | j => wrong j .sequence

end Decode

inductive Shape where
  | text
  | optionalText
  | optionalSigned
  | optionalUnsigned
  | texts
  | other
  deriving DecidableEq, Repr

structure Field (σ : Type) where
  name : String
  shape : Shape
  read : Json → σ → Except Decode.Error σ
  write : σ → Option Json

namespace Field

def text {σ : Type} (name : String) (get : σ → String) (set : String → σ → σ) : Field σ where
  name
  shape := .text
  read j s := (Decode.string j).map (set · s)
  write s := some (.str (get s))

def optionalText {σ : Type} (name : String) (get : σ → Option String)
    (set : Option String → σ → σ) : Field σ where
  name
  shape := .optionalText
  read j s := (Decode.optional Decode.string j).map (set · s)
  write s := (get s).map .str

def optionalSigned {σ : Type} (name : String) (get : σ → Option Int)
    (set : Option Int → σ → σ) : Field σ where
  name
  shape := .optionalSigned
  read j s := (Decode.optional Decode.signed j).map (set · s)
  write s := (get s).map .int

def optionalUnsigned {σ : Type} (name : String) (get : σ → Option Nat)
    (set : Option Nat → σ → σ) : Field σ where
  name
  shape := .optionalUnsigned
  read j s := (Decode.optional Decode.unsigned j).map (set · s)
  write s := (get s).map fun n => .int n

def texts {σ : Type} (name : String) (get : σ → List String) (set : List String → σ → σ) :
    Field σ where
  name
  shape := .texts
  read j s := (Decode.list Decode.string j).map (set · s)
  write s := if (get s).isEmpty then none else some (.arr ((get s).map .str))

end Field

namespace Decode

def member {σ : Type} (fields : List (Field σ)) (s : σ) (entry : String × Json) :
    Except Error σ :=
  match fields.find? (·.name == entry.1) with
  | some field => field.read entry.2 s
  | none => .ok s

def members {σ : Type} (fields : List (Field σ)) (s : σ) (entries : List (String × Json)) :
    Except Error σ :=
  entries.foldlM (member fields) s

def positions {σ : Type} : List (Field σ) → σ → List Json → Except Error σ
  | field :: fields, s, j :: js => do
      let s ← field.read j s
      positions fields s js
  | _, s, _ => .ok s

/-- A record from an object or an array. Missing fields keep the value they have in `start`. -/
def record {σ : Type} (name : String) (fields : List (Field σ)) (start : σ) :
    Json → Except Error σ
  | .obj entries => members fields start entries
  | .arr items => do
      let s ← positions fields start items
      if fields.length < items.length then throw (.surplus items.length) else pure s
  | j => wrong j (.record name)

def entries {σ : Type} (fields : List (Field σ)) (s : σ) : List (String × Json) :=
  fields.filterMap fun field => (field.write s).map (field.name, ·)

end Decode

end Reconcile
