import Reconcile.Decimal.Double

namespace Reconcile

inductive Json where
  | null
  | bool (b : Bool)
  | int (n : Int)
  | float (x : Double)
  | str (s : String)
  | arr (items : List Json)
  | obj (members : List (String × Json))
  deriving Repr

namespace Keyed

def get? {α : Type} (key : String) : List (String × α) → Option α
  | [] => none
  | (k, v) :: rest => if k = key then some v else get? key rest

def insert {α : Type} (key : String) (value : α) : List (String × α) → List (String × α)
  | [] => [(key, value)]
  | (k, v) :: rest =>
      if key = k then (key, value) :: rest
      else if key < k then (key, value) :: (k, v) :: rest
      else (k, v) :: insert key value rest

/-- Ascending entries; of entries with the same key the last counts. -/
def ofList {α : Type} (entries : List (String × α)) : List (String × α) :=
  entries.foldl (fun acc e => insert e.1 e.2 acc) []

theorem get?_insert_self {α : Type} (key : String) (value : α) (entries : List (String × α)) :
    get? key (insert key value entries) = some value := by
  induction entries with
  | nil => simp [insert, get?]
  | cons e rest ih =>
      obtain ⟨k, v⟩ := e
      unfold insert
      split
      · simp [get?]
      · split
        · simp [get?]
        · next h _ => simp [get?, Ne.symm h, ih]

theorem get?_insert_of_ne {α : Type} {key other : String} (value : α)
    (entries : List (String × α)) (h : other ≠ key) :
    get? other (insert key value entries) = get? other entries := by
  induction entries with
  | nil => simp [insert, get?, Ne.symm h]
  | cons e rest ih =>
      obtain ⟨k, v⟩ := e
      unfold insert
      split
      · next hk => subst hk; simp [get?, Ne.symm h]
      · split
        · simp [get?, Ne.symm h]
        · simp only [get?, ih]

end Keyed

namespace Json

def asStr? : Json → Option String
  | .str s => some s
  | _ => none

def asInt? : Json → Option Int
  | .int n => some n
  | _ => none

def asArr? : Json → Option (List Json)
  | .arr items => some items
  | _ => none

def get? (key : String) : Json → Option Json
  | .obj members => Keyed.get? key members
  | _ => none

mutual

/-- Equality as the wire sees it: numbers of different kinds differ, the zeros of one kind do
not. -/
def same : Json → Json → Bool
  | .null, .null => true
  | .bool a, .bool b => a == b
  | .int a, .int b => a == b
  | .float a, .float b => a.same b
  | .str a, .str b => a == b
  | .arr a, .arr b => sameItems a b
  | .obj a, .obj b => sameMembers a b
  | _, _ => false

def sameItems : List Json → List Json → Bool
  | [], [] => true
  | a :: as, b :: bs => same a b && sameItems as bs
  | _, _ => false

def sameMembers : List (String × Json) → List (String × Json) → Bool
  | [], [] => true
  | (k, a) :: as, (l, b) :: bs => k == l && same a b && sameMembers as bs
  | _, _ => false

end

def isZero : Json → Bool
  | .null => true
  | .bool b => !b
  | .int n => n == 0
  | .float x => x.isZero
  | .str s => s.isEmpty
  | .arr items => items.isEmpty
  | .obj members => members.isEmpty

end Json

end Reconcile
