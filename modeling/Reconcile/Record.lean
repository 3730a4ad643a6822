import Reconcile.Kind

namespace Reconcile

structure Record (σ : Type) where
  id : Option String
  state : σ
  deriving DecidableEq, Repr

namespace Record

variable {σ : Type}

def desired (state : σ) : Record σ := ⟨none, state⟩

def isPresent (r : Record σ) : Bool := r.id.isSome

def readId (members : List (String × Json)) : Except Decode.Error (Option String) :=
  match Keyed.get? "id" members with
  | some j => Decode.optional Decode.string j
  | none => .ok none

def decode (k : Kind σ) : Json → Except Decode.Error (Record σ)
  | .obj members => do
      let id ← readId members
      let state ← Decode.members k.fields k.initial members
      pure ⟨id, state⟩
  | j => Decode.wrong j (.record "ResourceData")

def entries (k : Kind σ) (r : Record σ) : List (String × Json) :=
  let id := match r.id with
    | some id => [("id", Json.str id)]
    | none => []
  id ++ Decode.entries k.fields r.state

def encode (k : Kind σ) (r : Record σ) : Json := .obj (Keyed.ofList (r.entries k))

end Record

end Reconcile
