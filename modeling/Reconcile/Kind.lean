import Reconcile.Context
import Reconcile.Reference
import Reconcile.Wire.Payload
import Reconcile.Wire.Reading

namespace Reconcile

structure Kind (σ : Type) where
  name : String
  id : Template
  collectionPath : Template
  selfPath : Template
  importPatterns : List String
  createTimeout : Duration
  deleteTimeout : Duration
  minPollInterval : Duration
  stateName : String
  fields : List (Field σ)
  initial : σ
  identity : σ → Context → Except Failure Fields
  expand : σ → Context → Except Failure Payload
  flatten : Json → Fields → σ
  seed : Fields → σ

namespace Kind

variable {σ : Type}

def decodeState (k : Kind σ) : Json → Except Decode.Error σ :=
  Decode.record k.stateName k.fields k.initial

def encodeState (k : Kind σ) (state : σ) : Json :=
  .obj (Keyed.ofList (Decode.entries k.fields state))

end Kind

def projectOf (declared : Option String) (c : Context) : Except Failure String :=
  match declared <|> c.project with
  | some project => .ok project
  | none => .error (.invalid "project" (.undeclared "project"))

def linkOf (field collection : String) (scope : Scope) (project location : Option String)
    (value : String) : Except Failure Json :=
  (Reference.resolve field value collection scope project location).map (.str ·.relativeLink)

end Reconcile
