import Reconcile.ImportId
import Reconcile.Operation.Waiter
import Reconcile.Record

namespace Reconcile

/-- How a call ends. A deadline that the clock cannot show ends it without a result. -/
inductive Ending (α : Type) where
  | returned (result : Except Failure α)
  | overflowed

structure Outcome (σ α : Type) where
  ending : Ending α
  record : Record σ
  session : Session

inductive Presence where
  | present
  | absent
  deriving DecidableEq, Repr

namespace Presence

def text : Presence → String
  | .present => "Present"
  | .absent => "Absent"

end Presence

namespace Lifecycle

variable {σ : Type}

structure Plan where
  identity : Fields
  payload : Payload
  id : String
  path : String

def plan (k : Kind σ) (c : Context) (state : σ) : Except Failure Plan := do
  let identity ← k.identity state c
  let payload ← k.expand state c
  let id ← k.id.render identity
  let path ← k.collectionPath.render identity
  pure { identity, payload, id, path }

def withRequestId (url : String) (uuid : Uuid) : String := url ++ "?requestId=" ++ uuid.text

def waiter (k : Kind σ) (c : Context) (identity : Fields) (verb : String) (timeout : Duration) :
    Waiter where
  context := c
  project := (Keyed.get? "project" identity).getD ""
  description := verb ++ " " ++ k.name
  timeout := c.timeoutOr timeout
  minInterval := c.pollIntervalOr k.minPollInterval

def finish (w : Waiter) (answer : Json) (s : Session) : Ending Unit × Session :=
  match Operation.ofAnswer answer with
  | .error e => (.returned (.error e), s)
  | .ok op =>
      match w.wait? op s with
      | none => (.overflowed, s)
      | some (result, s) => (.returned (result.map fun _ => ()), s)

def identityOf (k : Kind σ) (r : Record σ) : Except Failure (String × Fields) :=
  match r.id with
  | none => .error (.invalid "id" (.noId k.name))
  | some id =>
      match k.id.parse id with
      | none => .error (.invalid "id" (.foreignId id k.name k.id.text))
      | some identity => .ok (id, identity)

def read (k : Kind σ) (c : Context) (r : Record σ) (s : Session) : Outcome σ Presence :=
  match identityOf k r with
  | .error e => ⟨.returned (.error e), r, s⟩
  | .ok (id, identity) =>
      match k.selfPath.render identity with
      | .error e => ⟨.returned (.error e), r, s⟩
      | .ok path =>
          match s.send ⟨.get, c.url path, none⟩ with
          | (.ok remote, s) =>
              ⟨.returned (.ok .present), { r with state := k.flatten remote identity }, s⟩
          | (.error e, s) =>
              if e.isNotFound then
                ⟨.returned (.ok .absent), { r with id := none },
                  s.note .warn ("Removing " ++ k.name ++ " " ++ Text.quoted id ++
                    " because it's gone")⟩
              else ⟨.returned (.error e), r, s⟩

def hydrate (k : Kind σ) (c : Context) (id : String) (r : Record σ) (s : Session) :
    Outcome σ String :=
  let o := read k c { r with id := some id }
    (s.note .info ("Finished creating " ++ k.name ++ " " ++ Text.quoted id))
  match o.ending with
  | .overflowed => ⟨.overflowed, o.record, o.session⟩
  | .returned (.error e) => ⟨.returned (.error e), o.record, o.session⟩
  | .returned (.ok .present) => ⟨.returned (.ok id), o.record, o.session⟩
  | .returned (.ok .absent) =>
      ⟨.returned (.ok id), o.record,
        o.session.note .warn (k.name ++ " " ++ Text.quoted id ++
          " vanished right after creation")⟩

def create (k : Kind σ) (c : Context) (r : Record σ) (s : Session) : Outcome σ String :=
  match plan k c r.state with
  | .error e => ⟨.returned (.error e), r, s⟩
  | .ok p =>
      let (uuid, s) := s.draw
      let url := withRequestId (c.url p.path) uuid
      match s.send ⟨.post, url, some p.payload.json⟩ with
      | (.error e, s) =>
          ⟨.returned (.error e), r,
            s.note .error ("Error creating " ++ k.name ++ " " ++ Text.quoted p.id ++ ": " ++
              e.message)⟩
      | (.ok answer, s) =>
          match finish (waiter k c p.identity "Creating" k.createTimeout) answer s with
          | (.overflowed, s) => ⟨.overflowed, { r with id := some p.id }, s⟩
          | (.returned (.error e), s) => ⟨.returned (.error e), { r with id := none }, s⟩
          | (.returned (.ok ()), s) => hydrate k c p.id r s

def delete (k : Kind σ) (c : Context) (r : Record σ) (s : Session) : Outcome σ Unit :=
  match identityOf k r with
  | .error e => ⟨.returned (.error e), r, s⟩
  | .ok (id, identity) =>
      match k.selfPath.render identity with
      | .error e => ⟨.returned (.error e), r, s⟩
      | .ok path =>
          let (uuid, s) := s.draw
          match s.send ⟨.delete, withRequestId (c.url path) uuid, none⟩ with
          | (.error e, s) =>
              if e.isNotFound then
                ⟨.returned (.ok ()), { r with id := none },
                  s.note .info (k.name ++ " " ++ Text.quoted id ++ " was already deleted")⟩
              else ⟨.returned (.error e), r, s⟩
          | (.ok answer, s) =>
              match finish (waiter k c identity "Deleting" k.deleteTimeout) answer s with
              | (.overflowed, s) => ⟨.overflowed, r, s⟩
              | (.returned (.error e), s) => ⟨.returned (.error e), r, s⟩
              | (.returned (.ok ()), s) =>
                  ⟨.returned (.ok ()), { r with id := none },
                    s.note .info ("Finished deleting " ++ k.name ++ " " ++ Text.quoted id)⟩

def adopt (k : Kind σ) (c : Context) (importId : String) (s : Session) :
    Except Failure (Record σ) × Session :=
  match ImportId.resolve importId k.importPatterns c.defaultFields s with
  | (.error e, s) => (.error e, s)
  | (.ok identity, s) =>
      match k.id.render identity with
      | .error e => (.error e, s)
      | .ok id =>
          (.ok ⟨some id, k.seed identity⟩,
            s.note .info ("Importing " ++ k.name ++ " " ++ Text.quoted importId ++ " as " ++
              Text.quoted id))

end Lifecycle

end Reconcile
