import Reconcile.Failure
import Reconcile.SelfLink

namespace Reconcile

inductive Status where
  | pending
  | running
  | done
  | unknown
  deriving DecidableEq, Repr

namespace Status

def ofText : String → Status
  | "PENDING" => .pending
  | "RUNNING" => .running
  | "DONE" => .done
  | _ => .unknown

def text : Status → String
  | .pending => "Pending"
  | .running => "Running"
  | .done => "Done"
  | .unknown => "Unknown"

def decode : Json → Except Decode.Error Status
  | .str s => .ok (ofText s)
  | .obj [(key, value)] =>
      match value with
      | .null => .ok (ofText key)
      | v => Decode.wrong v .unit
  | .obj _ => .error .manyKeys
  | j => Decode.wrong j .stringOrMap

end Status

inductive Phase where
  | submitted
  | polling
  | succeeded
  | failed
  deriving DecidableEq, Repr

def Phase.text : Phase → String
  | .submitted => "Submitted"
  | .polling => "Polling"
  | .succeeded => "Succeeded"
  | .failed => "Failed"

structure Operation where
  name : String
  status : Status
  operationType : Option String
  targetLink : Option String
  selfLink : Option String
  zone : Option String
  region : Option String
  error : Option (List Fault)
  deriving DecidableEq, Repr

namespace Operation

def blank : Operation := ⟨"", .pending, none, none, none, none, none, none⟩

def statusField : Field Operation where
  name := "status"
  shape := .other
  read j op := (Status.decode j).map fun v => { op with status := v }
  write _ := none

def errorField : Field Operation where
  name := "error"
  shape := .other
  read j op := (Decode.optional Fault.decodeList j).map fun v => { op with error := v }
  write _ := none

def fields : List (Field Operation) := [
  .text "name" (·.name) fun v op => { op with name := v },
  statusField,
  .optionalText "operationType" (·.operationType) fun v op => { op with operationType := v },
  .optionalText "targetLink" (·.targetLink) fun v op => { op with targetLink := v },
  .optionalText "selfLink" (·.selfLink) fun v op => { op with selfLink := v },
  .optionalText "zone" (·.zone) fun v op => { op with zone := v },
  .optionalText "region" (·.region) fun v op => { op with region := v },
  errorField]

/-- An empty answer says that the work is already done. -/
def ofAnswer : Json → Except Failure Operation
  | .null => .ok { blank with status := .done }
  | answer =>
      match Decode.record "Operation" fields blank answer with
      | .ok op => .ok op
      | .error e => .error (.transport none (.notAnOperation e))

def phase (op : Operation) : Phase :=
  match op.status, op.error with
  | .done, some _ => .failed
  | .done, none => .succeeded
  | _, _ => .polling

theorem phase_eq_succeeded_iff {op : Operation} :
    op.phase = .succeeded ↔ op.status = .done ∧ op.error = none := by
  obtain ⟨_, status, _, _, _, _, _, error⟩ := op
  cases status <;> cases error <;> simp [phase]

theorem phase_eq_failed_iff {op : Operation} :
    op.phase = .failed ↔ op.status = .done ∧ op.error.isSome := by
  obtain ⟨_, status, _, _, _, _, _, error⟩ := op
  cases status <;> cases error <;> simp [phase]

theorem phase_ne_submitted (op : Operation) : op.phase ≠ .submitted := by
  obtain ⟨_, status, _, _, _, _, _, error⟩ := op
  cases status <;> cases error <;> simp [phase]

def place (op : Operation) : String :=
  match op.zone, op.region with
  | some zone, _ => "zones/" ++ SelfLink.name zone
  | none, some region => "regions/" ++ SelfLink.name region
  | none, none => "global"

def path? (op : Operation) (project : String) : Option String :=
  if op.name.isEmpty then none
  else some ("projects/" ++ project ++ "/" ++ op.place ++ "/operations/" ++ op.name)

theorem path?_eq_some_iff {op : Operation} {project path : String} :
    op.path? project = some path ↔ op.name ≠ "" ∧
      path = "projects/" ++ project ++ "/" ++ op.place ++ "/operations/" ++ op.name := by
  unfold path?
  split
  · next h => simp [String.isEmpty_iff.1 h]
  · next h =>
    rw [String.isEmpty_iff] at h
    simp [h, eq_comm]

end Operation

end Reconcile
