import Reconcile.Failure

namespace Reconcile

structure Payload where
  members : List (String × Json)
  deriving Repr

namespace Payload

def empty : Payload := ⟨[]⟩

def get? (p : Payload) (key : String) : Option Json := Keyed.get? key p.members

def isEmpty (p : Payload) : Bool := p.members.isEmpty

def json (p : Payload) : Json := .obj p.members

/-- Whether an expanded value is sent: a value of its own if it is declared or changed by the
expansion, an empty one only if it is declared and differs from the default. -/
def sends (declared : Bool) (plain : Json) (fallback : Option Json) (expanded : Json) : Bool :=
  if expanded.isZero then
    match fallback with
    | some d => declared && !d.same expanded
    | none => false
  else declared || !plain.same expanded

/-- Expands one declared field into the payload; the default stands in where nothing is
declared. The payload is there after a failure too. -/
def putting {α : Type} (p : Payload) (key : String) (declared fallback : Option α)
    (plain : α → Json) (expand : α → Except Failure Json) : Except Failure Unit × Payload :=
  match declared <|> fallback with
  | none => (.ok (), p)
  | some value =>
      match expand value with
      | .error e => (.error e, p)
      | .ok expanded =>
          if sends declared.isSome (plain value) (fallback.map plain) expanded then
            (.ok (), ⟨Keyed.insert key expanded p.members⟩)
          else (.ok (), p)

def put {α : Type} (p : Payload) (key : String) (declared fallback : Option α)
    (plain : α → Json) (expand : α → Except Failure Json) : Except Failure Payload :=
  match p.putting key declared fallback plain expand with
  | (.ok (), p) => .ok p
  | (.error e, _) => .error e

def putPlain {α : Type} (p : Payload) (key : String) (declared fallback : Option α)
    (plain : α → Json) : Except Failure Payload :=
  p.put key declared fallback plain fun value => .ok (plain value)

theorem put_error {α : Type} {p : Payload} {key : String} {declared fallback : Option α}
    {plain : α → Json} {expand : α → Except Failure Json} {value : α} {e : Failure}
    (hv : (declared <|> fallback) = some value) (he : expand value = .error e) :
    p.put key declared fallback plain expand = .error e := by
  simp [put, putting, hv, he]

end Payload

end Reconcile
