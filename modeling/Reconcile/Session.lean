import Reconcile.Context

namespace Reconcile

inductive Method where
  | get
  | post
  | delete
  | other (name : String)
  deriving DecidableEq, Repr

def Method.text : Method → String
  | .get => "GET"
  | .post => "POST"
  | .delete => "DELETE"
  | .other name => name

structure Request where
  method : Method
  url : String
  body : Option Json
  deriving Repr

structure Reply where
  delay : Duration
  answer : Request → Except Failure Json

inductive Level where
  | error
  | warn
  | info
  | debug
  | trace
  deriving DecidableEq, Repr

namespace Level

def rank : Level → Nat
  | .error => 0
  | .warn => 1
  | .info => 2
  | .debug => 3
  | .trace => 4

def text : Level → String
  | .error => "ERROR"
  | .warn => "WARN"
  | .info => "INFO"
  | .debug => "DEBUG"
  | .trace => "TRACE"

end Level

structure LogLine where
  level : Level
  text : String
  deriving DecidableEq, Repr

def LogLine.upTo (level : Level) (lines : List LogLine) : List LogLine :=
  lines.filter (·.level.rank ≤ level.rank)

def LogLine.shown (l : LogLine) : String := l.level.text ++ " " ++ l.text

structure Sent where
  request : Request
  moment : Duration
  deriving Repr

structure Uuid where
  bits : Nat
  deriving DecidableEq, Repr

namespace Uuid

def hexDigits (bits shift count : Nat) : List Char :=
  (List.range count).map fun i => Nat.digitChar (bits >>> (shift + 4 * (count - 1 - i)) % 16)

def text (u : Uuid) : String :=
  let variant := 8 + (u.bits >>> 60) % 4
  String.ofList (Text.join ['-'] [
    hexDigits u.bits 96 8,
    hexDigits u.bits 80 4,
    '4' :: hexDigits u.bits 64 3,
    Nat.digitChar variant :: hexDigits u.bits 48 3,
    hexDigits u.bits 0 12])

end Uuid

structure Session where
  now : Duration
  replies : List Reply
  sent : List Sent
  log : List LogLine
  uuids : Nat → Uuid
  drawn : Nat

namespace Session

def start (replies : List Reply) (uuids : Nat → Uuid) : Session := ⟨0, replies, [], [], uuids, 0⟩

def note (s : Session) (level : Level) (text : String) : Session :=
  { s with log := s.log ++ [⟨level, text⟩] }

def pass (s : Session) (d : Duration) : Session := { s with now := s.now + d }

def record (s : Session) (r : Request) : Session := { s with sent := s.sent ++ [⟨r, s.now⟩] }

def draw (s : Session) : Uuid × Session := (s.uuids s.drawn, { s with drawn := s.drawn + 1 })

def exhausted : Failure := .transport none .exhausted

/-- Sends a request and waits for its answer. Without a reply left every request fails. -/
def send (s : Session) (r : Request) : Except Failure Json × Session :=
  let s := s.record r
  match s.replies with
  | [] => (.error exhausted, s)
  | reply :: rest => (reply.answer r, { s.pass reply.delay with replies := rest })

end Session

namespace Reply

def ok (delay : Duration) (body : Json) : Reply := ⟨delay, fun _ => .ok body⟩

def failed (delay : Duration) (status : Option Nat) (message : String) : Reply :=
  ⟨delay, fun _ => .error (.transport status (.reported message))⟩

def missing (delay : Duration) : Reply := ⟨delay, fun r => .error (.notFound r.url)⟩

def limit : Nat := 500

def script (replies : List Reply) (last : Option Reply) : List Reply :=
  let more := match last with
    | some r => List.replicate (limit - replies.length) r
    | none => []
  (replies ++ more).take limit

end Reply

end Reconcile
