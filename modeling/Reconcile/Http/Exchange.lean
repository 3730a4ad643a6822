import Reconcile.Http.LogText
import Reconcile.Http.Status
import Reconcile.Json.Reader
import Reconcile.Session
import Reconcile.Text.Utf8
import Reconcile.Url.Basic

namespace Reconcile.Http

structure Response where
  status : Nat
  body : List UInt8
  isWhole : Bool
  deriving DecidableEq, Repr

/-- What a link brings back for a request; nothing when the connection is refused or lost. -/
abbrev Link := Request → Option Response

def unreachable : Link := fun _ => none

def isHeaderText (s : String) : Bool :=
  s.toList.all fun c => c = '\t' || (32 ≤ c.toNat && c.toNat != 127)

def isWebScheme (scheme : List Char) : Bool :=
  String.ofList scheme == "http" || String.ofList scheme == "https"

def refusal? (token url : String) : Option Trouble :=
  match Url.parse url with
  | .error _ => some (.unbuildable none)
  | .ok u =>
      if u.host.isNone then some (.unbuildable (some u.text))
      else if !isHeaderText token then some (.unbuildable none)
      else if !isWebScheme u.scheme then some (.unbuildable (some u.text))
      else none

def shownUrl (url : String) : String :=
  match Url.parse url with
  | .ok u => u.text
  | .error _ => url

def reported? (body : List Char) : Option String := do
  let j ← Json.tree? body
  let error ← j.value.get? "error"
  let message ← error.get? "message"
  message.asStr?

def apiMessage (status : Nat) (body : List Char) : String :=
  (reported? body).getD ((reason? status).getD "unknown error")

def outcome (url : String) (r : Response) : Except Failure Json :=
  let body := Text.Utf8.decodeLossy r.body
  if !r.isWhole then .error (.transport (some r.status) .unreadBody)
  else if r.status = 404 then .error (.notFound url)
  else if !isSuccess r.status then
    .error (.transport (some r.status) (.reported (apiMessage r.status body)))
  else if body.isEmpty then .ok .null
  else
    match Json.tree? body with
    | some t => .ok t.value
    | none => .error (.transport (some r.status) .notJson)

def outcomeLog (url : String) (r : Response) : List LogLine :=
  if !r.isWhole then []
  else if r.status = 404 then [⟨.debug, url ++ " returned 404"⟩]
  else if !isSuccess r.status then
    [⟨.error, "API error: " ++ statusText r.status ++ " - " ++
      logText (Text.Utf8.decodeLossy r.body)⟩]
  else []

def exchange (link : Link) (token : String) (r : Request) :
    Except Failure Json × List LogLine :=
  let sending : LogLine := ⟨.debug, r.method.text ++ " " ++ r.url⟩
  match refusal? token r.url with
  | some trouble => (.error (.transport none trouble), [sending])
  | none =>
      match link r with
      | none => (.error (.transport none (.unsent (shownUrl r.url))), [sending])
      | some response => (outcome r.url response, sending :: outcomeLog r.url response)

end Reconcile.Http
