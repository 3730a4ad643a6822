import Reconcile.Duration
import Reconcile.Json.Decode
import Reconcile.Text.Quoted
import Reconcile.Url.Host

namespace Reconcile

inductive Flaw where
  | required
  | neededBy (template : String)
  | undeclared (what : String)
  | badName (name : String)
  | notOneOf (value : String) (allowed : List String)
  | priorityRange (n : Int)
  | noNextHop
  | manyNextHops (fields : List String)
  | badUrl (value : String) (error : Url.Error)
  | unplaced (value : String) (what : String)
  | foreignId (id kind template : String)
  | noId (kind : String)
  | badPattern (pattern : String)
  | other (message : String)
  deriving DecidableEq, Repr

def Flaw.message : Flaw → String
  | .required => "required"
  | .neededBy template => "required to build " ++ Text.quoted template ++ " but not set"
  | .undeclared what => "not declared and no default " ++ what ++ " is configured"
  | .badName name =>
      Text.quoted name ++
        " must be 1-63 lowercase letters, digits or hyphens, starting with a letter"
  | .notOneOf value allowed =>
      Text.quoted value ++ " must be one of " ++ Text.quotedList allowed
  | .priorityRange n => toString n ++ " is outside 0-65535"
  | .noNextHop =>
      "one of next_hop_ip, next_hop_instance, next_hop_gateway or next_hop_network is required"
  | .manyNextHops fields => "only one next hop may be set, got " ++ ", ".intercalate fields
  | .badUrl value error => Text.quoted value ++ " is not a valid URL: " ++ error.message
  | .unplaced value what =>
      Text.quoted value ++ " needs a " ++ what ++ ", but none is declared or configured"
  | .foreignId id kind template =>
      Text.quoted id ++ " doesn't match the " ++ kind ++ " id format " ++ Text.quoted template
  | .noId kind => kind ++ " has no id"
  | .badPattern pattern => Text.quoted pattern ++ ": regex parse error"
  | .other message => message

inductive Trouble where
  | reported (message : String)
  | notAnOperation (error : Decode.Error)
  | unnamedOperation
  | vanishedOperation (name : String)
  | unbuildable (url : Option String)
  | unsent (url : String)
  | unreadBody
  | notJson
  | noToken
  | exhausted
  deriving DecidableEq, Repr

def Trouble.message : Trouble → String
  | .reported message => message
  | .notAnOperation error => "unexpected operation response: " ++ error.message
  | .unnamedOperation => "operation has no name and cannot be polled"
  | .vanishedOperation name => "operation " ++ name ++ " disappeared while polling"
  | .unbuildable none => "failed to send request: builder error"
  | .unbuildable (some url) => "failed to send request: builder error for url (" ++ url ++ ")"
  | .unsent url => "failed to send request: error sending request for url (" ++ url ++ ")"
  | .unreadBody => "failed to read response body: error decoding response body"
  | .notJson => "failed to parse response JSON: syntax error"
  | .noToken => "Failed to get access token: no token"
  | .exhausted => "script exhausted"

structure Fault where
  code : String
  message : String
  location : Option String
  deriving DecidableEq, Repr

namespace Fault

def text (f : Fault) : String := f.code ++ ": " ++ f.message

def summary : List Fault → String
  | [] => "operation failed without error details"
  | faults => "operation failed: " ++ "; ".intercalate (faults.map text)

def fields : List (Field Fault) := [
  .text "code" (·.code) fun v f => { f with code := v },
  .text "message" (·.message) fun v f => { f with message := v },
  .optionalText "location" (·.location) fun v f => { f with location := v }]

def decode : Json → Except Decode.Error Fault :=
  Decode.record "OperationErrorEntry" fields ⟨"", "", none⟩

def encode (f : Fault) : Json := .obj (Keyed.ofList (Decode.entries fields f))

def listField : Field (List Fault) where
  name := "errors"
  shape := .other
  read j _ := Decode.list decode j
  write faults := some (.arr (faults.map encode))

def decodeList : Json → Except Decode.Error (List Fault) :=
  Decode.record "OperationError" [listField] []

end Fault

inductive Failure where
  | invalid (field : String) (flaw : Flaw)
  | invalidReference (field value expected : String)
  | noPatternMatched (id : String) (patterns : List String)
  | transport (status : Option Nat) (trouble : Trouble)
  | notFound (url : String)
  | operation (faults : List Fault)
  | timeout (description : String) (elapsed : Duration)
  deriving DecidableEq, Repr

namespace Failure

inductive Kind where
  | validation
  | transport
  | notFound
  | operation
  | timeout
  deriving DecidableEq, Repr

def kind : Failure → Kind
  | .invalid .. => .validation
  | .invalidReference .. => .validation
  | .noPatternMatched .. => .validation
  | .transport .. => .transport
  | .notFound _ => .notFound
  | .operation _ => .operation
  | .timeout .. => .timeout

def isNotFound (f : Failure) : Bool := f.kind == .notFound

theorem isNotFound_iff {f : Failure} : f.isNotFound = true ↔ ∃ url, f = .notFound url := by
  cases f <;> simp [isNotFound, kind]

theorem kind_eq_transport_iff {f : Failure} :
    f.kind = .transport ↔ ∃ status trouble, f = .transport status trouble := by
  cases f <;> simp [kind]

def isRetryable : Failure → Bool
  | .timeout .. => true
  | .transport none _ => true
  | .transport (some status) _ => status == 429 || 500 ≤ status
  | _ => false

def message : Failure → String
  | .invalid field flaw => "invalid value for " ++ field ++ ": " ++ flaw.message
  | .invalidReference field value expected =>
      "invalid value for " ++ field ++ ": got " ++ Text.quoted value ++ ", expected one of " ++
        expected
  | .noPatternMatched id patterns =>
      "import id " ++ Text.quoted id ++ " doesn't match any of the accepted formats: " ++
        ", ".intercalate patterns
  | .transport none trouble => "API request failed: " ++ trouble.message
  | .transport (some status) trouble =>
      "API request failed (" ++ toString status ++ "): " ++ trouble.message
  | .notFound url => "resource not found: " ++ url
  | .operation faults => Fault.summary faults
  | .timeout description elapsed =>
      "timed out after " ++ Duration.text elapsed ++ " waiting for " ++ description ++
        "; remote state is unknown"

def hint (f : Failure) : String :=
  match f.kind with
  | .timeout => " (the object may or may not exist; run \x60read\x60 before retrying)"
  | .operation => " (nothing was recorded)"
  | _ => if f.isRetryable then " (temporary failure; safe to retry)" else ""

def explain (f : Failure) : String := f.message ++ f.hint

end Failure

end Reconcile
