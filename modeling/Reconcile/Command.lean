import Reconcile.Credentials
import Reconcile.Desired
import Reconcile.Invocation
import Reconcile.Lifecycle
import Reconcile.Network.Address
import Reconcile.Network.Route
import Reconcile.Settings
import Reconcile.Yaml.Writer

namespace Reconcile

structure Machine where
  ambient : Ambient
  canAppend : String → Bool
  links : List Http.Link
  uuids : Nat → Uuid

inductive Stop where
  | closedLog (path : String)
  | unauthenticated
  | undeclared (path : String) (fault : Desired.Fault)
  | failed (failure : Failure)
  | unreadable (kind id : String)
  | nothingToImport (kind importId : String)
  | overflowed
  deriving DecidableEq, Repr

namespace Stop

def message : Stop → String
  | .closedLog path => "Failed to open log file " ++ Text.quoted path
  | .unauthenticated =>
      "Failed to initialize GCP authentication. Run 'gcloud auth application-default login'"
  | .undeclared path fault => fault.message path
  | .failed failure => failure.explain
  | .unreadable kind id => kind ++ " " ++ id ++ " was created but could not be read back"
  | .nothingToImport kind importId =>
      "Cannot import non-existent " ++ kind ++ " " ++ Text.quoted importId
  | .overflowed => "overflow when adding duration to instant"

def cause? : Stop → Option String
  | .closedLog _ => some "the file cannot be written"
  | .unauthenticated => some "no usable credentials"
  | .undeclared _ fault => some fault.cause
  | _ => none

def text (stop : Stop) : String :=
  let cause := match stop.cause? with
    | some cause => "\n\nCaused by:\n    " ++ cause
    | none => ""
  "Error: " ++ stop.message ++ cause ++ "\n"

def exitCode : Stop → UInt32
  | .overflowed => 101
  | _ => 1

end Stop

structure Report where
  exitCode : UInt32
  output : String
  errors : String
  log : List LogLine
  deriving DecidableEq, Repr

namespace Command

variable {σ : Type}

abbrev Result := Except Stop String

def ending {α : Type} (e : Ending α) (next : α → Result) : Result :=
  match e with
  | .overflowed => .error .overflowed
  | .returned (.error failure) => .error (.failed failure)
  | .returned (.ok a) => next a

def shown (k : Kind σ) (r : Record σ) : String := Yaml.textOf (r.entries k)

def create (k : Kind σ) (c : Context) (a : Ambient) (path : String) (s : Session) :
    Result × Session :=
  match Desired.load k a path with
  | .error fault => (.error (.undeclared path fault), s)
  | .ok state =>
      let o := Lifecycle.create k c (.desired state) s
      (ending o.ending fun id =>
        if o.record.isPresent then .ok (shown k o.record) else .error (.unreadable k.name id),
        o.session)

def read (k : Kind σ) (c : Context) (id : String) (s : Session) : Result × Session :=
  let o := Lifecycle.read k c ⟨some id, k.initial⟩ s
  (ending o.ending fun presence =>
    match presence with
    | .present => .ok (shown k o.record)
    | .absent => .ok (k.name ++ " " ++ id ++ " does not exist\n"),
    o.session)

def delete (k : Kind σ) (c : Context) (id : String) (s : Session) : Result × Session :=
  let o := Lifecycle.delete k c ⟨some id, k.initial⟩ s
  (ending o.ending fun () => .ok ("Deleted " ++ k.name ++ " " ++ id ++ "\n"), o.session)

def adopt (k : Kind σ) (c : Context) (importId : String) (s : Session) : Result × Session :=
  match Lifecycle.adopt k c importId s with
  | (.error failure, s) => (.error (.failed failure), s)
  | (.ok r, s) =>
      let o := Lifecycle.read k c r s
      (ending o.ending fun presence =>
        match presence with
        | .present => .ok (shown k o.record)
        | .absent => .error (.nothingToImport k.name importId),
        o.session)

def perform (k : Kind σ) (c : Context) (a : Ambient) (i : Invocation) (s : Session) :
    Result × Session :=
  match i.verb with
  | .create => create k c a i.target s
  | .read => read k c i.target s
  | .delete => delete k c i.target s
  | .adopt => adopt k c i.target s

def logName : String := "gcpsync.log"

def logDirectory? (a : Ambient) : Option String :=
  match a.configDir? with
  | some directory => some (Ambient.child directory "gcpsync")
  | none => a.home?.map (Ambient.child · ".gcpsync")

def logPath (a : Ambient) : String :=
  match logDirectory? a with
  | some directory => Ambient.child directory logName
  | none => logName

def logFile? (a : Ambient) (i : Invocation) : Option String := i.logLevel.map fun _ => logPath a

def converse (m : Machine) (i : Invocation) (settings : Settings) : Result × Session :=
  match Credentials.find? m.ambient i.accessToken with
  | none => (.error .unauthenticated, .start [] m.uuids)
  | some credentials =>
      let c := settings.context (settings.defaults m.ambient i.defaults)
      let s := Session.start (credentials.replies m.links) m.uuids
      match i.family with
      | .address => perform Address.kind c m.ambient i s
      | .route => perform Route.kind c m.ambient i s

def started (level : Level) (path : String) : List LogLine := [
  ⟨.info, "gcpsync started with log level: " ++ level.text⟩,
  ⟨.info, "Log file: " ++ Text.quoted path⟩]

def report (i : Invocation) (path : String) (settingsLog : List LogLine)
    (outcome : Result × Session) : Report :=
  let log := match i.logLevel with
    | some level => LogLine.upTo level (started level path ++ settingsLog ++ outcome.2.log)
    | none => []
  match outcome.1 with
  | .ok output => ⟨0, output, "", log⟩
  | .error stop => ⟨stop.exitCode, "", stop.text, log⟩

def carryOut (m : Machine) (i : Invocation) : Report :=
  let path := logPath m.ambient
  if i.logLevel.isSome && !m.canAppend path then
    ⟨1, "", (Stop.closedLog path).text, []⟩
  else
    let (settings, log) := Settings.load m.ambient
    report i path log (converse m i settings)

def refused (refusal : Invocation.Refusal) : Report :=
  match refusal with
  | .help => ⟨0, Invocation.help, "", []⟩
  | .version => ⟨0, "gcpsync 0.1.0\n", "", []⟩
  | .helpForNothing => ⟨2, "", Invocation.help, []⟩
  | _ => ⟨2, "", "error: " ++ refusal.message ++ "\n\n" ++ Invocation.usage, []⟩

def run (m : Machine) (words : List String) : Report :=
  match Invocation.parse words with
  | .error refusal => refused refusal
  | .ok i => carryOut m i

end Command

end Reconcile
