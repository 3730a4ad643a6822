import Reconcile.Session

namespace Reconcile

inductive Family where
  | address
  | route
  deriving DecidableEq, Repr

def Family.ofText? : String → Option Family
  | "address" => some .address
  | "route" => some .route
  | _ => none

inductive Verb where
  | create
  | read
  | delete
  | adopt
  deriving DecidableEq, Repr

def Verb.ofText? : String → Option Verb
  | "create" => some .create
  | "read" => some .read
  | "delete" => some .delete
  | "import" => some .adopt
  | _ => none

/-- How much is logged; `some none` is nothing. -/
def logLevelOf? : String → Option (Option Level)
  | "off" => some none
  | "error" => some (some .error)
  | "warn" => some (some .warn)
  | "info" => some (some .info)
  | "debug" => some (some .debug)
  | "trace" => some (some .trace)
  | _ => none

structure Invocation where
  defaults : Defaults
  accessToken : Option String
  logLevel : Option Level
  verb : Verb
  family : Family
  target : String
  deriving DecidableEq, Repr

namespace Invocation

inductive Refusal where
  | help
  | version
  | helpForNothing
  | noVerb
  | unknownVerb
  | unknownWord
  | badValue
  | missingWord
  | repeated
  | needlessValue
  deriving DecidableEq, Repr

def Refusal.message : Refusal → String
  | .help => "help was asked for"
  | .version => "the version was asked for"
  | .helpForNothing => "nothing was asked for"
  | .noVerb => "a command is needed"
  | .unknownVerb => "unrecognized command"
  | .unknownWord => "unexpected argument"
  | .badValue => "invalid value"
  | .missingWord => "a required argument is missing"
  | .repeated => "an argument is used more than once"
  | .needlessValue => "a flag takes no value"

def usage : String :=
  "Usage: gcpsync [OPTIONS] <COMMAND>\n\nFor more information, try '--help'.\n"

def help : String :=
  "Reconcile Compute Engine addresses and routes\n\n" ++
  "Usage: gcpsync [OPTIONS] <COMMAND>\n\n" ++
  "Commands:\n" ++
  "  create  Create the object declared in a YAML or JSON file\n" ++
  "  read    Show the current state of an object by id\n" ++
  "  delete  Delete an object by id\n" ++
  "  import  Bring an existing object under management and show its state\n" ++
  "  help    Print this message or the help of the given subcommand(s)\n\n" ++
  "Options:\n" ++
  "  -p, --project <PROJECT>            Default GCP project\n" ++
  "  -r, --region <REGION>              Default GCP region\n" ++
  "  -z, --zone <ZONE>                  Default GCP zone\n" ++
  "      --access-token <ACCESS_TOKEN>  OAuth access token to use instead of Application " ++
  "Default Credentials (also read from GOOGLE_OAUTH_ACCESS_TOKEN)\n" ++
  "      --log-level <LOG_LEVEL>        Log level for debugging [default: off] " ++
  "[possible values: off, error, warn, info, debug, trace]\n" ++
  "  -h, --help                         Print help\n" ++
  "  -V, --version                      Print version\n"

inductive Slot where
  | project
  | region
  | zone
  | accessToken
  | logLevel
  | file
  | family
  | target
  deriving DecidableEq, Repr

def Slot.accepts : Slot → String → Bool
  | .logLevel, value => (logLevelOf? value).isSome
  | .family, value => (Family.ofText? value).isSome
  | .file, value => !value.isEmpty
  | _, _ => true

inductive Meaning where
  | value (slot : Slot)
  | flag (answer : Refusal)
  deriving DecidableEq, Repr

inductive Stage where
  | outer
  | inner (verb : Verb)
  deriving DecidableEq, Repr

namespace Stage

def long? (stage : Stage) (name : String) : Option Meaning :=
  match stage, name with
  | _, "project" => some (.value .project)
  | _, "region" => some (.value .region)
  | _, "zone" => some (.value .zone)
  | _, "access-token" => some (.value .accessToken)
  | _, "log-level" => some (.value .logLevel)
  | _, "help" => some (.flag .help)
  | .outer, "version" => some (.flag .version)
  | .inner .create, "file" => some (.value .file)
  | _, _ => none

def short? (stage : Stage) (letter : Char) : Option Meaning :=
  match stage, letter with
  | _, 'p' => some (.value .project)
  | _, 'r' => some (.value .region)
  | _, 'z' => some (.value .zone)
  | _, 'h' => some (.flag .help)
  | .outer, 'V' => some (.flag .version)
  | .inner .create, 'f' => some (.value .file)
  | _, _ => none

def positionals : Stage → List Slot
  | .outer => []
  | .inner .create => [.family]
  | .inner _ => [.family, .target]

def required : Stage → List Slot
  | .outer => []
  | .inner .create => [.family, .file]
  | .inner _ => [.family, .target]

end Stage

def isVerb (word : String) : Bool := word == "help" || (Verb.ofText? word).isSome

inductive Word where
  | escape
  | long (name : String) (value : Option String)
  | short (letter : Char) (value : Option String)
  | plain
  deriving DecidableEq, Repr

def attached : List Char → Option String
  | [] => none
  | '=' :: value => some (String.ofList value)
  | value => some (String.ofList value)

def Word.ofText (word : String) : Word :=
  match word.toList with
  | ['-', '-'] => .escape
  | '-' :: '-' :: rest =>
      match Text.cut? ['='] rest with
      | some (name, value) => .long (String.ofList name) (some (String.ofList value))
      | none => .long (String.ofList rest) none
  | '-' :: letter :: rest => .short letter (attached rest)
  | _ => .plain

structure Progress where
  values : List (Slot × String)
  pending : Option (Slot × Option String)
  positionals : List Slot
  escaped : Bool
  deriving Repr

namespace Progress

def start (stage : Stage) : Progress := ⟨[], none, stage.positionals, false⟩

def value? (p : Progress) (slot : Slot) : Option String := p.values.lookup slot

def settle (p : Progress) : Except Refusal Progress :=
  match p.pending with
  | none => .ok p
  | some (_, none) => .error .badValue
  | some (slot, some value) =>
      if (p.value? slot).isSome then .error .repeated
      else if slot.accepts value then
        .ok { p with values := (slot, value) :: p.values, pending := none }
      else .error .badValue

def awaits (p : Progress) : Bool := !p.escaped && p.pending.any (·.2.isNone)

def take (p : Progress) (meaning : Meaning) (value : Option String) :
    Except Refusal Progress := do
  match meaning, value with
  | .flag _, some _ => throw .needlessValue
  | .flag answer, none => do
      let _ ← p.settle
      throw answer
  | .value slot, some value => do
      let p ← p.settle
      { p with pending := some (slot, some value) }.settle
  | .value slot, none => do
      let p ← p.settle
      pure { p with pending := some (slot, none) }

def place (p : Progress) (stage : Stage) (word : String) : Except Refusal Progress := do
  match p.awaits, p.pending, p.positionals with
  | true, some (slot, _), _ => pure { p with pending := some (slot, some word) }
  | _, _, slot :: rest => do
      let p ← p.settle
      pure { p with pending := some (slot, some word), positionals := rest }
  | _, _, [] =>
      match stage with
      | .inner _ => throw .unknownWord
      | .outer => throw (if p.escaped && isVerb word then .unknownWord else .unknownVerb)

def step (p : Progress) (stage : Stage) (word : String) : Except Refusal Progress :=
  if p.escaped then p.place stage word
  else
    match Word.ofText word with
    | .escape => .ok { p with escaped := true }
    | .long name value =>
        match stage.long? name with
        | none => .error .unknownWord
        | some option => p.take option value
    | .short letter value =>
        match stage.short? letter with
        | none => .error .unknownWord
        | some (.flag answer) => p.take (.flag answer) none
        | some option => p.take option value
    | .plain => p.place stage word

end Progress

def inner (verb : Verb) (p : Progress) : List String → Except Refusal Progress
  | word :: rest => do
      let p ← p.step (.inner verb) word
      inner verb p rest
  | [] => do
      let p ← p.settle
      if (Stage.inner verb).required.all fun slot => (p.value? slot).isSome then pure p
      else throw .missingWord

def helpFor : List String → Refusal
  | [] => .help
  | [word] => if isVerb word then .help else .unknownVerb
  | _ => .unknownVerb

def build (verb : Verb) (outer inner : Progress) : Option Invocation := do
  let value? (slot : Slot) : Option String := inner.value? slot <|> outer.value? slot
  let family ← (value? .family).bind Family.ofText?
  let target ← value? (if verb = .create then .file else .target)
  pure {
    defaults := ⟨value? .project, value? .region, value? .zone⟩
    accessToken := value? .accessToken
    logLevel := ((value? .logLevel).bind logLevelOf?).join
    verb, family, target }

def outer (p : Progress) : List String → Except Refusal Invocation
  | [] => do
      let p ← p.settle
      throw (if p.values.isEmpty then .helpForNothing else .noVerb)
  | word :: rest =>
      if !p.escaped && !p.awaits && isVerb word then
        match Verb.ofText? word with
        | none => .error (helpFor rest)
        | some verb => do
            let q ← inner verb (.start (.inner verb)) rest
            let p ← p.settle
            match build verb p q with
            | some invocation => pure invocation
            | none => throw .missingWord
      else do
        let p ← p.step .outer word
        outer p rest

def parse (words : List String) : Except Refusal Invocation := outer (.start .outer) words

end Invocation

end Reconcile
