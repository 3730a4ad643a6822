import Reconcile.Command

namespace Reconcile.Main

def variableNames : List String :=
  ["HOME", "XDG_CONFIG_HOME", "CLOUDSDK_CONFIG", "CLOUDSDK_COMPUTE_REGION",
    "CLOUDSDK_COMPUTE_ZONE", Credentials.tokenVariable, Credentials.fileVariable] ++
    Ambient.projectVariables

def environment : IO (List (String × String)) := do
  let found ← variableNames.mapM fun name => do
    pure ((← IO.getEnv name).map (name, ·))
  pure (found.filterMap id)

def reading (path : String) : IO Reading := do
  try
    let content ← IO.FS.readBinFile path
    pure (.bytes content.toList)
  catch e =>
    match e with
    | .noFileOrDirectory .. => pure .missing
    | _ => pure .unreadable

def readings (paths : List String) : IO (String → Reading) := do
  let found ← paths.mapM fun path => do pure (path, ← reading path)
  pure fun path => (Keyed.get? path found).getD .missing

def firstPaths (a : Ambient) (words : List String) : List String :=
  let gcloud := match a.gcloudDir? with
    | some directory =>
      [Ambient.child directory "active_config", Ambient.child directory "properties"]
    | none => []
  let target := match Invocation.parse words with
    | .ok i => if i.verb = .create then [i.target] else []
    | .error _ => []
  (Settings.path? a).toList ++ gcloud ++ (a.lookup? Credentials.fileVariable).toList ++ target

def activePath? (a : Ambient) : Option String := do
  let directory ← a.gcloudDir?
  match ← a.activeConfiguration? directory with
  | .ok name => some (Ambient.configurationPath directory name)
  | .error () => none

def ambient (words : List String) : IO Ambient := do
  let known ← environment
  let paths := firstPaths ⟨known, fun _ => .missing⟩ words
  let a : Ambient := ⟨known, ← readings paths⟩
  pure ⟨known, ← readings ((activePath? a).toList ++ paths)⟩

def makeDirectory (a : Ambient) : IO Unit := do
  match Command.logDirectory? a with
  | some directory => try IO.FS.createDirAll directory catch _ => pure ()
  | none => pure ()

def opens (path : String) : IO Bool := do
  try
    let _ ← IO.FS.Handle.mk path .append
    pure true
  catch _ => pure false

def canLog (a : Ambient) (words : List String) : IO Bool := do
  match Invocation.parse words with
  | .error _ => pure false
  | .ok i =>
      match Command.logFile? a i with
      | none => pure false
      | some path => do
          makeDirectory a
          opens path

def writeLog (path : String) (log : List LogLine) : IO Unit := do
  let h ← IO.FS.Handle.mk path .append
  for line in log do h.putStrLn line.shown

def randomBits : IO Nat := do
  let bytes ← IO.getRandomBytes 16
  pure (bytes.toList.foldl (fun n b => n * 256 + b.toNat) 0)

def run (words : List String) : IO UInt32 := do
  let a ← ambient words
  let appends ← canLog a words
  let bits ← randomBits
  let links := List.replicate Reply.limit Http.unreachable
  let report := Command.run ⟨a, fun _ => appends, links, fun n => ⟨bits + n⟩⟩ words
  if appends then writeLog (Command.logPath a) report.log
  IO.print report.output
  IO.eprint report.errors
  pure report.exitCode

end Reconcile.Main

def main (words : List String) : IO UInt32 := Reconcile.Main.run words
