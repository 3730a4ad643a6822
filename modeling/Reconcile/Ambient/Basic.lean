import Reconcile.Json.Basic
import Reconcile.Text.Search
import Reconcile.Text.Utf8

namespace Reconcile

inductive Reading where
  | missing
  | unreadable
  | bytes (content : List UInt8)
  deriving DecidableEq, Repr

namespace Reading

def text? : Reading → Option (List Char)
  | .bytes content => Text.Utf8.decode? content
  | _ => none

end Reading

structure Ambient where
  environment : List (String × String)
  read : String → Reading

namespace Ambient

def lookup? (a : Ambient) (name : String) : Option String := Keyed.get? name a.environment

def isAbsolute (path : String) : Bool := path.toList.head? == some '/'

def child (directory name : String) : String :=
  if directory.isEmpty || directory.toList.getLast? == some '/' then directory ++ name
  else directory ++ "/" ++ name

-- Where the variable is not set, the home directory that the system's list of accounts has for the
-- user is left out of account: a run is told its home by its environment only.
def home? (a : Ambient) : Option String := (a.lookup? "HOME").filter (!·.isEmpty)

def configDir? (a : Ambient) : Option String :=
  match (a.lookup? "XDG_CONFIG_HOME").filter isAbsolute with
  | some directory => some directory
  | none => a.home?.map (child · ".config")

end Ambient

end Reconcile
