import Reconcile.Ambient.Basic
import Reconcile.Yaml.Desired

namespace Reconcile.Desired

inductive Fault where
  | unread
  | malformed
  deriving DecidableEq, Repr

def Fault.message (path : String) : Fault → String
  | .unread => "Failed to read " ++ Text.quoted path
  | .malformed => "Failed to parse desired state in " ++ Text.quoted path

def Fault.cause : Fault → String
  | .unread => "the file cannot be read as text"
  | .malformed => "the text is not a desired state"

def load {σ : Type} (k : Kind σ) (a : Ambient) (path : String) : Except Fault σ :=
  match (a.read path).text? with
  | none => .error .unread
  | some content =>
      match k.ofYaml? content with
      | none => .error .malformed
      | some state => .ok state

end Reconcile.Desired
