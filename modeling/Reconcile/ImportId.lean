import Reconcile.Session
import Reconcile.Pattern.Syntax

namespace Reconcile.ImportId

structure Form where
  raw : String
  compiled : Pattern.Compiled
  deriving Repr

def anchored (raw : String) : String := "^(?:" ++ raw ++ ")$"

def formWith (engine : Pattern.Engine) (raw : String) : Except Failure Form :=
  match engine (anchored raw) with
  | some compiled => .ok ⟨raw, compiled⟩
  | none => .error (.invalid "import pattern" (.badPattern raw))

abbrev form : String → Except Failure Form := formWith Pattern.compile?

def Form.match? (f : Form) (id : String) : Option Fields :=
  (f.compiled.pattern.search id.toList).map fun c =>
    Keyed.ofList (f.compiled.names.filterMap fun (name, index) =>
      (c.captured? id.toList index).map fun text => (name, String.ofList text))

def firstMatch? (id : String) : List Form → Option (Form × Fields)
  | [] => none
  | f :: fs =>
      match f.match? id with
      | some fields => some (f, fields)
      | none => firstMatch? id fs

def fill (defaults : Fields) (fields : Fields) : List String → Fields
  | [] => fields
  | name :: names =>
      let fields :=
        match Keyed.get? name fields, Keyed.get? name defaults with
        | none, some value => Keyed.insert name value fields
        | _, _ => fields
      fill defaults fields names

def resolveWith (engine : Pattern.Engine) (id : String) (patterns : List String)
    (defaults : Fields) (s : Session) : Except Failure Fields × Session :=
  match patterns.mapM (formWith engine) with
  | .error e => (.error e, s)
  | .ok forms =>
      match firstMatch? id forms with
      | none => (.error (.noPatternMatched id patterns), s)
      | some (f, fields) =>
          let names := forms.flatMap fun f => f.compiled.names.map (·.1)
          (.ok (fill defaults fields names),
            s.note .debug ("import id " ++ Text.quoted id ++ " matched " ++
              Text.quoted (anchored f.raw)))

abbrev resolve : String → List String → Fields → Session → Except Failure Fields × Session :=
  resolveWith Pattern.compile?

end Reconcile.ImportId
