import Reconcile.Text.Search

namespace Reconcile

def regionOfZone? (zone : String) : Option String :=
  match Text.cutLast? '-' zone.toList with
  | none => none
  | some (region, suffix) =>
      if region.isEmpty || suffix.isEmpty || !region.contains '-' then none
      else some (String.ofList region)

def isLowerOrDigit (c : Char) : Bool := ('a' ≤ c && c ≤ 'z') || c.isDigit

def isProjectId (project : String) : Bool :=
  6 ≤ project.utf8ByteSize && project.utf8ByteSize ≤ 30 &&
    (match project.toList with
      | c :: _ => 'a' ≤ c && c ≤ 'z'
      | [] => false) &&
    project.toList.getLast? != some '-' &&
    project.toList.all fun c => isLowerOrDigit c || c == '-'

end Reconcile
