import Reconcile.Text.Boundary

namespace Reconcile.Http

def logLimit : Nat := 200

def isShown (c : Char) : Bool := 32 ≤ c.toNat && c.toNat ≤ 126

def truncationNote (size : Nat) : List Char :=
  "... [truncated, ".toList ++ (toString size).toList ++ " bytes total]".toList

/-- A body as it is, or its beginning with a note. Nothing when there is no place to cut it, or
when the cut goes through a character. -/
def abridged? (body : List Char) : Option (List Char) :=
  let size := Text.Utf8.size body
  if logLimit < size then do
    let place ← Text.Utf8.lastBoundary? (Text.Utf8.encode body) logLimit
    let beginning ← Text.Utf8.upTo? place body
    pure (beginning ++ truncationNote size)
  else pure body

theorem isSome_abridged? (body : List Char) : (abridged? body).isSome := by
  unfold abridged?
  dsimp only
  split
  · obtain ⟨place, hfound, hboundary, -⟩ :=
      Text.Utf8.lastBoundary?_law (Text.Utf8.encode body) logLimit
    rw [← Text.Utf8.isSome_upTo?] at hboundary
    obtain ⟨beginning, hbeginning⟩ := Option.isSome_iff_exists.1 hboundary
    simp [hfound, hbeginning]
  · rfl

def logChars (body : List Char) : List Char :=
  ((abridged? body).get (isSome_abridged? body)).filter isShown

def logText (body : List Char) : String := String.ofList (logChars body)

end Reconcile.Http
