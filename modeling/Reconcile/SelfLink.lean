import Reconcile.Text.Search

namespace Reconcile.SelfLink

def isSlash (c : Char) : Bool := c == '/'

def nameChars (link : List Char) : List Char :=
  ((link.reverse.dropWhile isSlash).takeWhile (!isSlash ·)).reverse

theorem not_mem_nameChars (link : List Char) : '/' ∉ nameChars link := by
  intro h
  rw [nameChars, List.mem_reverse] at h
  have hall := List.all_takeWhile (p := (!isSlash ·)) (l := link.reverse.dropWhile isSlash)
  have := List.all_eq_true.1 hall _ h
  simp [isSlash] at this

theorem takeWhile_eq_self {p : Char → Bool} {s : List Char} (h : ∀ c ∈ s, p c = true) :
    s.takeWhile p = s := by
  induction s with
  | nil => rfl
  | cons c cs ih =>
      have hc := h c (by simp)
      simp [List.takeWhile, hc, ih fun d hd => h d (by simp [hd])]

theorem nameChars_of_not_mem {link : List Char} (h : '/' ∉ link) : nameChars link = link := by
  have hr : ∀ c ∈ link.reverse, isSlash c = false := by
    intro c hc
    have : c ≠ '/' := fun e => h (by rw [← e]; exact List.mem_reverse.1 hc)
    simp [isSlash, this]
  have hd : link.reverse.dropWhile isSlash = link.reverse := by
    cases he : link.reverse with
    | nil => rfl
    | cons c cs =>
        have := hr c (by simp [he])
        simp [List.dropWhile, this]
  have ht : link.reverse.takeWhile (!isSlash ·) = link.reverse := by
    exact takeWhile_eq_self fun c hc => by simp [hr c hc]
  rw [nameChars, hd, ht, List.reverse_reverse]

def name (link : String) : String := String.ofList (nameChars link.toList)

def service : List Char := "/compute/".toList

def projects : List Char := "/projects/".toList

/-- Text without a slash between the first `/compute/` and the `/projects/` after it is a version;
it becomes `v1`. -/
def firstVersionChars (link : List Char) : List Char :=
  match Text.cut? service link with
  | none => link
  | some (before, rest) =>
      match Text.cut? projects rest with
      | none => link
      | some (version, path) =>
          if version.contains '/' then link
          else before ++ service ++ ['v', '1'] ++ projects ++ path

def firstVersion (link : String) : String := String.ofList (firstVersionChars link.toList)

end Reconcile.SelfLink
