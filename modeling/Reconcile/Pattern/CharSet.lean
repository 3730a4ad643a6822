import Reconcile.Text.Class

namespace Reconcile

inductive CharSet where
  | empty
  | range (first last : Char)
  | digit
  | space
  | word
  | alphabetic
  | numeric
  | union (a b : CharSet)
  | inter (a b : CharSet)
  | minus (a b : CharSet)
  | compl (a : CharSet)
  | folded (a : CharSet)
  deriving DecidableEq, Repr

namespace CharSet

def capitals (c : Char) : List Char :=
  let ascii := if 'a' ≤ c && c ≤ 'z' then [c.toUpper] else []
  let runs := Text.caseRuns.toList.filterMap fun r =>
    let n := (c.toNat : Int) - r.shift
    if 0 ≤ n && r.mem n.toNat then some (Char.ofNat n.toNat) else none
  ascii ++ runs

def variants (c : Char) : List Char :=
  let low := Text.toLower c
  let long := if low = 's' then ['\u017F'] else if low = '\u017F' then ['s', 'S'] else []
  c :: low :: capitals low ++ long

def mem (c : Char) : CharSet → Bool
  | .empty => false
  | .range first last => first ≤ c && c ≤ last
  | .digit => Text.isDecimalDigit c
  | .space => Text.isBlank c
  | .word => Text.isWordChar c
  | .alphabetic => Text.isAlphabetic c
  | .numeric => Text.isNumeric c
  | .union a b => mem c a || mem c b
  | .inter a b => mem c a && mem c b
  | .minus a b => mem c a && !mem c b
  | .compl a => !mem c a
  | .folded a => (variants c).any fun v => mem v a

def size : CharSet → Nat
  | .empty => 1
  | .range _ last => if Text.isAscii last then 1 else 4
  | .digit => 130
  | .space => 20
  | .word => 1500
  | .alphabetic => 1300
  | .numeric => 260
  | .union a b => a.size + b.size
  | .inter a b => a.size + b.size
  | .minus a b => a.size + b.size
  | .compl a => a.size + 8
  | .folded a => a.size + 1

def single (c : Char) : CharSet := .range c c

theorem mem_single {c d : Char} : mem c (single d) = true ↔ c = d := by
  simp only [single, mem, Bool.and_eq_true, decide_eq_true_eq]
  constructor
  · intro ⟨h1, h2⟩
    exact Char.le_antisymm h2 h1
  · rintro rfl
    exact ⟨Char.le_refl _, Char.le_refl _⟩

end CharSet

end Reconcile
