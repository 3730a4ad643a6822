import Reconcile.Pattern.CharSet

namespace Reconcile

inductive Anchor where
  | textStart
  | textEnd
  | lineStart (crlf : Bool)
  | lineEnd (crlf : Bool)
  | wordBoundary (s : CharSet)
  | notWordBoundary (s : CharSet)
  | wordStart (s : CharSet)
  | wordEnd (s : CharSet)
  | notAfterWord (s : CharSet)
  | notBeforeWord (s : CharSet)
  deriving DecidableEq, Repr

inductive Pattern where
  | empty
  | set (s : CharSet)
  | anchor (a : Anchor)
  | seq (p q : Pattern)
  | alt (p q : Pattern)
  | many (least : Nat) (most : Option Nat) (greedy : Bool) (p : Pattern)
  | group (index : Nat) (p : Pattern)
  deriving DecidableEq, Repr

namespace Pattern

/-- About how many states recognise the pattern; bounded repetitions are written out. -/
def size : Pattern → Nat
  | .empty => 1
  | .set s => s.size
  | .anchor _ => 1
  | .seq p q => p.size + q.size
  | .alt p q => p.size + q.size + 1
  | .many least (some most) _ p => least * p.size + (most - least) * (p.size + 1)
  | .many least none _ p => max least 1 * p.size + 1
  | .group _ p => p.size + 2

def largest : Nat := 327680

structure Capture where
  index : Nat
  start : Nat
  length : Nat
  deriving DecidableEq, Repr

structure Cursor where
  pos : Nat
  previous : Option Char
  rest : List Char
  captures : List Capture
  deriving DecidableEq, Repr

def Cursor.start (text : List Char) : Cursor := ⟨0, none, text, []⟩

def Cursor.after (c : Cursor) (s : CharSet) : Bool := (c.previous.map s.mem).getD false

def Cursor.before (c : Cursor) (s : CharSet) : Bool := (c.rest.head?.map s.mem).getD false

-- With `crlf` a carriage return ends a line too, and nothing holds between it and its line feed.
def holds (c : Cursor) (a : Anchor) : Bool :=
  match a with
  | .textStart => c.previous.isNone
  | .textEnd => c.rest.isEmpty
  | .lineStart crlf =>
      c.previous.isNone || c.previous == some '\n' ||
        crlf && c.previous == some '\r' && c.rest.head? != some '\n'
  | .lineEnd crlf =>
      c.rest.isEmpty || crlf && c.rest.head? == some '\r' ||
        c.rest.head? == some '\n' && !(crlf && c.previous == some '\r')
  | .wordBoundary s => c.after s != c.before s
  | .notWordBoundary s => c.after s == c.before s
  | .wordStart s => !c.after s && c.before s
  | .wordEnd s => c.after s && !c.before s
  | .notAfterWord s => !c.after s
  | .notBeforeWord s => !c.before s

/-- The ends that `next` gives for places one after the other. It is told which places were found
before; none is found twice. -/
def sweep (next : List Nat → Cursor → List Cursor) (seen : List Nat) :
    List Cursor → List Cursor
  | [] => []
  | c :: cs =>
      let found := next seen c
      found ++ sweep next (found.map (·.pos) ++ seen) cs

/-- The ends of `body` again and again, each time further on. What follows from a place is the same
however it was reached, so only the preferred way counts. `fuel` bounds the repetitions. -/
def onward (body : Cursor → List Cursor) (greedy : Bool) :
    Nat → List Nat → Cursor → List Cursor
  | 0, seen, c => if seen.contains c.pos then [] else [c]
  | fuel + 1, seen, c =>
      if seen.contains c.pos then []
      else
        let further := (body c).filter (·.rest.length < c.rest.length)
        let more := sweep (onward body greedy fuel) (c.pos :: seen) further
        if greedy then more ++ [c] else c :: more

def atLeastOnce (body : Cursor → List Cursor) (greedy : Bool) (c : Cursor) : List Cursor :=
  let next (seen : List Nat) (d : Cursor) : List Cursor :=
    if d.rest.length < c.rest.length then onward body greedy d.rest.length seen d
    else if seen.contains d.pos then [] else [d]
  sweep next [] (body c)

def upTo (body : Cursor → List Cursor) (greedy : Bool) : Nat → Cursor → List Cursor
  | 0, c => [c]
  | most + 1, c =>
      let more := (body c).flatMap (upTo body greedy most)
      if greedy then more ++ [c] else c :: more

def exactly (body : Cursor → List Cursor) : Nat → Cursor → List Cursor
  | 0, c => [c]
  | count + 1, c => (body c).flatMap (exactly body count)

def repeated (body : Cursor → List Cursor) (least : Nat) (most : Option Nat) (greedy : Bool)
    (c : Cursor) : List Cursor :=
  match least, most with
  | least, some most => (exactly body least c).flatMap (upTo body greedy (most - least))
  | 0, none =>
      let more := atLeastOnce body greedy c
      if greedy then more ++ [c] else c :: more
  | least + 1, none => (exactly body least c).flatMap (atLeastOnce body greedy)

def ends : Pattern → Cursor → List Cursor
  | .empty, c => [c]
  | .set s, c =>
      match c.rest with
      | [] => []
      | d :: rest => if s.mem d then [{ c with pos := c.pos + 1, previous := some d, rest }] else []
  | .anchor a, c => if holds c a then [c] else []
  | .seq p q, c => (p.ends c).flatMap q.ends
  | .alt p q, c => p.ends c ++ q.ends c
  | .many least most greedy p, c => repeated p.ends least most greedy c
  | .group index p, c =>
      (p.ends c).map fun d =>
        { d with captures := ⟨index, c.pos, d.pos - c.pos⟩ :: d.captures }

def searchFrom (p : Pattern) (pos : Nat) (previous : Option Char) : List Char → Option Cursor
  | [] => (p.ends ⟨pos, previous, [], []⟩).head?
  | c :: cs =>
      match (p.ends ⟨pos, previous, c :: cs, []⟩).head? with
      | some found => some found
      | none => searchFrom p (pos + 1) (some c) cs

def search (p : Pattern) (text : List Char) : Option Cursor := searchFrom p 0 none text

def Cursor.captured? (c : Cursor) (text : List Char) (index : Nat) : Option (List Char) :=
  (c.captures.find? (·.index == index)).map fun g => (text.drop g.start).take g.length

end Pattern

end Reconcile
