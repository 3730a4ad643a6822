import Reconcile.Yaml.Scan

namespace Reconcile.Yaml

inductive Node where
  | scalar (text : String) (style : Style) (tag : Option String)
  | list (items : List Node)
  | table (pairs : List (Node × Node))
  | alias (number : Nat)
  deriving Repr

namespace Node

def void : Node := .scalar "" .plain none

end Node

structure Anchors where
  numbers : List (String × Nat)
  nodes : List (Nat × Node)
  deriving Repr

namespace Anchors

def none : Anchors := ⟨[], []⟩

def declare (a : Anchors) (name : String) : Nat × Anchors :=
  let number := a.numbers.length
  (number, { a with
    numbers := (name, number) :: a.numbers.filter fun e => e.1 != name })

def define (a : Anchors) (earlier number : Nat) (n : Node) : Anchors :=
  let inner := a.nodes.length - earlier
  { a with nodes := a.nodes.take inner ++ (number, n) :: a.nodes.drop inner }

end Anchors

abbrev TagRules := List (String × String)

namespace TagRules

def usual : TagRules := [("!", "!"), ("!!", "tag:yaml.org,2002:")]

def resolve? (rules : TagRules) (handle suffix : String) : Option String :=
  if handle.isEmpty then some suffix else (rules.lookup handle).map (· ++ suffix)

end TagRules

structure Properties where
  anchor : Option String
  tag : Option (String × String)

namespace Properties

def isEmpty (p : Properties) : Bool := p.anchor.isNone && p.tag.isNone

def take : List Token → Properties × List Token
  | .anchor a :: .tag h s :: ts => (⟨some a, some (h, s)⟩, ts)
  | .tag h s :: .anchor a :: ts => (⟨some a, some (h, s)⟩, ts)
  | .anchor a :: ts => (⟨some a, none⟩, ts)
  | .tag h s :: ts => (⟨none, some (h, s)⟩, ts)
  | ts => (⟨none, none⟩, ts)

def tag? (p : Properties) (rules : TagRules) : Option (Option String) :=
  match p.tag with
  | none => some none
  | some (handle, suffix) => (rules.resolve? handle suffix).map some

end Properties

namespace Document

structure Built (α : Type) where
  piece : α
  rest : List Token
  anchors : Anchors

namespace Built

def map {α β : Type} (f : α → β) (b : Built α) : Built β := ⟨f b.piece, b.rest, b.anchors⟩

end Built

def headIn (stops : List Token) : List Token → Bool
  | t :: _ => stops.contains t
  | [] => false

mutual

/-- A node. Where `block` is false only flow collections may stand; where `indentless` is true a
list may begin without further indentation. -/
def node (rules : TagRules) : Nat → Bool → Bool → Anchors → List Token → Option (Built Node)
  | 0, _, _, _, _ => none
  | fuel + 1, block, indentless, a, ts =>
      match ts with
      | .alias name :: rest => (a.numbers.lookup name).map fun n => ⟨.alias n, rest, a⟩
      | _ => do
          let (properties, ts) := Properties.take ts
          let tag ← properties.tag? rules
          match properties.anchor with
          | none => content rules fuel block indentless properties.isEmpty tag a ts
          | some name => do
              let (number, a) := a.declare name
              let b ← content rules fuel block indentless false tag a ts
              pure { b with anchors := b.anchors.define a.nodes.length number b.piece }

def content (rules : TagRules) :
    Nat → Bool → Bool → Bool → Option String → Anchors → List Token → Option (Built Node)
  | 0, _, _, _, _, _, _ => none
  | fuel + 1, block, indentless, bare, tag, a, ts =>
      match ts with
      | .blockEntry :: _ =>
          if indentless then (items rules fuel false a ts).map (·.map .list)
          else if bare then none
          else some ⟨.scalar "" .plain tag, ts, a⟩
      | .scalar text style :: rest => some ⟨.scalar text style tag, rest, a⟩
      | .flowSequenceStart :: rest => (flowItems rules fuel true a rest).map (·.map .list)
      | .flowMappingStart :: rest => (flowPairs rules fuel true a rest).map (·.map .table)
      | .sequenceStart :: rest =>
          if block then (items rules fuel true a rest).map (·.map .list)
          else if bare then none
          else some ⟨.scalar "" .plain tag, ts, a⟩
      | .mappingStart :: rest =>
          if block then (pairs rules fuel a rest).map (·.map .table)
          else if bare then none
          else some ⟨.scalar "" .plain tag, ts, a⟩
      | _ => if bare then none else some ⟨.scalar "" .plain tag, ts, a⟩

def items (rules : TagRules) : Nat → Bool → Anchors → List Token → Option (Built (List Node))
  | 0, _, _, _ => none
  | fuel + 1, indented, a, ts =>
      match ts with
      | .blockEntry :: ts =>
          let stops := if indented then [.blockEntry, .blockEnd]
            else [.blockEntry, .key, .value, .blockEnd]
          if headIn stops ts then
            (items rules fuel indented a ts).map (·.map (.void :: ·))
          else do
            let b ← node rules fuel true false a ts
            let c ← items rules fuel indented b.anchors b.rest
            pure (c.map (b.piece :: ·))
      | .blockEnd :: rest => some ⟨[], if indented then rest else ts, a⟩
      | _ => if indented then none else some ⟨[], ts, a⟩

def pairs (rules : TagRules) : Nat → Anchors → List Token → Option (Built (List (Node × Node)))
  | 0, _, _ => none
  | fuel + 1, a, ts =>
      match ts with
      | .key :: ts => do
          let k ← slot rules fuel true [.key, .value, .blockEnd] a ts
          let v ← match k.rest with
            | .value :: ts => slot rules fuel true [.key, .value, .blockEnd] k.anchors ts
            | ts => pure ⟨.void, ts, k.anchors⟩
          let c ← pairs rules fuel v.anchors v.rest
          pure (c.map ((k.piece, v.piece) :: ·))
      | .blockEnd :: rest => some ⟨[], rest, a⟩
      | _ => none

def slot (rules : TagRules) :
    Nat → Bool → List Token → Anchors → List Token → Option (Built Node)
  | 0, _, _, _, _ => none
  | fuel + 1, block, stops, a, ts =>
      if headIn stops ts then some ⟨.void, ts, a⟩ else node rules fuel block block a ts

def flowItems (rules : TagRules) : Nat → Bool → Anchors → List Token → Option (Built (List Node))
  | 0, _, _, _ => none
  | fuel + 1, first, a, ts =>
      match ts with
      | .flowSequenceEnd :: rest => some ⟨[], rest, a⟩
      | _ => do
          let ts ← match first, ts with
            | true, ts => some ts
            | false, .flowEntry :: ts => some ts
            | false, _ => none
          match ts with
          | .flowSequenceEnd :: rest => pure ⟨[], rest, a⟩
          | .key :: ts => do
              let stops := [.value, .flowEntry, .flowSequenceEnd]
              let k ←
                if headIn stops ts then some ⟨.void, ts.drop 1, a⟩
                else node rules fuel false false a ts
              let v ← match k.rest with
                | .value :: ts =>
                    slot rules fuel false [.flowEntry, .flowSequenceEnd] k.anchors ts
                | ts => pure ⟨.void, ts, k.anchors⟩
              let c ← flowItems rules fuel false v.anchors v.rest
              pure (c.map (.table [(k.piece, v.piece)] :: ·))
          | _ => do
              let b ← node rules fuel false false a ts
              let c ← flowItems rules fuel false b.anchors b.rest
              pure (c.map (b.piece :: ·))

def flowPairs (rules : TagRules) :
    Nat → Bool → Anchors → List Token → Option (Built (List (Node × Node)))
  | 0, _, _, _ => none
  | fuel + 1, first, a, ts =>
      match ts with
      | .flowMappingEnd :: rest => some ⟨[], rest, a⟩
      | _ => do
          let ts ← match first, ts with
            | true, ts => some ts
            | false, .flowEntry :: ts => some ts
            | false, _ => none
          match ts with
          | .flowMappingEnd :: rest => pure ⟨[], rest, a⟩
          | .key :: ts => do
              let k ← slot rules fuel false [.value, .flowEntry, .flowMappingEnd] a ts
              let v ← match k.rest with
                | .value :: ts =>
                    slot rules fuel false [.flowEntry, .flowMappingEnd] k.anchors ts
                | ts => pure ⟨.void, ts, k.anchors⟩
              let c ← flowPairs rules fuel false v.anchors v.rest
              pure (c.map ((k.piece, v.piece) :: ·))
          | _ => do
              let b ← node rules fuel false false a ts
              let c ← flowPairs rules fuel false b.anchors b.rest
              pure (c.map ((b.piece, .void) :: ·))

end

def directives (seen : Bool) (rules : TagRules) : List Token → Option (TagRules × List Token)
  | .version major minor :: ts =>
      if seen || major != 1 || (minor != 1 && minor != 2) then none
      else directives true rules ts
  | .tagRule handle lead :: ts =>
      if (rules.lookup handle).isSome then none
      else directives seen ((handle, lead) :: rules) ts
  | ts => some (rules, ts)

def isDirective : Token → Bool
  | .version .. => true
  | .tagRule .. => true
  | _ => false

def isOver (ts : List Token) : Bool := ts.all (· == .documentEnd)

def whole (rules : TagRules) (ts : List Token) : Option (Node × Anchors) := do
  let fuel := 8 * ts.length + 8
  let b ← node (rules ++ TagRules.usual) fuel true false .none ts
  guard (isOver b.rest)
  pure (b.piece, b.anchors)

end Document

structure Document where
  root : Option Node
  anchors : List (Nat × Node)
  deriving Repr

namespace Document

def ofTokens? (ts : List Token) : Option Document :=
  match ts with
  | [] => some ⟨none, []⟩
  | t :: _ =>
      if isDirective t || t == .documentStart then
        match directives false [] ts with
        | some (rules, .documentStart :: rest) =>
            if rest.head?.all fun t => isDirective t || t == .documentStart || t == .documentEnd
            then (if isOver rest then some ⟨some .void, []⟩ else none)
            else (whole rules rest).map fun r => ⟨some r.1, r.2.nodes⟩
        | _ => none
      else (whole [] ts).map fun r => ⟨some r.1, r.2.nodes⟩

def ofText? (text : List Char) : Option Document := (Token.ofText? text).bind ofTokens?

def resolve? (d : Document) : Node → Option Node
  | .alias number => d.anchors.lookup number
  | n => some n

end Document

end Reconcile.Yaml
