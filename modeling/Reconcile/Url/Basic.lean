import Reconcile.Url.Host

namespace Reconcile

structure Url where
  scheme : List Char
  host : Option Url.Host
  port : Option Nat
  path : List (List Char)
  opaquePath : List Char
  query : Option (List Char)
  fragment : Option (List Char)
  deriving DecidableEq, Repr

namespace Url

def isSlash (c : Char) : Bool := c == '/' || c == '\\'

def defaultPort (scheme : List Char) : Option Nat :=
  match String.ofList scheme with
  | "http" => some 80
  | "https" => some 443
  | "ws" => some 80
  | "wss" => some 443
  | "ftp" => some 21
  | _ => none

def clean (s : List Char) : List Char :=
  (Text.trim (·.toNat ≤ 32) s).filter fun c => c != '\t' && c != '\n' && c != '\r'

def scheme? (s : List Char) : Option (List Char × List Char) :=
  match s.span (· != ':') with
  | (_, []) => none
  | (name, _ :: rest) =>
      match name with
      | [] => none
      | c :: cs =>
          if c.isAlpha && cs.all fun c => c.isAlphanum || c == '+' || c == '-' || c == '.' then
            some (name.map Char.toLower, rest)
          else none

def dropUserinfo (s : List Char) : Except Error (List Char) :=
  let authority := s.takeWhile fun c => !(isSlash c || c == '?' || c == '#')
  let rest := s.drop authority.length
  match Text.cutLast? '@' authority with
  | none => .ok s
  | some (_, []) => .error .emptyHost
  | some (_, host) => .ok (host ++ rest)

def hostText : Bool → List Char → List Char × List Char
  | _, [] => ([], [])
  | inside, c :: cs =>
      if (c == ':' && !inside) || isSlash c || c == '?' || c == '#' then ([], c :: cs)
      else
        let inside := if c == '[' then true else if c == ']' then false else inside
        let (host, rest) := hostText inside cs
        (c :: host, rest)

def portDigits (n : Nat) (seen : Bool) : List Char → Except Error (Option Nat × List Char)
  | [] => .ok (if seen then some n else none, [])
  | c :: cs =>
      if c.isDigit then
        let n := n * 10 + (c.toNat - 48)
        if 65535 < n then .error .invalidPort else portDigits n true cs
      else if isSlash c || c == '?' || c == '#' then
        .ok (if seen then some n else none, c :: cs)
      else .error .invalidPort

def readPort (scheme : List Char) : List Char → Except Error (Option Nat × List Char)
  | ':' :: cs => do
      let (n, rest) ← portDigits 0 false cs
      pure (if n = defaultPort scheme then none else n, rest)
  | s => .ok (none, s)

def dots (s : List Char) : Option Nat :=
  match String.ofList (s.map Char.toLower) with
  | "." => some 1
  | "%2e" => some 1
  | ".." => some 2
  | ".%2e" => some 2
  | "%2e." => some 2
  | "%2e%2e" => some 2
  | _ => none

def isDrive : List Char → Bool
  | [c, m] => c.isAlpha && (m == ':' || m == '|')
  | _ => false

def dropLastSegment : List (List Char) → List (List Char)
  | [] => []
  | seg :: before => if isDrive seg then seg :: before else before

/-- Resolves dot segments. `done` holds the finished segments, the last first. -/
def resolveDots (done : List (List Char)) : List (List Char) → List (List Char)
  | [] => done.reverse
  | [seg] =>
      match dots seg with
      | some 1 => ([] :: done).reverse
      | some _ => ([] :: dropLastSegment done).reverse
      | none => (seg :: done).reverse
  | seg :: rest =>
      match dots seg with
      | some 1 => resolveDots done rest
      | some _ => resolveDots (dropLastSegment done) rest
      | none => resolveDots (seg :: done) rest

def segments (s : List Char) : List (List Char) :=
  Text.splitOn '/' (s.map fun c => if c == '\\' then '/' else c)

def pathOf (s : List Char) : List (List Char) :=
  let s := match s with
    | c :: cs => if isSlash c then cs else c :: cs
    | [] => []
  resolveDots [] ((segments s).map (percentEncode inPathSet))

def splitFragment (s : List Char) : List Char × Option (List Char) :=
  match s.span (· != '#') with
  | (a, []) => (a, none)
  | (a, _ :: b) => (a, some b)

def splitQuery (s : List Char) : List Char × Option (List Char) :=
  match s.span (· != '?') with
  | (a, []) => (a, none)
  | (a, _ :: b) => (a, some b)

def parseAuthority (scheme rest : List Char) : Except Error Url := do
  let rest := rest.dropWhile isSlash
  let rest ← dropUserinfo rest
  let (hostChars, rest) := hostText false rest
  if hostChars.isEmpty then throw .emptyHost
  let host ← Host.parse hostChars
  let (port, rest) ← readPort scheme rest
  let (rest, fragment) := splitFragment rest
  let (rest, query) := splitQuery rest
  pure {
    scheme, host := some host, port
    path := pathOf rest
    opaquePath := []
    query := query.map (percentEncode inSpecialQuerySet)
    fragment := fragment.map (percentEncode inFragmentSet) }

def parse (s : String) : Except Error Url :=
  match scheme? (clean s.toList) with
  | none => .error .noBase
  | some (scheme, rest) =>
      if (defaultPort scheme).isSome then parseAuthority scheme rest
      else .ok {
        scheme, host := none, port := none, path := []
        opaquePath := percentEncode isControlChar rest, query := none, fragment := none }

def pathText (u : Url) : List Char :=
  u.path.flatMap fun seg => '/' :: seg

def text (u : Url) : String :=
  let lead := match u.host with
    | some h => u.scheme ++ "://".toList ++ h.text
    | none => u.scheme ++ ':' :: u.opaquePath
  let port := match u.port with
    | some n => ':' :: (toString n).toList
    | none => []
  let query := match u.query with
    | some q => '?' :: q
    | none => []
  let fragment := match u.fragment with
    | some f => '#' :: f
    | none => []
  String.ofList (lead ++ port ++ u.pathText ++ query ++ fragment)

end Url

end Reconcile
