import HttpBridge.Text.Utf8

namespace HttpBridge.Target

inductive Fault
  | empty
  | tooLong
  | badByte
  | badAuthority
  | badFormat
  | schemeTooLong
  deriving DecidableEq, Repr

def Fault.message : Fault → String
  | .empty => "empty string"
  | .tooLong => "uri too long"
  | .badByte => "invalid uri character"
  | .badAuthority => "invalid authority"
  | .badFormat => "invalid format"
  | .schemeTooLong => "scheme too long"

end Target

structure Target where
  scheme : Option String
  authority : String
  path : String
  query : Option String
  deriving DecidableEq

namespace Target

def maxLength : Nat := 65534

def maxSchemeLength : Nat := 64

def isSchemeChar (c : Char) : Bool :=
  c.isAlphanum || c == '+' || c == '-' || c == '.' || c == '~'

def isAuthorityChar (c : Char) : Bool :=
  c.isAlphanum || "!#$&'()*+,-./:;=?@[]_~".toList.contains c

def dropCaseless : List Char → List Char → Option (List Char)
  | [], cs => some cs
  | _ :: _, [] => none
  | w :: ws, c :: cs => if c.toLower = w then dropCaseless ws cs else none

def splitScheme (cs : List Char) : Except Fault (Option String × List Char) :=
  match dropCaseless "http://".toList cs, dropCaseless "https://".toList cs with
  | some rest, _ => .ok (some "http", rest)
  | none, some rest => .ok (some "https", rest)
  | none, none =>
    let name := cs.takeWhile isSchemeChar
    match cs.drop name.length with
    | ':' :: '/' :: '/' :: rest =>
      if maxSchemeLength < name.length then .error .schemeTooLong
      else .ok (some (String.ofList name), rest)
    | _ => .ok (none, cs)

structure Seen where
  colons : Nat
  opened : Bool
  closed : Bool
  percent : Bool
  atSign : Bool

def Seen.step (s : Seen) (c : Char) : Except Fault Seen :=
  let s := { s with atSign := c == '@' }
  if c = ':' then
    if 8 ≤ s.colons then .error .badAuthority else .ok { s with colons := s.colons + 1 }
  else if c = '[' then
    if s.percent || s.opened then .error .badAuthority else .ok { s with opened := true }
  else if c = ']' then
    if !s.opened || s.closed then .error .badAuthority
    else .ok { s with closed := true, colons := 0, percent := false }
  else if c = '@' then .ok { s with colons := 0, percent := false }
  else if c = '%' then .ok { s with percent := true }
  else if isAuthorityChar c then .ok s
  else .error .badByte

def Seen.isFine (s : Seen) : Bool :=
  s.opened == s.closed && s.colons ≤ 1 && !s.atSign && !s.percent

def endsAuthority (c : Char) : Bool :=
  c == '/' || c == '?' || c == '#'

def splitAuthority (cs : List Char) : Except Fault (List Char × List Char) := do
  let authority := cs.takeWhile (!endsAuthority ·)
  let seen ← authority.foldlM Seen.step ⟨0, false, false, false, false⟩
  if seen.isFine then return (authority, cs.drop authority.length) else .error .badAuthority

def isPathChar (c : Char) : Bool :=
  let n := c.toNat
  n == 0x21 || (0x24 ≤ n && n ≤ 0x3B) || n == 0x3D || (0x40 ≤ n && n ≤ 0x5F)
    || (0x61 ≤ n && n ≤ 0x7A) || n == 0x7C || 0x7E ≤ n || c == '"' || c == '\x7b' || c == '\x7d'

def isQueryChar (c : Char) : Bool :=
  let n := c.toNat
  n == 0x21 || (0x24 ≤ n && n ≤ 0x3B) || n == 0x3D || 0x3F ≤ n

def readQuery (cs : List Char) : Except Fault (Option String) :=
  match cs with
  | '?' :: rest =>
    let query := rest.takeWhile (· != '#')
    if query.all isQueryChar then .ok (some (String.ofList query)) else .error .badByte
  | _ => .ok none

def readPath (cs : List Char) : Except Fault (String × Option String) := do
  let path := cs.takeWhile fun c => c != '?' && c != '#'
  if !path.all isPathChar then .error .badByte
  else return (String.ofList path, ← readQuery (cs.drop path.length))

def readFull (cs : List Char) : Except Fault Target := do
  let (scheme, rest) ← splitScheme cs
  let (authority, rest) ← splitAuthority rest
  if scheme.isNone then
    if rest.isEmpty then return ⟨none, String.ofList authority, "", none⟩ else .error .badFormat
  else if authority.isEmpty then .error .badFormat
  else
    let (path, query) ← readPath rest
    return ⟨scheme, String.ofList authority, path, query⟩

def read (s : String) : Except Fault Target :=
  if maxLength < s.utf8ByteSize then .error .tooLong
  else match s.toList with
    | [] => .error .empty
    | ['*'] => .ok ⟨none, "", "*", none⟩
    | ['?'] | ['#'] => .error .badByte
    | '/' :: rest => do
      let (path, query) ← readPath ('/' :: rest)
      return ⟨none, "", path, query⟩
    | cs => readFull cs

def render (t : Target) : String :=
  let path := if t.path.isEmpty && t.scheme.isSome then "/" else t.path
  let scheme := match t.scheme with
    | some s => s ++ "://"
    | none => ""
  let query := match t.query with
    | some q => "?" ++ q
    | none => ""
  scheme ++ t.authority ++ path ++ query

end HttpBridge.Target
