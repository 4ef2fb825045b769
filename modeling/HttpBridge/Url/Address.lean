import HttpBridge.Url.Host
/-!
Addresses as a browser reads them: blanks around an address and line ends in it do not count,
backslashes are slashes in addresses of the web, and the path is simplified.
-/

namespace HttpBridge.Url

structure Authority where
  user : List Char
  password : List Char
  host : Host
  port : Option Nat
  deriving DecidableEq

end Url

structure Url where
  scheme : List Char
  authority : Option Url.Authority
  path : List Char
  query : Option (List Char)
  fragment : Option (List Char)
  deriving DecidableEq

namespace Url

def Authority.login (a : Authority) : List Char :=
  let password := if a.password.isEmpty then [] else ':' :: a.password
  if a.user.isEmpty && a.password.isEmpty then [] else a.user ++ password ++ ['@']

def Authority.render (a : Authority) : List Char :=
  let port := match a.port with
    | some n => ':' :: Nat.toDigits 10 n
    | none => []
  a.login ++ a.host.render ++ port

def renderChars (u : Url) : List Char :=
  let authority := match u.authority with
    | some a => '/' :: '/' :: a.render
    | none => if u.path.take 2 = ['/', '/'] then ['/', '.'] else []
  let marked (mark : Char) : Option (List Char) → List Char
    | some cs => mark :: cs
    | none => []
  u.scheme ++ ':' :: authority ++ u.path ++ marked '?' u.query ++ marked '#' u.fragment

def render (u : Url) : String :=
  String.ofList u.renderChars

def hasHost (u : Url) : Bool :=
  match u.authority with
  | some a => !a.host.isEmpty
  | none => false

def withoutLogin (u : Url) : Url :=
  { u with authority := u.authority.map fun a => { a with user := [], password := [] } }

def defaultPorts : List (String × Nat) :=
  [("http", 80), ("https", 443), ("ws", 80), ("wss", 443), ("ftp", 21)]

def isWebScheme (scheme : List Char) : Bool :=
  (defaultPorts.lookup (String.ofList scheme)).isSome

def isSlash (web : Bool) (c : Char) : Bool :=
  c == '/' || (web && c == '\\')

def endsPath (c : Char) : Bool :=
  c == '?' || c == '#'

def splitScheme (cs : List Char) : Option (List Char × List Char) :=
  let name := cs.takeWhile fun c => c.isAlphanum || c == '+' || c == '-' || c == '.'
  match cs.drop name.length with
  | ':' :: rest =>
    if name.head?.any Char.isAlpha then some (name.map Char.toLower, rest) else none
  | _ => none

def readLogin (cs : List Char) : List Char × List Char :=
  let user := cs.takeWhile (· != ':')
  (percentEncode userSet user, percentEncode userSet (cs.drop (user.length + 1)))

def splitLogin (cs : List Char) : Option (List Char) × List Char :=
  let host := (cs.reverse.takeWhile (· != '@')).reverse
  if host.length = cs.length then (none, cs)
  else (some (cs.take (cs.length - host.length - 1)), host)

def splitPort (inside : Bool) : List Char → List Char × Option (List Char)
  | [] => ([], none)
  | c :: cs =>
    if c = ':' && !inside then ([], some cs)
    else
      let (host, port) := splitPort (if c = '[' then true else if c = ']' then false else inside) cs
      (c :: host, port)

def readPort (scheme : List Char) (cs : List Char) : Option (Option Nat) :=
  if !cs.all Char.isDigit then none
  else
    let n := Decimal.digitsValue cs
    let unwritten := cs.isEmpty || defaultPorts.lookup (String.ofList scheme) = some n
    if 65535 < n then none else some (if unwritten then none else some n)

def readAuthority (scheme : List Char) (web : Bool) (cs : List Char) : Option Authority := do
  let (login, rest) := splitLogin cs
  let (hostText, portText) := splitPort false rest
  if login = some [] && rest.isEmpty then none
  else if web && hostText.isEmpty then none
  else
    let host ← if web then readHost hostText else readOtherHost hostText
    let (user, password) := readLogin (login.getD [])
    if host.isEmpty && (portText.isSome || !user.isEmpty || !password.isEmpty) then none
    else
      let port ← match portText with
        | some digits => readPort scheme digits
        | none => some none
      return ⟨user, password, host, port⟩

/-- Replaces escaped points of a segment, to compare it with the segments that change the path. -/
def plainPoints : List Char → List Char
  | '%' :: '2' :: c :: rest =>
    if c = 'e' || c = 'E' then '.' :: plainPoints rest else '%' :: '2' :: c :: plainPoints rest
  | c :: rest => c :: plainPoints rest
  | [] => []

def isDisk : List Char → Bool
  | [letter, mark] => letter.isAlpha && (mark == ':' || mark == '|')
  | _ => false

def leaveSegment : List (List Char) → List (List Char)
  | [s] => if isDisk s && s.contains ':' then [s] else []
  | done => done.tail

def followSegments (leave : List (List Char) → List (List Char)) :
    List (List Char) → List (List Char) → List (List Char)
  | done, [] => done.reverse
  | done, [last] =>
    match plainPoints last with
    | ['.', '.'] => ([] :: leave done).reverse
    | ['.'] => ([] :: done).reverse
    | _ => (last :: done).reverse
  | done, s :: ss =>
    match plainPoints s with
    | ['.', '.'] => followSegments leave (leave done) ss
    | ['.'] => followSegments leave done ss
    | _ => followSegments leave (s :: done) ss

def segmentsOf (web : Bool) (cs : List Char) : List (List Char) :=
  (Text.splitWhere (isSlash web) cs).map (percentEncode pathSet)

def joinSegments (segments : List (List Char)) : List Char :=
  segments.flatMap ('/' :: ·)

def readPath (web : Bool) (cs : List Char) : List Char :=
  joinSegments (followSegments List.tail [] (segmentsOf web cs))

def usualDisk (s : List Char) : List Char :=
  s.take 1 ++ [':']

def readFilePath (cs : List Char) : List Char × Bool :=
  match segmentsOf true cs with
  | [] => ([], false)
  | s :: ss =>
    let disk := isDisk s
    let segments := if disk then usualDisk s :: ss else s :: ss
    (joinSegments (followSegments leaveSegment [] segments), disk)

def readTail (web : Bool) (cs : List Char) : Option (List Char) × Option (List Char) :=
  let query (cs : List Char) := percentEncode (if web then webQuerySet else querySet) cs
  let fragment : List Char → Option (List Char)
    | '#' :: rest => some (percentEncode fragmentSet rest)
    | _ => none
  match cs with
  | '?' :: rest => (some (query (rest.takeWhile (· != '#'))), fragment (rest.dropWhile (· != '#')))
  | cs => (none, fragment cs)

def readWithAuthority (scheme : List Char) (web : Bool) (cs : List Char) : Option Url := do
  let ends (c : Char) : Bool := isSlash web c || endsPath c
  let authority ← readAuthority scheme web (cs.takeWhile (!ends ·))
  let rest := cs.dropWhile (!ends ·)
  let path := rest.takeWhile (!endsPath ·)
  let (query, fragment) := readTail web (rest.dropWhile (!endsPath ·))
  return {
    scheme, query, fragment
    authority := some authority
    path := if path.isEmpty && !web then [] else readPath web (path.drop 1) }

/-- Reads an address without an authority. A path that does not begin with a slash is kept as it
is. -/
def readWithoutAuthority (scheme : List Char) (cs : List Char) : Url :=
  let path := cs.takeWhile (!endsPath ·)
  let (query, fragment) := readTail false (cs.dropWhile (!endsPath ·))
  { scheme, query, fragment
    authority := none
    path := match path with
      | '/' :: rest => readPath false rest
      | path => percentEncode controlSet path }

def localhost : List Char := "localhost".toList

/-- Reads the address of a file. Its host may be empty, and is if it is the machine itself or if
the path begins with a disk. -/
def readFile (scheme : List Char) (cs : List Char) : Option Url := do
  let slashes := cs.takeWhile (isSlash true)
  let ends (c : Char) : Bool := isSlash true c || endsPath c
  let rest := if slashes.length < 2 then cs else cs.drop 2
  let start := if slashes.length < 2 then [] else rest.takeWhile (!ends ·)
  let hostText := if isDisk start then [] else start
  let host ← if hostText.isEmpty then some (.name []) else readHost hostText
  let rest := rest.drop hostText.length
  let path := rest.takeWhile (!endsPath ·)
  let (query, fragment) := readTail true (rest.dropWhile (!endsPath ·))
  let (path, disk) := readFilePath (if path.head?.any (isSlash true) then path.drop 1 else path)
  let host := if disk || host = .name localhost then .name [] else host
  return { scheme, query, fragment, path, authority := some ⟨[], [], host, none⟩ }

def isEdge (c : Char) : Bool :=
  c ≤ ' '

def isLineMark (c : Char) : Bool :=
  c == '\t' || c == '\n' || c == '\r'

def clean (cs : List Char) : List Char :=
  let trimmed := (cs.dropWhile isEdge).reverse.dropWhile isEdge
  trimmed.reverse.filter (!isLineMark ·)

def read (s : String) : Option Url := do
  let (scheme, rest) ← splitScheme (clean s.toList)
  if scheme = "file".toList then readFile scheme rest
  else if isWebScheme scheme then
    readWithAuthority scheme true (rest.dropWhile (isSlash true))
  else match rest with
    | '/' :: '/' :: rest => readWithAuthority scheme false rest
    | rest => return readWithoutAuthority scheme rest

end Url

end HttpBridge
