import AggregateGateway.Http.Host
import AggregateGateway.Text.Numeral

/-!
Absolute addresses. Reading one puts it into its normal form: scheme and host in lower case, no
port that goes without saying, no dots among the segments of the path, and escapes for whatever
may not stand where it is.
-/

namespace AggregateGateway.Http

/-- What follows the two slashes. Names and passwords are not kept. -/
structure Authority where
  host : Option String
  port : Option Nat
  deriving DecidableEq

structure Url where
  scheme : String
  authority : Option Authority
  path : String
  query : Option String
  fragment : Option String
  deriving DecidableEq

namespace Url

/-- Schemes whose addresses always have an authority, with their usual ports. -/
def specialPorts : List (String × Option Nat) :=
  [("http", some 80), ("https", some 443), ("ws", some 80), ("wss", some 443),
   ("ftp", some 21), ("file", none)]

def isSpecial (scheme : String) : Bool :=
  (specialPorts.lookup scheme).isSome

def isControl (c : Char) : Bool :=
  c.toNat < 0x20 || c.toNat == 0x7F

def escapedInFragment (c : Char) : Bool :=
  isControl c || " \"<>\x60".toList.contains c

def escapedInPath (c : Char) : Bool :=
  escapedInFragment c || "#?\x7b\x7d".toList.contains c

def escapedInQuery (scheme : String) (c : Char) : Bool :=
  isControl c || " \"#<>".toList.contains c || (isSpecial scheme && c == '\x27')

def escapeOctet (b : UInt8) : List Char :=
  let digit (n : Nat) : Char := (Nat.digitChar n).toUpper
  ['%', digit (b.toNat / 16), digit (b.toNat % 16)]

/-- Escapes the characters of a set and all that are not ASCII. -/
def escape (isEscaped : Char → Bool) (cs : List Char) : String :=
  String.ofList (cs.flatMap fun c =>
    if 128 ≤ c.toNat || isEscaped c then
      (Text.utf8 (String.singleton c)).flatMap escapeOctet
    else [c])

/-- Splits at the first character of a kind, which stays with the second part. -/
def splitAt (isEnd : Char → Bool) (cs : List Char) : List Char × List Char :=
  (cs.takeWhile fun c => !isEnd c, cs.dropWhile fun c => !isEnd c)

def isSchemeChar (c : Char) : Bool :=
  c.isAlphanum || c == '+' || c == '-' || c == '.'

/-- A scheme and what follows its colon. -/
def scheme? (cs : List Char) : Option (String × List Char) :=
  match splitAt (fun c => !isSchemeChar c) cs with
  | (c :: name, ':' :: rest) =>
    if c.isAlpha then some (String.ofList ((c :: name).map Char.toLower), rest) else none
  | _ => none

def isSlash (scheme : String) (c : Char) : Bool :=
  c == '/' || (isSpecial scheme && c == '\\')

def isDot (segment : String) : Bool :=
  [".", "%2e"].contains segment.toLower

def isDoubleDot (segment : String) : Bool :=
  ["..", ".%2e", "%2e.", "%2e%2e"].contains segment.toLower

/-- The letter of a drive, with a colon or a bar. -/
def isDrive : List Char → Bool
  | [c, d] => c.isAlpha && (d == ':' || d == '|')
  | _ => false

/-- Two dots do not remove a drive, whatever the scheme. -/
def isKept (segment : String) : Bool :=
  let cs := segment.toList
  isDrive (cs.take 2) && (cs.length == 2 || cs[2]? == some '\\')

/-- The segments without the last one; `done` is in reverse. -/
def parent : List String → List String
  | [] => []
  | segment :: done => if isKept segment then segment :: done else done

/-- A drive at the front of the path of a file has a colon. -/
def normalDrive (scheme : String) (done : List String) (segment : String) : String :=
  match scheme == "file" && done.isEmpty && isDrive segment.toList, segment.toList with
  | true, c :: _ => String.ofList [c, ':']
  | _, _ => segment

/-- The segments that are left when dots are resolved; a dot at the end leaves an empty one. -/
def resolve (scheme : String) : List String → List String → List String
  | done, [] => done.reverse
  | done, [last] =>
    if isDoubleDot last then ("" :: parent done).reverse
    else if isDot last then ("" :: done).reverse
    else (normalDrive scheme done last :: done).reverse
  | done, segment :: more =>
    if isDoubleDot segment then resolve scheme (parent done) more
    else if isDot segment then resolve scheme done more
    else resolve scheme (normalDrive scheme done segment :: done) more

/-- The segments of a path after its first slash. -/
def segments (scheme : String) (cs : List Char) : List String :=
  let cs := cs.map fun c => if isSlash scheme c then '/' else c
  resolve scheme [] ((parts '/' cs).map (escape escapedInPath))

/-- The path of an address with an authority. -/
def pathText (scheme : String) (cs : List Char) : String :=
  match cs with
  | [] => if isSpecial scheme then "/" else ""
  | c :: rest =>
    "/" ++ "/".intercalate (segments scheme (if isSlash scheme c then rest else c :: rest))

def port? (scheme : String) (cs : List Char) : Option (Option Nat) :=
  match cs with
  | [] => some none
  | ':' :: ds =>
    if ds.isEmpty then some none
    else if !ds.all Char.isDigit then none
    else (Text.unsigned? 65535 ds).map fun n =>
      if (specialPorts.lookup scheme).join == some n then none else some n
  | _ => none

/-- Where the host ends and the port begins. -/
def splitHost (isBracketed : Bool) : List Char → List Char × List Char
  | [] => ([], [])
  | c :: cs =>
    if c == ':' && !isBracketed then ([], c :: cs)
    else
      let (host, rest) := splitHost (c == '[' || (isBracketed && c != ']')) cs
      (c :: host, rest)

/-- What is left of an authority without name and password. -/
def withoutUser (cs : List Char) : List Char :=
  (cs.reverse.takeWhile (· != '@')).reverse

/-- A host of a scheme that leaves its meaning open is kept as it is, with escapes. -/
def host? (scheme : String) (cs : List Char) : Option (Option String) :=
  if isSpecial scheme then (Host.read? cs).map some
  else
    match cs with
    | [] => some none
    | '[' :: _ => (Host.read? cs).map some
    | cs =>
      if cs.any DomainName.isForbidden then none else some (some (escape isControl cs))

/-- An authority, and what of it belongs to the path: that begins after the port with a backslash.
Whoever names a user or a port has to name a host; a lone colon before the at sign does not
count. -/
def authority? (scheme : String) (cs : List Char) : Option (Authority × List Char) :=
  let bare := withoutUser cs
  let user := cs.take (cs.length - bare.length)
  let (host, rest) := splitHost false bare
  let (port, path) := splitAt (· == '\\') rest
  match host? scheme host, port? scheme port with
  | some none, some _ =>
    if (!user.isEmpty && user != [':', '@']) || !port.isEmpty then none
    else some (⟨none, none⟩, path)
  | some host, some port => some (⟨host, port⟩, path)
  | _, _ => none

/-- The path of a file, without empty segments at its front. -/
def filePath (segments : List String) : String :=
  "/" ++ "/".intercalate (segments.dropWhile String.isEmpty)

/-- A file on a host; a drive at the front of its path takes the place of the host. -/
def fileOn (host : Option String) (cs : List Char) : Authority × String :=
  let path := segments "file" cs
  let isOnDrive := (path.head?).any fun segment => isDrive segment.toList
  (⟨if isOnDrive then none else host, none⟩, filePath path)

/-- What follows the two slashes of a file: a host that may be missing, or a drive. -/
def file? (cs : List Char) : Option (Authority × String) :=
  let (host, path) := splitAt (isSlash "file") cs
  if isDrive host then some (fileOn none cs)
  else if host.isEmpty then some (fileOn none path)
  else
    (Host.read? host).map fun host =>
      if host == "localhost" then fileOn none path else fileOn (some host) (path.drop 1)

/-- Authority and path of what follows the colon, up to query or fragment. -/
def hierarchy? (scheme : String) (cs : List Char) : Option (Option Authority × String) :=
  let slash := isSlash scheme
  if scheme == "file" then
    match cs with
    | a :: b :: rest =>
      if slash a && slash b then (file? rest).map fun (authority, path) => (some authority, path)
      else some (onNoHost (if slash a then b :: rest else cs))
    | [a] => some (onNoHost (if slash a then [] else [a]))
    | [] => some (onNoHost [])
  else if isSpecial scheme then located? (cs.dropWhile slash)
  else
    match cs with
    | '/' :: '/' :: rest => located? rest
    | '/' :: _ => some (none, pathText scheme cs)
    | cs => some (none, escape isControl cs)
where
  onNoHost (cs : List Char) : Option Authority × String :=
    let (authority, path) := fileOn none cs
    (some authority, path)
  located? (cs : List Char) : Option (Option Authority × String) :=
    let (authority, path) := splitAt (isSlash scheme) cs
    (authority? scheme authority).map fun (authority, front) =>
      (some authority, pathText scheme (front ++ path))

/-- Blanks around an address and line breaks or tabs inside do not count. -/
def clean (cs : List Char) : List Char :=
  let isOuter (c : Char) : Bool := c.toNat ≤ 0x20
  (((cs.dropWhile isOuter).reverse.dropWhile isOuter).reverse).filter fun c =>
    c != '\t' && c != '\n' && c != '\r'

def read? (s : String) : Option Url := do
  let (scheme, rest) ← scheme? (clean s.toList)
  let (rest, fragment) := splitAt (· == '#') rest
  let (rest, query) := splitAt (· == '?') rest
  let (authority, path) ← hierarchy? scheme rest
  return { scheme, authority, path
           query := after? query (escape (escapedInQuery scheme))
           fragment := after? fragment (escape escapedInFragment) }
where
  after? (cs : List Char) (written : List Char → String) : Option String :=
    match cs with
    | [] => none
    | _ :: cs => some (written cs)

def hasHost (u : Url) : Bool :=
  (u.authority.bind Authority.host).isSome

def authorityText (a : Authority) : String :=
  "//" ++ a.host.getD "" ++ ((a.port.map fun n => ":" ++ toString n).getD "")

def text (u : Url) : String :=
  let authority := match u.authority with
    | some a => authorityText a
    | none => if u.path.startsWith "//" then "/." else ""
  u.scheme ++ ":" ++ authority ++ u.path ++ ((u.query.map ("?" ++ ·)).getD "") ++
    ((u.fragment.map ("#" ++ ·)).getD "")

/-- Adds names and values, which need no escapes, to the query. -/
def withPairs (u : Url) (pairs : List (String × String)) : Url :=
  let added := "&".intercalate (pairs.map fun (name, value) => name ++ "=" ++ value)
  let query := match u.query with
    | none => added
    | some "" => added
    | some query => query ++ "&" ++ added
  { u with query := some query }

end Url

end AggregateGateway.Http
