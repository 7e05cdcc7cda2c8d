import PullReport.Url.Host

/-!
# Addresses

Addresses of the web and of other schemes, read by the rules that browsers follow: blanks around an
address and line breaks inside it do not count, backslashes are slashes under the schemes of the
web, dot segments are resolved, and characters that cannot stand in a path or query are
percent-encoded. Credentials, service numbers and fragments are read for their form only, since a
request shows none of them.

## Main definitions

* `Url`, `Url.Path`: addresses and their paths.
* `Url.Scheme`: the three sorts of schemes.
* `Url.Segments`: how the segments of a path come about.
* `Url.parse?`: the address that a text denotes.
* `Url.segments?`: the segments of a path that has any.
* `Url.requestTarget`: path and query as a request gives them.
-/

namespace PullReport

namespace Url

open Text

/-- The schemes that have rules of their own: those of the web, and `file`. -/
inductive Scheme where
  | web (name : List Char)
  | file
  | other (name : List Char)
  deriving DecidableEq, Repr

/-- A path is a list of segments, or a text that is no hierarchy. -/
inductive Path where
  | segments (list : List (List Char))
  | text (chars : List Char)
  deriving DecidableEq, Repr

end Url

/-- An address. An address without an authority has no host. -/
structure Url where
  scheme : Url.Scheme
  host : Option Host
  path : Url.Path
  query : Option (List Char)
  deriving DecidableEq, Repr

namespace Url

open Text

/-! ### Schemes -/

/-- The schemes of the web, in lower case. -/
def webSchemes : List (List Char) :=
  ["http".toList, "https".toList, "ws".toList, "wss".toList, "ftp".toList]

namespace Scheme

/-- The sort of a scheme of the given lower-case name. -/
def ofName (name : List Char) : Scheme :=
  if name ∈ webSchemes then web name else if name = "file".toList then file else other name

/-- The schemes under which a backslash is a slash. -/
def isSpecial : Scheme → Bool
  | web _ => true
  | file => true
  | other _ => false

end Scheme

/-- Whether a character may stand in the name of a scheme behind its first letter. -/
def isSchemeChar (c : Char) : Bool := c.isAlphanum || c == '+' || c == '-' || c == '.'

/-- The scheme of an address and what follows its colon. -/
def scheme? (cs : List Char) : Option (Scheme × List Char) :=
  match cs.head?, cs.dropWhile isSchemeChar with
  | some first, ':' :: rest =>
    if first.isAlpha then
      some (Scheme.ofName ((cs.takeWhile isSchemeChar).map Char.toLower), rest)
    else none
  | _, _ => none

/-! ### Paths and queries -/

/-- The characters that neither a path nor a query holds as they are. -/
def isEncodedEverywhere (c : Char) : Bool :=
  c.toNat ≤ 0x20 || 0x7F ≤ c.toNat || c == '"' || c == '#' || c == '<' || c == '>'

/-- The characters that a path holds as they are. -/
def keptInPath (c : Char) : Bool :=
  !(isEncodedEverywhere c || c == '?' || c == '\x60' || c == '\x7b' || c == '\x7d')

/-- The characters that a query holds as they are. -/
def keptInQuery (special : Bool) (c : Char) : Bool :=
  !(isEncodedEverywhere c || (special && c == '\''))

/-- Whether a segment means the directory itself. A dot may be percent-encoded. -/
def isSingleDot (segment : List Char) : Bool :=
  segment == ['.'] || segment.map Char.toLower == "%2e".toList

/-- Whether a segment means the directory above. -/
def isDoubleDot (segment : List Char) : Bool :=
  let lower := segment.map Char.toLower
  lower == "..".toList || lower == ".%2e".toList || lower == "%2e.".toList
    || lower == "%2e%2e".toList

/-- Whether a segment is the letter of a drive, which roots the paths under it wherever it
stands. -/
def isDrive : List Char → Bool
  | [letter, c] => letter.isAlpha && (c == ':' || c == '|')
  | _ => false

namespace Segments

/-- The path of the directory above. A drive is its own directory above, under every scheme. -/
def shorten (path : List (List Char)) : List (List Char) :=
  match path.getLast? with
  | some last => if isDrive last then path else path.dropLast
  | none => []

/-- A segment as it is stored: the first segment of a file path may be a drive, whose letter is then
followed by a colon. -/
def stored (scheme : Scheme) (path : List (List Char)) (segment : List Char) : List Char :=
  match scheme, path, segment with
  | .file, [], [letter, c] => if isDrive [letter, c] then [letter, ':'] else [letter, c]
  | _, _, _ => segment

/-- The path behind a segment that a slash follows. -/
def push (scheme : Scheme) (path : List (List Char)) (segment : List Char) : List (List Char) :=
  if isDoubleDot segment then shorten path
  else if isSingleDot segment then path
  else path ++ [stored scheme path segment]

/-- The path behind its last segment. A dot segment there leaves an empty one. -/
def pushLast (scheme : Scheme) (path : List (List Char)) (segment : List Char) :
    List (List Char) :=
  if isDoubleDot segment then shorten path ++ [[]]
  else if isSingleDot segment then path ++ [[]]
  else path ++ [stored scheme path segment]

/-- The path behind all its segments. -/
def resolve (scheme : Scheme) (path : List (List Char)) : List (List Char) → List (List Char)
  | [] => path
  | [last] => pushLast scheme path last
  | segment :: rest => resolve scheme (push scheme path segment) rest

/-- The text of a path cut at its slashes. -/
def cut (special : Bool) (cs : List Char) : List (List Char) :=
  (cs.map fun c => if special && c == '\\' then '/' else c).splitOn '/'

/-- The segments of a path, given its text behind the first slash. -/
def ofText (scheme : Scheme) (cs : List Char) : List (List Char) :=
  resolve scheme [] ((cut scheme.isSpecial cs).map (percentEncode keptInPath))

end Segments

/-- Whether a character ends a path. -/
def endsPath (c : Char) : Bool := c == '?' || c == '#'

/-- The query in the text behind a path, if there is one. -/
def query? (special : Bool) (cs : List Char) : Option (List Char) :=
  match cs with
  | '?' :: rest => some (percentEncode (keptInQuery special) (rest.takeWhile (· ≠ '#')))
  | _ => none

/-- The address of the given scheme and host, with path and query read from the text behind the
host. Under the schemes of the web a path is never empty. -/
def ofPathText (scheme : Scheme) (host : Option Host) (cs : List Char) : Url :=
  let path := cs.takeWhile (!endsPath ·)
  let special := scheme.isSpecial
  let segments :=
    match path with
    | [] => if special then [[]] else []
    | '/' :: rest => Segments.ofText scheme rest
    | c :: rest => Segments.ofText scheme (if special && c == '\\' then rest else c :: rest)
  ⟨scheme, host, .segments segments, query? special (cs.dropWhile (!endsPath ·))⟩

/-! ### Authorities -/

/-- Whether a character ends an authority. -/
def endsAuthority (special : Bool) (c : Char) : Bool :=
  c == '/' || c == '?' || c == '#' || (special && c == '\\')

/-- What follows the last `@` of an authority, and whether there is one: the credentials before it
do not matter. -/
def afterCredentials (authority : List Char) : List Char × Bool :=
  if authority.contains '@' then
    ((authority.reverse.takeWhile (· ≠ '@')).reverse, true)
  else (authority, false)

/-- The host of an authority and what follows it, which is nothing or starts with a colon. A colon
inside square brackets is part of the host. -/
def splitHost (inBrackets : Bool) : List Char → List Char × List Char
  | [] => ([], [])
  | c :: cs =>
    if c = ':' ∧ !inBrackets then ([], c :: cs)
    else
      let inBrackets := if c = '[' then true else if c = ']' then false else inBrackets
      let (host, rest) := splitHost inBrackets cs
      (c :: host, rest)

/-- What follows the service number behind a host. The number has digits only and is below `2 ^ 16`;
it may be empty. A backslash ends it under every scheme. -/
def afterServiceNumber? : List Char → Option (List Char)
  | ':' :: cs =>
    let number := decimal (cs.takeWhile isDigit)
    let rest := cs.dropWhile isDigit
    if number < 0x10000 ∧ (rest = [] ∨ rest.head? = some '\\') then some rest else none
  | cs => some cs

/-- The address of the given scheme, read from the text behind the slashes in front of its
authority. An empty host has no service number and no credentials, and the schemes of the web
have none. -/
def ofAuthority? (scheme : Scheme) (cs : List Char) : Option Url := do
  let special := scheme.isSpecial
  let authority := cs.takeWhile (!endsAuthority special ·)
  let (location, hasCredentials) := afterCredentials authority
  let (hostText, serviceNumber) := splitHost false location
  let rest ← afterServiceNumber? serviceNumber
  let path := rest ++ cs.dropWhile (!endsAuthority special ·)
  if hostText = [] then
    if special ∨ hasCredentials ∨ serviceNumber ≠ [] then none
    else return ofPathText scheme none path
  else
    let host ← if special then Host.ofWeb? hostText else Host.ofOther? hostText
    return ofPathText scheme (some host) path

/-! ### File addresses -/

/-- Whether a character is a slash under the schemes of the web. -/
def isSlash (c : Char) : Bool := c == '/' || c == '\\'

/-- The address of a file without its host, if its path starts with a drive: the host then does not
count. -/
def withoutDriveHost (url : Url) : Url :=
  match url.path with
  | .segments (first :: _) => if isDrive first then { url with host := none } else url
  | _ => url

/-- The address of a file, read from the text behind the scheme. Two slashes announce a host, which
may be empty; a drive in its place is the start of the path. -/
def ofFile? (cs : List Char) : Option Url :=
  match cs with
  | a :: b :: rest =>
    if isSlash a && isSlash b then
      let hostText := rest.takeWhile (!endsAuthority true ·)
      let path := rest.dropWhile (!endsAuthority true ·)
      if hostText = [] then some (ofPathText .file none path)
      else if isDrive hostText then some (ofPathText .file none ('/' :: rest))
      else
        (Host.ofWeb? hostText).map fun host =>
          if host.isNamed "localhost".toList then ofPathText .file none path
          else withoutDriveHost (ofPathText .file (some host) path)
    else some (ofPathText .file none (if isSlash a then cs else '/' :: cs))
  | _ => some (ofPathText .file none (if (cs.head?.map isSlash).getD false then cs else '/' :: cs))

/-! ### Whole addresses -/

/-- Whether a character at either end of an address does not count. -/
def isPadding (c : Char) : Bool := c.toNat ≤ 0x20

/-- Whether a character anywhere in an address does not count. -/
def isLineBreak (c : Char) : Bool := c == '\t' || c == '\n' || c == '\r'

/-- The characters of an address that count. -/
def significant (cs : List Char) : List Char :=
  (((cs.dropWhile isPadding).reverse.dropWhile isPadding).reverse).filter (!isLineBreak ·)

/-- The address of another scheme, read from the text behind the scheme: two slashes announce an
authority, one a path, and without any the rest is no hierarchy. -/
def ofOther? (scheme : Scheme) (cs : List Char) : Option Url :=
  match cs with
  | '/' :: '/' :: rest => ofAuthority? scheme rest
  | '/' :: _ => some (ofPathText scheme none cs)
  | _ =>
    some ⟨scheme, none, .text (percentEncode Host.isKept (cs.takeWhile (!endsPath ·))),
      query? false (cs.dropWhile (!endsPath ·))⟩

/-- The address that a text denotes, if it denotes one on its own. -/
def parse? (text : List Char) : Option Url :=
  match scheme? (significant text) with
  | none => none
  | some (.web name, rest) => ofAuthority? (.web name) (rest.dropWhile isSlash)
  | some (.file, rest) => ofFile? rest
  | some (.other name, rest) => ofOther? (.other name) rest

/-- The segments of the path. A path without a slash has none. -/
def segments? (url : Url) : Option (List (List Char)) :=
  match url.path with
  | .segments [] => none
  | .segments list => some list
  | .text _ => none

/-- The text of the path. -/
def pathText (url : Url) : List Char :=
  match url.path with
  | .segments list => list.flatMap ('/' :: ·)
  | .text chars => chars

/-- Path and query, as a request for the address gives them. -/
def requestTarget (url : Url) : List Char :=
  url.pathText ++
    match url.query with
    | some query => '?' :: query
    | none => []

/-- The address with fields added to its query. -/
def withQueryFields (url : Url) (fields : List (String × String)) : Url :=
  let added := (formBody fields).toList
  match url.query with
  | none => { url with query := some added }
  | some [] => { url with query := some added }
  | some query => { url with query := some (query ++ '&' :: added) }

/-- Whether the address is one that can be asked over the web. -/
def isHttp (url : Url) : Bool :=
  url.scheme == .web "http".toList || url.scheme == .web "https".toList

end Url

end PullReport
