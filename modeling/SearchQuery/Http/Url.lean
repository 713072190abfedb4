import SearchQuery.Http.Host
/-!
# URLs

The address of a server, taken apart and put together again. A path is the list of its segments as
they are written, already encoded; a URL whose path does not begin with a slash has an opaque path
instead, and nothing can be added to it.
-/

namespace SearchQuery

namespace Http

/-- The path of a URL. -/
inductive UrlPath where
  | opaquePath (text : String)
  /-- Each segment stands behind a slash. -/
  | segments (list : List String)
deriving DecidableEq

/-- What stands between the slashes in front of the path. -/
structure Authority where
  username : String
  password : Option String
  host : Host
  /-- The port, unless it is the one of the scheme. -/
  port : Option Nat
deriving DecidableEq

/-- A URL. -/
structure Url where
  scheme : String
  authority : Option Authority
  path : UrlPath
  query : Option String
  fragment : Option String
deriving DecidableEq

/-- The port of a special scheme. -/
def defaultPort? : String → Option Nat
  | "http" | "ws" => some 80
  | "https" | "wss" => some 443
  | "ftp" => some 21
  | _ => none

/-- Whether a scheme has the syntax of the web: always a host, and backslashes for slashes. -/
def isSpecial (scheme : String) : Bool := scheme = "file" || (defaultPort? scheme).isSome

namespace UrlPath

def text : UrlPath → String
  | .opaquePath text => text
  | .segments list => String.join (list.map ("/" ++ ·))

/-- Whether a segment, as written, leads to the segment above. -/
def isDoubleDot (segment : String) : Bool :=
  ["..", "%2e%2e", "%2e%2E", "%2E%2e", "%2E%2E", "%2e.", "%2E.", ".%2e", ".%2E"].contains segment

/-- Whether a segment, as written, stays where it is. -/
def isSingleDot (segment : String) : Bool := [".", "%2e", "%2E"].contains segment

/-- The segments of a path behind the given ones, from the segments as written. -/
def resolve (done : List String) : List String → List String
  | [] => done
  | [last] =>
    if isDoubleDot last then done.dropLast ++ [""]
    else if isSingleDot last then done ++ [""]
    else done ++ [last]
  | segment :: rest =>
    if isDoubleDot segment then resolve done.dropLast rest
    else if isSingleDot segment then resolve done rest
    else resolve (done ++ [segment]) rest

end UrlPath

def Authority.text (authority : Authority) : String :=
  let userinfo := authority.username ++ match authority.password with
    | some password => ":" ++ password
    | none => ""
  (if userinfo.isEmpty then "" else userinfo ++ "@") ++ authority.host.text
    ++ match authority.port with
      | some port => ":" ++ toString port
      | none => ""

namespace Url

/-- What is asked of the server: the path and the query. -/
def target (url : Url) : String :=
  url.path.text ++ match url.query with
    | some query => "?" ++ query
    | none => ""

def text (url : Url) : String :=
  url.scheme ++ ":" ++ (match url.authority with
    | some authority => "//" ++ authority.text
    | none => "") ++ url.target ++ match url.fragment with
      | some fragment => "#" ++ fragment
      | none => ""

def hasOpaquePath (url : Url) : Bool :=
  match url.path with
  | .opaquePath _ => true
  | .segments _ => false

/-- The scheme in front of the first colon, in lower case, with what follows. -/
def schemeOf (input : List Char) : Option (String × List Char) :=
  match input.span (· != ':') with
  | (front, _ :: rest) =>
    if front.head?.any Char.isAlpha
        ∧ front.all (fun c => c.isAlphanum || ['+', '-', '.'].contains c) then
      some (String.ofList (front.map Char.toLower), rest)
    else none
  | (_, []) => none

def endsAuthority (special : Bool) (c : Char) : Bool :=
  ['/', '?', '#'].contains c || (special && c = '\\')

/-- The text up to the last `@`, with what follows it. -/
def userinfoOf (authority : List Char) : Option (List Char × List Char) :=
  match authority.reverse.span (· != '@') with
  | (back, _ :: front) => some (front.reverse, back.reverse)
  | (_, []) => none

/-- The host of an authority and what follows it; a colon between brackets belongs to the host. -/
def hostPart (inBrackets : Bool) : List Char → List Char × List Char
  | [] => ([], [])
  | c :: rest =>
    if c = ':' ∧ !inBrackets then ([], c :: rest)
    else
      let (host, port) := hostPart (c = '[' || (inBrackets && c != ']')) rest
      (c :: host, port)

/-- Reads the port behind a host; the port of the scheme is left out. -/
def portOf (scheme : String) (text : List Char) : Except UrlError (Option Nat) :=
  if text.all Char.isDigit then
    let port := text.foldl (fun sum c => 10 * sum + (c.toNat - '0'.toNat)) 0
    if 65535 < port then .error .invalidPort
    else if text.isEmpty ∨ defaultPort? scheme = some port then .ok none
    else .ok (some port)
  else .error .invalidPort

def authorityOf (scheme : String) (text : List Char) : Except UrlError Authority := do
  let special := isSpecial scheme
  let userinfo := userinfoOf text
  let hostAndPort := match userinfo with
    | some (_, rest) => rest
    | none => text
  let (username, password) := match userinfo with
    | some (info, _) =>
      let (name, rest) := info.span (· != ':')
      (String.ofList (percentEncode inUserinfo name),
        if rest.length ≤ 1 then none
        else some (String.ofList (percentEncode inUserinfo (rest.drop 1))))
    | none => ("", none)
  if userinfo.isSome ∧ hostAndPort.isEmpty then .error .emptyHost
  let (host, port) := hostPart false hostAndPort
  let host ← Host.parse special host
  if host = .name "" ∧ (special ∨ !port.isEmpty ∨ username != "" ∨ password.isSome) then
    .error .emptyHost
  let port ← portOf scheme (port.drop 1)
  return { username, password, host, port }

def writtenSegments (special : Bool) (path : List Char) : List String :=
  let slashed := if special then path.map fun c => if c = '\\' then '/' else c else path
  let parts := match slashed with
    | '/' :: rest => splitAtChar '/' rest
    | other => splitAtChar '/' other
  parts.map fun part => String.ofList (percentEncode inPath part)

/-- The path, the query and the fragment of a text behind its authority. -/
def cutTail (text : List Char) : List Char × Option (List Char) × Option (List Char) :=
  let (front, fragment) := text.span (· != '#')
  let (path, query) := front.span (· != '?')
  (path, if query.isEmpty then none else some (query.drop 1),
    if fragment.isEmpty then none else some (fragment.drop 1))

def assemble (scheme : String) (authority : Option Authority) (path : List Char → UrlPath)
    (tail : List Char) : Url :=
  let (pathText, query, fragment) := cutTail tail
  { scheme, authority, path := path pathText
    query := query.map fun text => String.ofList (percentEncode (inQuery (isSpecial scheme)) text)
    fragment := fragment.map fun text => String.ofList (percentEncode inFragment text) }

/-- The path of a URL that has an authority. Only where the scheme is not special may it be
empty. -/
def pathBehindAuthority (special : Bool) (text : List Char) : UrlPath :=
  if text.isEmpty ∧ !special then .segments []
  else .segments (UrlPath.resolve [] (writtenSegments special text))

def isTabOrLineEnd (c : Char) : Bool := c = '\t' || c = '\n' || c = '\r'

/-- Reads a URL. Blanks and controls around it, and tabs and line ends anywhere, do not matter. -/
def parse (text : String) : Except UrlError Url := do
  let isOuter (c : Char) : Bool := c.toNat ≤ 32
  let trimmedText := ((text.toList.dropWhile isOuter).reverse.dropWhile isOuter).reverse
  let input := trimmedText.filter (!isTabOrLineEnd ·)
  let some (scheme, rest) := schemeOf input | .error .noScheme
  let special := isSpecial scheme
  let isSlash (c : Char) : Bool := c = '/' || (special && c = '\\')
  let withAuthority (rest : List Char) : Except UrlError Url := do
    let (front, tail) := rest.span (!endsAuthority special ·)
    let authority ← authorityOf scheme front
    return assemble scheme (some authority) (pathBehindAuthority special) tail
  if scheme = "file" then
    let slashes := (rest.takeWhile isSlash).length
    let (front, tail) := if slashes = 2 then (rest.drop 2).span (!endsAuthority special ·)
      else ([], rest.drop (if 2 < slashes then 2 else 0))
    let host ← if front.isEmpty then .ok (.name "") else Host.parse special front
    let host := if host = .name "localhost" then .name "" else host
    let authority : Authority := { username := "", password := none, host, port := none }
    return assemble scheme (some authority) (pathBehindAuthority true) tail
  else if special then withAuthority (rest.dropWhile isSlash)
  else match rest with
    | '/' :: '/' :: rest => withAuthority rest
    | '/' :: _ => return assemble scheme none (pathBehindAuthority false) rest
    | _ =>
      return assemble scheme none
        (fun path => .opaquePath (String.ofList (percentEncode isControl path))) rest

/-- Adds one segment to the segments of a path. The path of a bare server is empty; a segment `.`
or `..` as given is passed over, while one that only becomes so without its tabs and line ends is
resolved. -/
def addSegment (special : Bool) (path : List String) (segment : String) : List String :=
  if segment = "." ∨ segment = ".." then path
  else
    let kept := segment.toList.filter (!isTabOrLineEnd ·)
    let done := if path = [""] then [] else path
    UrlPath.resolve done [String.ofList (percentEncode (inSegment special) kept)]

/-- The segments of a path without the empty one that a final slash leaves. -/
def withoutFinalSlash (path : List String) : List String :=
  if 2 ≤ path.length ∧ path.getLast? = some "" then path.dropLast else path

/-- The URL with segments added to its path; an opaque path stays as it is. -/
def extend (url : Url) (added : List String) : Url :=
  match url.path with
  | .opaquePath _ => url
  | .segments path =>
    let extended := added.foldl (addSegment (isSpecial url.scheme)) (withoutFinalSlash path)
    { url with path := .segments extended }

/-- The URL with parameters added to its query. An empty query goes away. -/
def addQuery (url : Url) (parameters : List (String × String)) : Url :=
  let front := url.query.getD ""
  let back := formEncode parameters
  let joined := if front.isEmpty ∨ back.isEmpty then front ++ back else front ++ "&" ++ back
  { url with query := if joined.isEmpty then none else some joined }

end Url

end Http

end SearchQuery
