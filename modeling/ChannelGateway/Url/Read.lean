import ChannelGateway.Url.Basic
import ChannelGateway.Url.Host

/-!
# Reading URLs

Model of `Url`'s `parse` and `join`. Blanks around a URL and line breaks within it do not count. A
scheme of the web is followed by an authority however many slashes there are; any other scheme has
an authority only after two slashes. Dot segments of a path are resolved while it is read.
-/

namespace ChannelGateway

namespace Url

/-- A text without the characters that do not count in a URL. -/
def significant (s : String) : List Char :=
  let isEdge (c : Char) : Bool := c ≤ ' '
  let trimmed := ((s.toList.dropWhile isEdge).reverse.dropWhile isEdge).reverse
  trimmed.filter fun c => c ≠ '\t' ∧ c ≠ '\n' ∧ c ≠ '\r'

/-- The rest of a scheme, and what follows its colon. -/
def schemeRest (read : List Char) : List Char → Option (String × List Char)
  | ':' :: rest => some (String.ofList read.reverse, rest)
  | c :: rest =>
    if c.isAlphanum ∨ c = '+' ∨ c = '-' ∨ c = '.' then schemeRest (c.toLower :: read) rest
    else none
  | [] => none

/-- A scheme, and what follows its colon. -/
def scheme? : List Char → Option (String × List Char)
  | c :: rest => if c.isAlpha then schemeRest [c.toLower] rest else none
  | [] => none

/-- Whether a character separates segments. -/
def isSlash (kind : SchemeKind) (c : Char) : Bool :=
  c = '/' || (kind.isSpecial && c = '\\')

/-- Whether a character ends an authority. -/
def endsAuthority (kind : SchemeKind) (c : Char) : Bool :=
  isSlash kind c || c = '?' || c = '#'

/-- The characters after the last of a kind, if there is one. -/
def afterLast? (c : Char) (cs : List Char) : Option (List Char) :=
  if c ∈ cs then some (cs.reverse.takeWhile (· ≠ c)).reverse else none

/-- Whether what stands before the last at sign of an authority names a user or a password. -/
def isCredential (cs : List Char) : Bool :=
  cs ≠ [] && cs ≠ [':']

/-- Whether an authority has credentials, and what follows them. -/
def credentials (kind : SchemeKind) (cs : List Char) : Except UrlError (Bool × List Char) :=
  let authority := cs.takeWhile fun c => !endsAuthority kind c
  match afterLast? '@' authority with
  | none => .ok (false, cs)
  | some host =>
    let user := authority.take (authority.length - host.length - 1)
    let rest := cs.drop (user.length + 1)
    if user = [] ∧ host = [] ∧ rest ≠ [] then .error .emptyHost
    else .ok (isCredential user, rest)

/-- A host and what follows it: a colon outside brackets, or the end of the authority. -/
def splitHost (kind : SchemeKind) (inside : Bool) (read : List Char) :
    List Char → List Char × List Char
  | [] => (read.reverse, [])
  | c :: rest =>
    if endsAuthority kind c ∨ (c = ':' ∧ ¬ inside) then (read.reverse, c :: rest)
    else
      splitHost kind (if c = '[' then true else if c = ']' then false else inside) (c :: read) rest

/-- A host in brackets, if it is one. -/
def bracketed? (cs : List Char) : Option (Except UrlError Host) :=
  match cs with
  | '[' :: rest =>
    match rest.reverse with
    | ']' :: inner =>
      match Ip.ipv6? inner.reverse with
      | some pieces => some (.ok (.ipv6 pieces))
      | none => some (.error .badIpv6)
    | _ => some (.error .badIpv6)
  | _ => none

/-- A host of a scheme that has domains. -/
def namedHost (cs : List Char) : Except UrlError Host :=
  match bracketed? cs with
  | some host => host
  | none =>
    match Domain.ofChars? cs with
    | none => .error .badDomainName
    | some [] => .error .emptyHost
    | some name =>
      if Ip.endsInNumber name then
        match Ip.ipv4? name with
        | some address => .ok (.ipv4 address)
        | none => .error .badIpv4
      else .ok (.domain (String.ofList name))

/-- Characters that do not occur in a host of any other scheme. -/
def isForbiddenInHost (c : Char) : Bool :=
  c = '\x00' || c ∈ [' ', '#', '/', ':', '<', '>', '?', '@', '[', '\\', ']', '^', '|']

/-- A host of a scheme that has no domains. -/
def foreignHost (cs : List Char) : Except UrlError Host :=
  match bracketed? cs with
  | some host => host
  | none =>
    if cs.any isForbiddenInHost then .error .badHostCharacter
    else .ok (.domain (String.ofList (Percent.encode Percent.isControl cs)))

/-- A port; none when it is left out or the standard one. -/
def portNumber (scheme : String) (cs : List Char) : Except UrlError (Option UInt16) :=
  let n := numberOf 10 cs
  if cs.all Char.isDigit ∧ n < UInt16.size then
    if cs = [] ∨ standardPort? scheme = some (UInt16.ofNat n) then .ok none
    else .ok (some (UInt16.ofNat n))
  else .error .badPort

/-- Whether a character ends a port. -/
def endsPort (c : Char) : Bool :=
  c ∈ ['/', '\\', '?', '#']

/-- A host, which may be empty in a scheme that has no domains, a port, and what follows them. -/
def hostAndPort (scheme : String) (kind : SchemeKind) (cs : List Char) :
    Except UrlError (Host × Option UInt16 × List Char) := do
  let (name, rest) := splitHost kind false [] cs
  let hasPort := rest.head? = some ':'
  if name = [] ∧ (kind.isSpecial ∨ hasPort) then .error .emptyHost
  else
    let host ← if kind.isSpecial then namedHost name else foreignHost name
    if hasPort then
      let digits := (rest.drop 1).takeWhile fun c => !endsPort c
      return (host, ← portNumber scheme digits, rest.drop (digits.length + 1))
    else return (host, none, rest)

/-- An authority, and what follows it. Credentials need a host. -/
def authority (scheme : String) (kind : SchemeKind) (cs : List Char) :
    Except UrlError (Host × Option UInt16 × List Char) := do
  let (given, rest) ← credentials kind cs
  let (host, port, rest) ← hostAndPort scheme kind rest
  if given ∧ host = .empty then .error .emptyHost else return (host, port, rest)

/-- Whether a segment stands for the one it is in. -/
def isSingleDot (segment : String) : Bool :=
  segment.toLower ∈ [".", "%2e"]

/-- Whether a segment stands for the one above. -/
def isDoubleDot (segment : String) : Bool :=
  segment.toLower ∈ ["..", ".%2e", "%2e.", "%2e%2e"]

/-- Whether a segment names a drive of a file system. -/
def isDrive (segment : String) : Bool :=
  match segment.toList with
  | [letter, c] => letter.isAlpha && (c = ':' || c = '|')
  | _ => false

/-- Go up one segment; a drive is not left. -/
def shorten (path : List String) : List String :=
  if path.getLast?.any isDrive then path else path.dropLast

/-- Append a segment to a path; `isLast` tells whether no slash follows it. -/
def push (kind : SchemeKind) (path : List String) (segment : String) (isLast : Bool) :
    List String :=
  if isDoubleDot segment then
    let path := shorten path
    if isLast then path ++ [""] else path
  else if isSingleDot segment then if isLast then path ++ [""] else path
  else if kind = .file ∧ isDrive segment then
    path ++ [String.ofList (segment.toList.take 1 ++ [':'])]
  else path ++ [segment]

/-- Append the segments of a text to a path. -/
def pushAll (kind : SchemeKind) (path : List String) (read : List Char) :
    List Char → List String
  | [] => push kind path (String.ofList (Percent.encode Percent.inPath read.reverse)) true
  | c :: rest =>
    if isSlash kind c then
      let segment := String.ofList (Percent.encode Percent.inPath read.reverse)
      pushAll kind (push kind path segment false) [] rest
    else pushAll kind path (c :: read) rest

/-- A text in front of a query or a fragment. -/
def beforeQuery (cs : List Char) : List Char :=
  cs.takeWhile fun c => c ≠ '?' ∧ c ≠ '#'

/-- The query after a path. -/
def queryAfter (kind : SchemeKind) (cs : List Char) : Option String :=
  match (cs.drop (beforeQuery cs).length).takeWhile (· ≠ '#') with
  | [] => none
  | _ :: text => some (String.ofList (Percent.encode (Percent.inQuery kind.isSpecial) text))

/-- The fragment after a path and a query. -/
def fragmentAfter (cs : List Char) : Option String :=
  match cs.dropWhile (· ≠ '#') with
  | [] => none
  | _ :: text => some (String.ofList (Percent.encode Percent.inFragment text))

/-- The URL with a path, whose text a query and a fragment may follow. -/
def withPath (scheme : String) (kind : SchemeKind) (host : Option Host) (port : Option UInt16)
    (path : List Char → UrlPath) (cs : List Char) : Url :=
  ⟨scheme, host, port, path (beforeQuery cs), queryAfter kind cs, fragmentAfter cs⟩

/-- The URL with a path of segments after those of a base. -/
def withSegments (scheme : String) (kind : SchemeKind) (host : Option Host) (port : Option UInt16)
    (base : List String) (cs : List Char) : Url :=
  withPath scheme kind host port (fun text => .segments (pushAll kind base [] text)) cs

/-- The characters after a slash, if there is one in front. -/
def afterSlash (kind : SchemeKind) (cs : List Char) : List Char :=
  match cs with
  | c :: rest => if isSlash kind c then rest else cs
  | [] => []

/-- A URL after the slashes before its authority. -/
def afterSlashes (scheme : String) (kind : SchemeKind) (cs : List Char) :
    Except UrlError Url := do
  let (host, port, rest) ← authority scheme kind cs
  if kind = .other ∧ beforeQuery rest = [] then
    return withPath scheme kind (some host) port (fun _ => .segments []) rest
  else return withSegments scheme kind (some host) port [] (afterSlash kind rest)

/-- The host of a file: empty on the machine itself. -/
def fileHost (cs : List Char) : Except UrlError Host :=
  if cs = [] then .ok .empty
  else
    match namedHost cs with
    | .ok (.domain "localhost") => .ok .empty
    | other => other

/-- The URL of a file on a host. -/
def onHost (host : Host) (cs : List Char) : Url :=
  withSegments "file" .file (some host) none [] cs

/-- A URL of a file, after its scheme. Two slashes are followed by a host, unless it names a
drive. -/
def file (cs : List Char) : Except UrlError Url :=
  match cs with
  | a :: b :: rest =>
    if isSlash .file a ∧ isSlash .file b then
      let name := rest.takeWhile fun c => !endsAuthority .file c
      if isDrive (String.ofList name) then .ok (onHost .empty rest)
      else do
        let host ← fileHost name
        return onHost host (afterSlash .file (rest.drop name.length))
    else .ok (onHost .empty (afterSlash .file cs))
  | _ => .ok (onHost .empty (afterSlash .file cs))

/-- A URL after the colon of its scheme. -/
def afterScheme (scheme : String) (cs : List Char) : Except UrlError Url :=
  match SchemeKind.ofScheme scheme with
  | .file => file cs
  | .web => afterSlashes scheme .web (cs.dropWhile (isSlash .web))
  | .other =>
    match cs with
    | '/' :: '/' :: rest => afterSlashes scheme .other rest
    | '/' :: rest => .ok (withSegments scheme .other none none [] rest)
    | _ =>
      let plain (text : List Char) : UrlPath :=
        .plain (String.ofList (Percent.encode Percent.isControl text))
      .ok (withPath scheme .other none none plain cs)

/-- Read a URL. -/
def read (s : String) : Except UrlError Url :=
  match scheme? (significant s) with
  | some (scheme, rest) => afterScheme scheme rest
  | none => .error .relativeWithoutBase

/-- The URL that a relative path leads to from a base: it takes the place of the last segment. -/
def join (base : Url) (path : String) : Except UrlError Url :=
  match base.path with
  | .plain _ => .error .baseWithoutPath
  | .segments list =>
    .ok (withSegments base.scheme base.kind base.host base.port list.dropLast path.toList)

end Url

end ChannelGateway
