import ChannelGateway.Text.Scan

/-!
# URLs

Model of `Url`, as far as clients and webhooks use it: its parts (scheme, host, port, path, query
and fragment; credentials are no part of it), its text, and whether a message can be sent to it. A
URL with a host, or with a path that begins with a slash, can be a base for relative ones; the path
of any other is a plain text.
-/

namespace ChannelGateway

/-- What is wrong with a URL. -/
inductive UrlError where
  | emptyHost
  | badDomainName
  | badPort
  | badIpv4
  | badIpv6
  | badHostCharacter
  | relativeWithoutBase
  /-- A relative URL whose base has a plain path. -/
  | baseWithoutPath
  deriving DecidableEq, Repr, Inhabited

/-- The wording of a defect. -/
def UrlError.text : UrlError → String
  | emptyHost => "empty host"
  | badDomainName => "invalid international domain name"
  | badPort => "invalid port number"
  | badIpv4 => "invalid IPv4 address"
  | badIpv6 => "invalid IPv6 address"
  | badHostCharacter => "invalid domain character"
  | relativeWithoutBase => "relative URL without a base"
  | baseWithoutPath => "relative URL with a cannot-be-a-base base"

/-- How a scheme shapes its URLs. -/
inductive SchemeKind where
  /-- A host is required, backslashes are slashes, and there is a standard port. -/
  | web
  | file
  | other
  deriving DecidableEq, Repr, Inhabited

/-- The standard ports of schemes. -/
def standardPorts : List (String × UInt16) :=
  [("http", 80), ("https", 443), ("ws", 80), ("wss", 443), ("ftp", 21)]

/-- The standard port of a scheme. -/
def standardPort? (scheme : String) : Option UInt16 :=
  (standardPorts.find? fun entry => entry.1 = scheme).map Prod.snd

/-- How a scheme shapes its URLs. -/
def SchemeKind.ofScheme (scheme : String) : SchemeKind :=
  if scheme = "file" then file
  else if (standardPort? scheme).isSome then web
  else other

/-- Whether backslashes count as slashes. -/
def SchemeKind.isSpecial (k : SchemeKind) : Bool :=
  k ≠ other

/-- A host. -/
inductive Host where
  | domain (name : String)
  | ipv4 (address : Nat)
  /-- Eight pieces of sixteen bits. -/
  | ipv6 (pieces : List Nat)
  deriving DecidableEq, Repr, Inhabited

/-- The host that is not told. -/
def Host.empty : Host := .domain ""

/-- A path. -/
inductive UrlPath where
  /-- A text that is not divided. -/
  | plain (text : String)
  /-- Segments, each after a slash. -/
  | segments (list : List String)
  deriving DecidableEq, Repr, Inhabited

/-- The text of a path. -/
def UrlPath.text : UrlPath → String
  | plain text => text
  | segments list => String.join (list.map fun segment => "/" ++ segment)

/-- A URL. -/
structure Url where
  scheme : String
  /-- The host; none when the scheme is followed by the path. -/
  host : Option Host
  port : Option UInt16
  path : UrlPath
  query : Option String
  fragment : Option String
  deriving DecidableEq, Repr, Inhabited

namespace Url

/-- How the scheme shapes the URL. -/
def kind (u : Url) : SchemeKind :=
  .ofScheme u.scheme

/-- Whether the URL can be a base. -/
def canBeBase (u : Url) : Bool :=
  match u.path with
  | .plain _ => false
  | .segments _ => true

/-- The URL with a slash at the end of its path. -/
def asDirectory (u : Url) : Url :=
  match u.path with
  | .plain text =>
    if text.endsWith "/" then u else { u with path := .plain (text ++ "/") }
  | .segments list =>
    if list.getLast? = some "" then u else { u with path := .segments (list ++ [""]) }

/-- The target of a request: path and query. -/
def target (u : Url) : String :=
  match u.query with
  | some query => u.path.text ++ "?" ++ query
  | none => u.path.text

end Url

end ChannelGateway

namespace ChannelGateway.Percent

/-!
## Percent encoding

An octet is written as a percent sign and two hexadecimal digits. Which characters are written so
depends on where they stand.
-/

/-- An octet as a percent sign and two digits. -/
def encodeOctet (b : UInt8) : List Char :=
  let digit (n : Nat) : Char := (Nat.digitChar n).toUpper
  ['%', digit (b.toNat / 16), digit (b.toNat % 16)]

/-- A text in which the characters of a class are encoded. -/
def encode (p : Char → Bool) (cs : List Char) : List Char :=
  cs.flatMap fun c =>
    if p c then (String.ofList [c]).toUTF8.toList.flatMap encodeOctet else [c]

/-- Control characters and everything outside ASCII. -/
def isControl (c : Char) : Bool :=
  c < ' ' || '~' < c

/-- What is encoded in paths. -/
def inPath (c : Char) : Bool :=
  isControl c || c ∈ [' ', '"', '#', '<', '>', '?', '`', '\x7b', '\x7d']

/-- What is encoded in queries. -/
def inQuery (special : Bool) (c : Char) : Bool :=
  isControl c || c ∈ [' ', '"', '#', '<', '>'] || (special && c = '\'')

/-- What is encoded in fragments. -/
def inFragment (c : Char) : Bool :=
  isControl c || c ∈ [' ', '"', '<', '>', '`']

/-- Octets with every percent sign that two digits follow replaced by the octet they denote. -/
def decodeOctets : List UInt8 → List UInt8
  | 0x25 :: a :: b :: rest =>
    match hexDigitValue? (Char.ofUInt8 a), hexDigitValue? (Char.ofUInt8 b) with
    | some x, some y => (x * 16 + y).toUInt8 :: decodeOctets rest
    | _, _ => 0x25 :: decodeOctets (a :: b :: rest)
  | b :: rest => b :: decodeOctets rest
  | [] => []

/-- A text with its encoded characters decoded; none when the octets are no text. -/
def decode? (cs : List Char) : Option (List Char) :=
  let octets := (String.ofList cs).toUTF8.toList
  (String.fromUTF8? (ByteArray.mk (decodeOctets octets).toArray)).map String.toList

end ChannelGateway.Percent

namespace ChannelGateway

/-!
## Writing

The text of a URL has its parts one after the other. A port is written when the URL has one of its
own. In an IPv6 address the first of the longest runs of zero pieces is left out, unless no two zero
pieces stand together. A URL that is too long, or whose host has characters that servers do not
take, cannot be sent to.
-/

/-- The pieces of an IPv6 address in hexadecimal digits, with colons between them. -/
def Host.piecesText (pieces : List Nat) : String :=
  ":".intercalate (pieces.map fun n => String.ofList (Nat.toDigits 16 n))

/-- An IPv6 address. -/
def Host.ipv6Text (pieces : List Nat) : String :=
  let zerosFrom (i : Nat) : Nat := ((pieces.drop i).takeWhile (· = 0)).length
  let longest := ((List.range pieces.length).map zerosFrom).foldl max 0
  match (List.range pieces.length).find? fun i => 2 ≤ longest ∧ zerosFrom i = longest with
  | some i => piecesText (pieces.take i) ++ "::" ++ piecesText (pieces.drop (i + longest))
  | none => piecesText pieces

/-- The text of a host. -/
def Host.text : Host → String
  | domain name => name
  | ipv4 a => s!"{a / 16777216}.{a / 65536 % 256}.{a / 256 % 256}.{a % 256}"
  | ipv6 pieces => "[" ++ ipv6Text pieces ++ "]"

namespace Url

/-- What stands between the scheme and the path. A path without a host in front is not taken for
one. -/
def authorityText (u : Url) : String :=
  let port := match u.port with
    | some port => s!":{port.toNat}"
    | none => ""
  match u.host with
  | some host => "//" ++ host.text ++ port
  | none => if u.canBeBase && "//".isPrefixOf u.path.text then "/." else ""

/-- The text of a URL. -/
def text (u : Url) : String :=
  let fragment := match u.fragment with
    | some fragment => "#" ++ fragment
    | none => ""
  u.scheme ++ ":" ++ u.authorityText ++ u.target ++ fragment

/-- The greatest length of a URL that can be sent to, in octets. -/
def lengthLimit : Nat := 65534

/-- Whether a host can stand in a request: some names that a URL may hold cannot. -/
def hasSendableHost (u : Url) : Bool :=
  match u.host with
  | some (.domain name) => !name.toList.any fun c => c ∈ ['"', '`', '\x7b', '\x7d']
  | some _ => true
  | none => false

/-- Whether an HTTP request can be made to the URL. -/
def isSendable (u : Url) : Bool :=
  u.hasSendableHost && (u.scheme = "http" || u.scheme = "https") &&
    u.text.utf8ByteSize ≤ lengthLimit

end Url

end ChannelGateway
