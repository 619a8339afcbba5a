import ProofKey.IpAddress
import ProofKey.Text.Pieces
import ProofKey.Text.Quoted

/-!
# URIs in five parts

A text is split into scheme, authority, path, query and fragment; a part that is missing is empty.
Control characters and spaces before a URI, and tabs and line ends within it, are dropped. Only its
authority can make a text no URI: brackets in it have to enclose the host, which is then an IP
address of version 6 or later, and no character of it may be a form of one that ends an authority
or parts it.
-/

namespace ProofKey

/-- The parts of a URI, without the marks that set them off. -/
@[ext]
structure Uri where
  scheme : Text
  authority : Text
  path : Text
  query : Text
  fragment : Text
  deriving DecidableEq, Repr

inductive UriError where
  /-- The authority has only one kind of bracket, or more than a port beside the bracketed host. -/
  | misplacedBrackets
  /-- The address has the mark of later versions and does not name one. -/
  | malformedVersion
  /-- IPv4 addresses stand without brackets. -/
  | bracketedV4
  /-- The host in brackets is no IP address. -/
  | notAnAddress (host : Text)
  /-- The authority has a character with a mark in its normal form. -/
  | hiddenMark (authority : Text)
  deriving DecidableEq, Repr

def UriError.message : UriError → Text
  | misplacedBrackets => "Invalid IPv6 URL"
  | malformedVersion => "IPvFuture address is invalid"
  | bracketedV4 => "An IPv4 address cannot be in brackets"
  | notAnAddress host => Text.quoted host ++ " does not appear to be an IPv4 or IPv6 address"
  | hiddenMark authority =>
      "netloc '" ++ authority ++ "' contains invalid characters under NFKC normalization"

namespace Uri

/-- Tabs and line ends may stand anywhere in a URI and mean nothing. -/
def isIgnored (c : CodePoint) : Bool :=
  c = CodePoint.ofChar '\t' || c = CodePoint.ofChar '\n' || c = CodePoint.ofChar '\r'

def isSchemeChar (c : CodePoint) : Bool :=
  c.isLetter || c.isDigit || c = CodePoint.ofChar '+' || c = CodePoint.ofChar '-' ||
    c = CodePoint.ofChar '.'

def endsAuthority (c : CodePoint) : Bool :=
  c = CodePoint.ofChar '/' || c = CodePoint.ofChar '?' || c = CodePoint.ofChar '#'

/-- Without what a URI may have before it and within it. -/
def clean (t : Text) : Text := (t.dropWhile fun c => c.value ≤ 0x20).filter fun c => !isIgnored c

/-- The scheme in small letters, and the rest after its colon. A scheme starts with a letter. -/
def splitScheme (t : Text) : Text × Text :=
  match t.cut ':' with
  | (first :: more, some rest) =>
      if first.isLetter && (first :: more).all isSchemeChar then
        ((first :: more).map CodePoint.toLower, rest)
      else ([], t)
  | _ => ([], t)

/-- The rest after two slashes, if a text starts with them. -/
def afterSlashes? : Text → Option Text
  | a :: b :: rest =>
      if a = CodePoint.ofChar '/' ∧ b = CodePoint.ofChar '/' then some rest else none
  | _ => none

def splitAuthority (t : Text) : Text × Text :=
  match afterSlashes? t with
  | some rest =>
      (rest.takeWhile fun c => !endsAuthority c, rest.dropWhile fun c => !endsAuthority c)
  | none => ([], t)

/-- The host of an authority with brackets. Nothing stands before its bracket but what an `@` ends,
and nothing after it but a port. Brackets before the last `@` leave the host without any. -/
def bracketedHost (authority : Text) : Except UriError Text :=
  let hostAndPort := Text.afterLast '@' authority
  match hostAndPort.cut '[' with
  | (before, some bracketed) =>
      let (host, after) := bracketed.cut ']'
      if before.isEmpty && (after.getD []).head?.all (· == CodePoint.ofChar ':') then .ok host
      else .error .misplacedBrackets
  | (_, none) => .ok (hostAndPort.cut ':').1

/-- Only addresses of version 6 and later stand in brackets. -/
def checkBracketed (host : Text) : Except UriError Unit :=
  match host.afterMark? 'v' with
  | some rest => if IpAddress.isVersioned rest then .ok () else .error .malformedVersion
  | none =>
      if IpAddress.isV4 host then .error .bracketedV4
      else if IpAddress.isV6 host then .ok ()
      else .error (.notAnAddress host)

/-- What an authority with brackets has to keep to. -/
def checkBrackets (authority : Text) : Except UriError Unit :=
  match authority.contains (CodePoint.ofChar '['), authority.contains (CodePoint.ofChar ']') with
  | false, false => .ok ()
  | true, true => (bracketedHost authority).bind checkBracketed
  | _, _ => .error .misplacedBrackets

/-- The characters beyond ASCII whose normal form (NFKC of Unicode 14.0) has one of `/`, `?`, `#`,
`@` and `:`, as `℀` has, which is a form of `a/c`. -/
def hidesMark (c : CodePoint) : Bool :=
  c.inRanges [(0x2047, 0x2049), (0x2100, 0x2101), (0x2105, 0x2106), (0x2A74, 0x2A74),
    (0xFE13, 0xFE13), (0xFE16, 0xFE16), (0xFE55, 0xFE56), (0xFE5F, 0xFE5F), (0xFE6B, 0xFE6B),
    (0xFF03, 0xFF03), (0xFF0F, 0xFF0F), (0xFF1A, 0xFF1A), (0xFF1F, 0xFF20)]

def checkAuthority (authority : Text) : Except UriError Unit :=
  (checkBrackets authority).bind fun _ =>
    if authority.any hidesMark then .error (.hiddenMark authority) else .ok ()

/-- The parts of a text, be its authority one that a URI can have or not. -/
def parts (t : Text) : Uri :=
  let (scheme, afterScheme) := splitScheme (clean t)
  let (authority, afterAuthority) := splitAuthority afterScheme
  let (beforeFragment, fragment) := afterAuthority.cut '#'
  let (path, query) := beforeFragment.cut '?'
  ⟨scheme, authority, path, query.getD [], fragment.getD []⟩

def parse (t : Text) : Except UriError Uri :=
  let uri := parts t
  (checkAuthority uri.authority).map fun _ => uri

/-- The schemes whose URIs are written with an authority even where it is empty. -/
def authoritySchemes : List Text :=
  ["ftp", "http", "gopher", "nntp", "telnet", "imap", "wais", "file", "mms", "https", "shttp",
    "snews", "prospero", "rtsp", "rtspu", "rsync", "svn", "svn+ssh", "sftp", "nfs", "git",
    "git+ssh", "ws", "wss"]

/-- Whether the written form has an authority: if there is one, or the scheme asks for it and the
path does not already start with two slashes. -/
def showsAuthority (u : Uri) : Bool :=
  !u.authority.isEmpty ||
    (authoritySchemes.contains u.scheme && (afterSlashes? u.path).isNone)

/-- The path as it is written behind an authority. -/
def rootedPath (path : Text) : Text :=
  match path with
  | [] => []
  | c :: rest => if c = CodePoint.ofChar '/' then c :: rest else '/' :: c :: rest

/-- A part behind its mark; an empty part is not written. -/
def marked (mark : CodePoint) (part : Text) : Text := if part.isEmpty then [] else mark :: part

def schemeText (u : Uri) : Text := if u.scheme.isEmpty then [] else u.scheme ++ ":"

def hierText (u : Uri) : Text :=
  if u.showsAuthority then "//" ++ u.authority ++ rootedPath u.path else u.path

def render (u : Uri) : Text :=
  u.schemeText ++ u.hierText ++ marked '?' u.query ++ marked '#' u.fragment

end Uri

end ProofKey
