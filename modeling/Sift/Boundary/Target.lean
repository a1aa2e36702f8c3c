import Sift.Api
import Sift.Boundary.Authority
import Sift.Text.Bytes
import Sift.Text.Fields

/-!
# Reading request targets

What clients and servers make of the text of a target before the web interface sees it. A target is
a path with a query, and may have a scheme and an authority before it and a fragment behind it. One
that does not tell both a scheme and a host is relative: its path and its query are asked from the
root of the service. Dot segments are resolved before anything is decoded; then a percent sign and
two hexadecimal digits stand for a byte.
-/

namespace Sift.Api.Target

open Text

/-! ## Faults -/

/-- Why a text is no target, or none that a request can be sent to. -/
inductive Fault
  | tooLong
  /-- A part is too long as it would be sent. -/
  | partTooLong (part : String)
  | unprintable (c : Char) (position : Nat)
  | authority (fault : Authority.Fault)
  /-- A path without an authority before it starts with two slashes. -/
  | doubleSlash
  /-- A path without an authority before it starts with a colon. -/
  | leadingColon
  /-- The name of the host cannot be read. -/
  | name (fault : Host.Label.Fault)
  /-- From a position to another there are characters in the address of the host that are not
  ASCII. -/
  | foreign (c : Char) (first last : Nat)
  deriving DecidableEq, Repr

def Fault.message : Fault → String
  | .tooLong => "URL too long"
  | .partTooLong part => "URL component '" ++ part ++ "' too long"
  | .unprintable c position =>
    "Invalid non-printable ASCII character in URL, " ++ quoted (String.singleton c) ++
      " at position " ++ toString position ++ "."
  | .authority fault => fault.message
  | .doubleSlash => "Relative URLs cannot have a path starting with '//'"
  | .leadingColon => "Relative URLs cannot have a path starting with ':'"
  | .name fault => fault.message
  | .foreign c first last =>
    let characters := if first = last then
        "character '" ++ String.ofList (escaped c) ++ "' in position " ++ toString first
      else "characters in position " ++ toString first ++ "-" ++ toString last
    "'ascii' codec can't encode " ++ characters ++ ": ordinal not in range(128)"

/-- The greatest length of a target, and of each part as it is sent. -/
def maxLength : Nat := 65536

/-! ## The parts of a target -/

/-- The parts of a target as they are written. A query and a fragment may be absent. -/
structure Parts where
  scheme : List Char
  authority : List Char
  path : List Char
  query : Option (List Char)
  fragment : Option (List Char)

/-- The scheme of a target, if it has one, and what is behind it. -/
def splitScheme (cs : List Char) : List Char × List Char :=
  let isSchemeChar (c : Char) : Bool := c.isAlphanum || c == '+' || c == '.' || c == '-'
  let scheme := cs.takeWhile isSchemeChar
  match cs.dropWhile isSchemeChar with
  | ':' :: rest => if scheme.headD 'a' |>.isAlpha then (scheme, rest) else ([], cs)
  | _ => ([], cs)

/-- What is before the first of some characters, and what is from it on. -/
def splitBefore (ends : List Char) (cs : List Char) : List Char × List Char :=
  (cs.takeWhile (! ends.contains ·), cs.dropWhile (! ends.contains ·))

/-- What is behind a character, if a text starts with it. -/
def behind? (c : Char) (cs : List Char) : Option (List Char) :=
  if cs.head? == some c then some (cs.drop 1) else none

def Parts.ofText (cs : List Char) : Parts :=
  let (scheme, rest) := splitScheme cs
  let (authority, rest) := match rest with
    | '/' :: '/' :: rest => splitBefore ['/', '?', '#'] rest
    | rest => ([], rest)
  let (path, rest) := splitBefore ['?', '#'] rest
  let (query, rest) := splitBefore ['#'] rest
  ⟨scheme, authority, path, behind? '?' query, behind? '#' rest⟩

/-- Leaves out the segments `.`, and `..` with the segment before it. -/
def resolveDots (path : List Char) : List Char :=
  let step (kept : List (List Char)) (segment : List Char) : List (List Char) :=
    if segment == ['.'] then kept
    else if segment == ['.', '.'] then
      match kept with
      | [] | [[]] => kept
      | _ :: before => before
    else segment :: kept
  List.intercalate ['/'] ((fields '/' path).foldl step []).reverse

/-- The first character that is not printed, with its position. -/
def unprintable? (cs : List Char) : Option (Char × Nat) :=
  cs.zipIdx.find? fun (c, _) => c.toNat < 0x20 || c.toNat = 0x7F

/-! ## Sending -/

/-- A character that stands for itself in every part of a target but the authority. -/
def isPlain (c : Char) : Bool := 0x20 < c.toNat && c.toNat < 0x7F && !("\"<>".toList.contains c)

def sentPath (cs : List Char) : List Char :=
  percentEncoded (fun c => isPlain c && !("#?`\x7b\x7d".toList.contains c)) cs

def sentQuery (cs : List Char) : List Char := percentEncoded (fun c => isPlain c && c != '#') cs

def sentFragment (cs : List Char) : List Char :=
  percentEncoded (fun c => isPlain c && c != '`') cs

/-- The parts are not too long. -/
def checkLengths : List (String × List Char) → Except Fault Unit
  | [] => .ok ()
  | (name, part) :: rest =>
    if maxLength < part.length then .error (.partTooLong name) else checkLengths rest

/-! ## Queries -/

/-- The fields of a query. A plus stands for a space, and a field that is not given a value has an
empty one. -/
def queryFields (cs : List Char) : List (String × String) :=
  ((fields '&' cs).filter (! ·.isEmpty)).map fun field =>
    let plain (cs : List Char) : String :=
      percentDecoded (cs.map fun c => if c = '+' then ' ' else c)
    (plain (field.takeWhile (· != '=')), plain ((field.dropWhile (· != '=')).drop 1))

/-- The text of a query with given fields. -/
def ofFields (pairs : List (String × String)) : List Char :=
  let text (s : String) : List Char := s.toList.flatMap fun c =>
    if c = ' ' then ['+'] else if c = '%' then ['%', '2', '5'] else percentEncoded isUnreserved [c]
  joined '&' (pairs.map fun (name, value) => text name ++ '=' :: text value)

/-! ## Reading -/

/-- The target tells where it is: by a scheme or by an authority. -/
def Parts.isPlaced (p : Parts) (authority : Authority) : Bool :=
  !p.scheme.isEmpty || !authority.isAbsent

/-- The target tells both a scheme and a host, and is not relative. -/
def Parts.isAbsolute (p : Parts) (authority : Authority) : Bool :=
  !p.scheme.isEmpty && authority.host != .absent

/-- Checks the start of a path. Only behind an authority or a scheme can it be any. -/
def Parts.checkPath (p : Parts) (authority : Authority) : Except Fault Unit := do
  if !p.isPlaced authority then
    if ['/', '/'].isPrefixOf p.path then throw .doubleSlash
    if p.path.head? == some ':' then throw .leadingColon

/-- The path that is asked for. In a relative target that tells where it is, dots are resolved
before it is put behind the root, and dots are resolved again behind that. -/
def Parts.askedPath (p : Parts) (authority : Authority) : List Char :=
  let path := if p.isPlaced authority then resolveDots p.path else p.path
  if p.isAbsolute authority then path else '/' :: path.dropWhile (· == '/')

/-- Checks the lengths of what is sent. An absolute target is taken apart only to put in fields that
are given apart. -/
def Parts.checkSent (p : Parts) (authority : Authority)
    (given : Option (List (String × String))) : Except Fault Unit := do
  let path := ("path", sentPath (p.askedPath authority))
  if p.isAbsolute authority then
    if let some fields := given then
      checkLengths [("authority", authority.text), path, ("query", ofFields fields),
        ("fragment", sentFragment (p.fragment.getD []))]
  else
    checkLengths [path, ("query", sentQuery (p.query.getD []))]
    if let some fields := given then checkLengths [("query", ofFields fields)]

/-- Checks that a host can be asked. -/
def checkHost : Host → Except Fault Unit
  | .absent => .ok ()
  | .plain name => (Host.checkName name).mapError .name
  | .bracketed address =>
    match Host.foreign? (Host.bracketed address).text with
    | some (c, first, last) => .error (.foreign c first last)
    | none => .ok ()

/-- Reads a target, which is relative to the origin `root` unless it tells its own. Fields that are
given apart replace those of its query. -/
def read (root text : String) (given : Option (List (String × String))) :
    Except Fault Target := do
  let cs := text.toList
  if maxLength < cs.length then throw .tooLong
  if let some (c, position) := unprintable? cs then throw (.unprintable c position)
  let parts := Parts.ofText cs
  let scheme := String.ofList parts.scheme
  let authority ← (Authority.read scheme parts.authority).mapError .authority
  parts.checkPath authority
  parts.checkSent authority given
  let path := parts.askedPath authority
  let query := parts.query.getD []
  let queryText := match given with
    | some fields => ofFields fields
    | none => sentQuery query
  if parts.isAbsolute authority then
    checkHost authority.host
    let origin := scheme.toLower ++ "://" ++ String.ofList authority.location
    return ⟨origin, percentDecoded path, String.ofList queryText, given.getD (queryFields query)⟩
  return ⟨root, percentDecoded (resolveDots path), String.ofList queryText,
    given.getD (queryFields query)⟩

end Sift.Api.Target
