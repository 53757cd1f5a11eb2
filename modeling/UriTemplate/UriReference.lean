import UriTemplate.PercentEncoding

/-
This file splits a text into the components of a URI reference and checks each of them.
-/

namespace UriTemplate

structure UriReference where
  scheme : Option Text
  authority : Option Text
  path : Text
  query : Option Text
  fragment : Option Text
  deriving DecidableEq

namespace UriReference

/-- A run of code points outside the delimiters, and what follows it. -/
def splitBefore (delimiters : Text) (text : Text) : Text × Text :=
  (text.takeWhile fun codePoint => !delimiters.contains codePoint,
    text.dropWhile fun codePoint => !delimiters.contains codePoint)

/-- A component that a mark introduces and that runs up to the delimiters. -/
def splitMarked (mark : CodePoint) (delimiters : Text) : Text → Option Text × Text
  | [] => (none, [])
  | first :: rest =>
      if first = mark then
        (some (splitBefore delimiters rest).1, (splitBefore delimiters rest).2)
      else (none, first :: rest)

/-- A scheme is a non-empty run before a colon that no other delimiter precedes. -/
def splitScheme (text : Text) : Option Text × Text :=
  let (run, rest) := splitBefore ":/?#" text
  if run ≠ [] && rest.head? = some (CodePoint.ofChar ':') then (some run, rest.drop 1)
  else (none, text)

def splitAuthority (text : Text) : Option Text × Text :=
  if text.startsWith "//" then
    (some (splitBefore "/?#" (text.drop 2)).1, (splitBefore "/?#" (text.drop 2)).2)
  else (none, text)

/-- Every text has exactly one such split. -/
def split (text : Text) : UriReference :=
  let (scheme, afterScheme) := splitScheme text
  let (authority, afterAuthority) := splitAuthority afterScheme
  let (path, afterPath) := splitBefore "?#" afterAuthority
  let (query, afterQuery) := splitMarked '?' "#" afterPath
  let (fragment, _) := splitMarked '#' "" afterQuery
  ⟨scheme, authority, path, query, fragment⟩

/-- The text consists of triplets and of code points that satisfy a test. -/
def consistsOf (test : CodePoint → Bool) : Text → Bool
  | [] => true
  | first :: second :: third :: rest =>
      if PercentEncoding.isTriplet first second third then consistsOf test rest
      else test first && consistsOf test (second :: third :: rest)
  | first :: rest => test first && consistsOf test rest

/-- One line feed at the very end is not looked at. -/
def upToFinalLineFeed (accepts : Text → Bool) (text : Text) : Bool :=
  accepts text ||
    (text.getLast? = some (CodePoint.ofChar '\n') && accepts text.dropLast)

def isSchemeText : Text → Bool
  | [] => false
  | first :: rest =>
      first.isLetter && rest.all fun codePoint =>
        codePoint.isLetter || codePoint.isDigit || (Text.ofString "+.-").contains codePoint

def isRegNameCharacter (codePoint : CodePoint) : Bool :=
  codePoint.isUnreserved || codePoint.isSubDelimiter

def isUserinfoCharacter (codePoint : CodePoint) : Bool :=
  isRegNameCharacter codePoint || codePoint = ':'

def isSegmentCharacter (codePoint : CodePoint) : Bool :=
  isUserinfoCharacter codePoint || codePoint = '@'

def isPathCharacter (codePoint : CodePoint) : Bool :=
  isSegmentCharacter codePoint || codePoint = '/'

def isQueryCharacter (codePoint : CodePoint) : Bool :=
  isPathCharacter codePoint || codePoint = '?'

def isNonempty (test : CodePoint → Bool) (text : Text) : Bool :=
  !text.isEmpty && text.all test

/-- An address of hexadecimal digits, colons and dots, or a `v`, a hexadecimal version, a dot
and an address of that version. -/
def isAddress (text : Text) : Bool :=
  isNonempty (fun codePoint =>
      codePoint.isHexDigit || codePoint = ':' || codePoint = '.') text ||
    match text with
    | [] => false
    | first :: rest =>
        (first = 'v' || first = 'V') &&
          match Text.cut '.' rest with
          | (version, some address) =>
              isNonempty CodePoint.isHexDigit version && isNonempty isUserinfoCharacter address
          | (_, none) => false

/-- The component that breaks the grammar, with the text it has. -/
inductive Fault
  | scheme (text : Text)
  | userinfo (text : Text)
  | unterminatedAddress
  | host (text : Text)
  | authority (text : Text)
  | port (text : Text)
  | path (text : Text)
  | colonInFirstSegment
  | query (text : Text)
  | fragment (text : Text)
  deriving DecidableEq

def Fault.component : Fault → Text
  | scheme _ => "scheme"
  | userinfo _ => "userinfo"
  | unterminatedAddress => "host"
  | host _ => "host"
  | authority _ => "authority"
  | port _ => "port"
  | path _ => "path"
  | colonInFirstSegment => "path"
  | query _ => "query"
  | fragment _ => "fragment"

def Fault.detail : Fault → Text
  | scheme text => text
  | userinfo text => text
  | unterminatedAddress => "unterminated IP literal"
  | host text => text
  | authority text => text
  | port text => text
  | path text => text
  | colonInFirstSegment => "':' in the first segment of a relative path"
  | query text => text
  | fragment text => text

def Fault.message (fault : Fault) : Text :=
  let detail : Text := " (" ++ fault.detail ++ ")"
  "Expanded result is not a valid URI reference: invalid " ++ fault.component ++
    (if fault.detail.isEmpty then [] else detail)

def require (condition : Bool) (fault : Fault) : Except Fault Unit :=
  if condition then .ok () else .error fault

def isPort (text : Text) : Bool :=
  text.all CodePoint.isDigit

def checkPort (port : Text) : Except Fault Unit :=
  require (upToFinalLineFeed isPort port) (.port port)

/-- A host is a name, or an address between square brackets, before an optional port. -/
def checkHostAndPort (authority hostAndPort : Text) : Except Fault Unit :=
  if hostAndPort.head? = some (CodePoint.ofChar '[') then
    match Text.cut ']' (hostAndPort.drop 1) with
    | (_, none) => .error .unterminatedAddress
    | (address, some rest) => do
        require (isAddress address) (.host ("[" ++ address ++ "]"))
        require (rest.isEmpty || rest.head? = some (CodePoint.ofChar ':')) (.authority authority)
        checkPort (rest.drop 1)
  else do
    let (host, port) := Text.cut ':' hostAndPort
    require (upToFinalLineFeed (consistsOf isRegNameCharacter) host) (.host host)
    checkPort (port.getD [])

def checkAuthority (authority : Text) : Except Fault Unit :=
  match Text.cut '@' authority with
  | (_, none) => checkHostAndPort authority authority
  | (userinfo, some hostAndPort) => do
      require (upToFinalLineFeed (consistsOf isUserinfoCharacter) userinfo) (.userinfo userinfo)
      checkHostAndPort authority hostAndPort

def checkOptional (component : Option Text) (check : Text → Except Fault Unit) :
    Except Fault Unit :=
  match component with
  | some text => check text
  | none => .ok ()

/-- A path without scheme and authority must not look like a scheme. -/
def hasColonFirst (reference : UriReference) : Bool :=
  reference.scheme.isNone && reference.authority.isNone &&
    (Text.cut '/' reference.path).1.contains (CodePoint.ofChar ':')

/-- The components are checked from left to right. -/
def check (reference : UriReference) : Except Fault Unit := do
  checkOptional reference.scheme fun text =>
    require (upToFinalLineFeed isSchemeText text) (.scheme text)
  checkOptional reference.authority checkAuthority
  require (upToFinalLineFeed (consistsOf isPathCharacter) reference.path)
    (.path reference.path)
  require (!reference.hasColonFirst) .colonInFirstSegment
  checkOptional reference.query fun text =>
    require (upToFinalLineFeed (consistsOf isQueryCharacter) text) (.query text)
  checkOptional reference.fragment fun text =>
    require (upToFinalLineFeed (consistsOf isQueryCharacter) text) (.fragment text)

/-- A text that is no URI reference, and what is wrong with it. -/
structure Invalid where
  uri : Text
  fault : Fault
  deriving DecidableEq

def validate (text : Text) : Except Invalid Text :=
  match (split text).check with
  | .ok () => .ok text
  | .error fault => .error ⟨text, fault⟩

end UriReference

end UriTemplate
