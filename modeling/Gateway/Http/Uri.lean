import Gateway.Decimal.Reading

namespace Gateway.Http

/-! Uniform resource identifiers as a gateway reads them: a path, an authority
alone, an asterisk, or an absolute form with scheme, authority and path. A
fragment is dropped. The path may be empty; the query is the text after the
first question mark. -/

inductive UriFault where
  | empty
  | tooLong
  | invalidCharacter
  | invalidAuthority
  | invalidFormat
  | schemeTooLong
  deriving Repr, DecidableEq

def UriFault.message : UriFault → String
  | .empty => "empty string"
  | .tooLong => "uri too long"
  | .invalidCharacter => "invalid uri character"
  | .invalidAuthority => "invalid authority"
  | .invalidFormat => "invalid format"
  | .schemeTooLong => "scheme too long"

structure Uri where
  scheme : Option String := none
  authority : Option String := none
  path : String := ""
  query : Option String := none
  deriving Repr, DecidableEq

namespace Uri

def maximalSize : Nat := 65534

def maximalSchemeSize : Nat := 64

def isAlphanumeric (character : Char) : Bool :=
  character.isAlpha || Decimal.isDigit character

def isSchemeCharacter (character : Char) : Bool :=
  isAlphanumeric character || "+-.~".toList.contains character

/-! The characters of an authority that carry no meaning of their own. -/

def isAuthorityCharacter (character : Char) : Bool :=
  isAlphanumeric character || "!$&'()*+,-.;=_~".toList.contains character

def isPathCharacter (character : Char) : Bool :=
  let code := character.toNat
  code == 0x21 || (0x24 ≤ code && code ≤ 0x3b) || code == 0x3d ||
    (0x40 ≤ code && code ≤ 0x5f) ||
    (0x61 ≤ code && code ≤ 0x7a) || code == 0x7c || code == 0x7e ||
    character == '"' || character == '\x7b' || character == '\x7d'

def isQueryCharacter (character : Char) : Bool :=
  let code := character.toNat
  code == 0x21 || (0x24 ≤ code && code ≤ 0x3b) || code == 0x3d ||
    (0x3f ≤ code && code ≤ 0x7e)

/-! The scheme before `://`, with what follows. The two common schemes are
recognised in any case and held in lower case; another one is held as written. -/

inductive SchemeSplit where
  | absent
  | present (scheme : String) (rest : List Char)
  | tooLong

def knownScheme? (characters : List Char) : Option (String × List Char) :=
  if (characters.take 7).map Char.toLower = "http://".toList then
    some ("http", characters.drop 7)
  else if (characters.take 8).map Char.toLower = "https://".toList then
    some ("https", characters.drop 8)
  else none

def splitScheme (characters : List Char) : SchemeSplit :=
  match knownScheme? characters with
  | some (scheme, rest) => .present scheme rest
  | none =>
      let scheme := characters.takeWhile isSchemeCharacter
      match characters.dropWhile isSchemeCharacter with
      | ':' :: '/' :: '/' :: rest =>
          if scheme.isEmpty && rest.isEmpty then .absent
          else if maximalSchemeSize < scheme.length then .tooLong
          else .present (String.ofList scheme) rest
      | _ => .absent

/-! An authority ends before a slash, a question mark or a number sign. Colons
are counted afresh after user information and after a bracketed host, and a
percent sign is allowed only before those points. -/

def endsAuthority (character : Char) : Bool :=
  character == '/' || character == '?' || character == '#'

structure AuthorityScan where
  colons : Nat := 0
  opened : Bool := false
  closed : Bool := false
  percent : Bool := false
  deriving Repr, DecidableEq

def AuthorityScan.step (scan : AuthorityScan) (character : Char) :
    Except UriFault AuthorityScan :=
  match character with
  | ':' =>
      if 8 ≤ scan.colons then .error .invalidAuthority
      else .ok { scan with colons := scan.colons + 1 }
  | '[' =>
      if scan.percent || scan.opened then .error .invalidAuthority
      else .ok { scan with opened := true }
  | ']' =>
      if !scan.opened || scan.closed then .error .invalidAuthority
      else .ok { scan with closed := true, colons := 0, percent := false }
  | '@' => .ok { scan with colons := 0, percent := false }
  | '%' => .ok { scan with percent := true }
  | _ => if isAuthorityCharacter character then .ok scan else .error .invalidCharacter

def AuthorityScan.run : AuthorityScan → List Char → Except UriFault AuthorityScan
  | scan, [] => .ok scan
  | scan, character :: rest => do
      let scan ← scan.step character
      scan.run rest

def checkAuthority (authority : List Char) : Except UriFault Unit := do
  let scan ← AuthorityScan.run {} authority
  if scan.opened != scan.closed || 1 < scan.colons || authority.getLast? = some '@' ||
      scan.percent then
    .error .invalidAuthority
  else .ok ()

/-! Separates the authority, which may be empty, from what follows it. -/

def splitAuthority (characters : List Char) :
    Except UriFault (List Char × List Char) := do
  let authority := characters.takeWhile (fun character => !endsAuthority character)
  checkAuthority authority
  .ok (authority, characters.dropWhile (fun character => !endsAuthority character))

/-! Path and query, up to a fragment. -/

def readTarget (characters : List Char) :
    Except UriFault (List Char × Option (List Char)) :=
  let target := characters.takeWhile (fun character => character != '#')
  let path := target.takeWhile (fun character => character != '?')
  let query :=
    match target.dropWhile (fun character => character != '?') with
    | [] => none
    | _ :: query => some query
  if path.all isPathCharacter && (query.getD []).all isQueryCharacter then
    .ok (path, query)
  else .error .invalidCharacter

def ofTarget (scheme authority : Option String) (characters : List Char) :
    Except UriFault Uri := do
  let (path, query) ← readTarget characters
  .ok { scheme, authority, path := String.ofList path, query := query.map String.ofList }

def parseFull (characters : List Char) : Except UriFault Uri :=
  match splitScheme characters with
  | .tooLong => .error .schemeTooLong
  | .absent => do
      let (authority, rest) ← splitAuthority characters
      if rest.isEmpty then .ok { authority := some (String.ofList authority) }
      else .error .invalidFormat
  | .present scheme target => do
      let (authority, rest) ← splitAuthority target
      if authority.isEmpty then .error .invalidFormat
      else ofTarget (some scheme) (some (String.ofList authority)) rest

/-! An authority that stands alone as text, as a host header holds it. -/

def parseAuthority (characters : List Char) : Except UriFault (List Char) := do
  if characters.isEmpty then .error .empty
  else
    let (authority, rest) ← splitAuthority characters
    if rest.isEmpty then .ok authority else .error .invalidCharacter

def parse (text : String) : Except UriFault Uri :=
  if maximalSize < text.utf8ByteSize then .error .tooLong
  else
    match text.toList with
    | [] => .error .empty
    | ['*'] => .ok { path := "*" }
    | '/' :: rest => ofTarget none none ('/' :: rest)
    | [character] => do
        let authority ← parseAuthority [character]
        .ok { authority := some (String.ofList authority) }
    | characters => parseFull characters

def querySuffix (query : Option String) : String :=
  match query with
  | none => ""
  | some query => "?" ++ query

/-! Path and query as they are passed on: a slash if there is neither. -/

def target (uri : Uri) : String :=
  if uri.path.isEmpty && uri.query.isNone then "/"
  else uri.path ++ querySuffix uri.query

/-! Path and query of a URI that has any: one that is more than an authority. -/

def target? (uri : Uri) : Option String :=
  if uri.scheme.isSome || uri.authority.isNone then some uri.target else none

def shownPath (uri : Uri) : String :=
  if uri.path.isEmpty && uri.scheme.isSome then "/" else uri.path

def render (uri : Uri) : String :=
  let scheme :=
    match uri.scheme with
    | none => ""
    | some scheme => scheme ++ "://"
  scheme ++ uri.authority.getD "" ++ uri.shownPath ++ querySuffix uri.query

/-! The host of an authority: what follows the user information, up to the
port, or the bracketed address. -/

def afterUser (authority : List Char) : List Char :=
  (authority.reverse.takeWhile (fun character => character != '@')).reverse

def hostOf (authority : List Char) : List Char :=
  let host := afterUser authority
  if host.head? = some '[' then
    host.takeWhile (fun character => character != ']') ++ [']']
  else host.takeWhile (fun character => character != ':')

def host? (uri : Uri) : Option String :=
  uri.authority.map (fun authority => String.ofList (hostOf authority.toList))

end Uri

end Gateway.Http
