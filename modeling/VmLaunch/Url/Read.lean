import VmLaunch.Decimal.Text
import VmLaunch.Url.Basic
import VmLaunch.Url.Host

/-!
# Reading URLs

A text is first cut at its fragment and its query. What is left is an address of
its own when it begins with a scheme; otherwise it is read relative to a base, and
takes from it what it does not say. A path is read segment by segment: one dot
stays where it is, two dots go up one segment, and nothing goes above the root.
Under a special scheme a backslash counts as a slash.
-/

namespace VmLaunch.Url

section Escaping

/-- Whether a byte is one of the characters of a text. -/
def among (chars : String) (b : UInt8) : Bool :=
  chars.toList.any fun c => c.toNat == b.toNat

/-- Whether a byte is a visible ASCII character. -/
def isVisible (b : UInt8) : Bool :=
  33 ≤ b && b ≤ 126

/-- Whether a byte of a fragment stands for itself. -/
def keepsInFragment (b : UInt8) : Bool :=
  isVisible b && !among "\"<>\x60" b

/-- Whether a byte of a path stands for itself. -/
def keepsInPath (b : UInt8) : Bool :=
  keepsInFragment b && !among "#?\x7b\x7d" b

/-- Whether a byte of a user or password stands for itself. -/
def keepsInUser (b : UInt8) : Bool :=
  keepsInPath b && !among "/:;=@[\\]^|" b

/-- Whether a byte of a query stands for itself. -/
def keepsInQuery (special : Bool) (b : UInt8) : Bool :=
  isVisible b && !among "\"#<>" b && !(special && b == 0x27)

/-- The written form of the characters of a part. -/
def written (keeps : UInt8 → Bool) (cs : List Char) : String :=
  Percent.encode keeps (String.ofList cs)

end Escaping

section Parts

/-- A text cut at its query and fragment. -/
structure Parts where
  body : List Char
  query : Option (List Char)
  fragment : Option (List Char)

/-- The characters before a mark, and those after it when it occurs. -/
def cutAt (mark : Char) (cs : List Char) : List Char × Option (List Char) :=
  match Text.cutChars? mark cs with
  | some (before, after) => (before, some after)
  | none => (cs, none)

/-- Whether a character is dropped at either end of an address. -/
def isMargin (c : Char) : Bool :=
  c.toNat ≤ 32

/-- Whether a character is dropped wherever it occurs. -/
def isLineBreak (c : Char) : Bool :=
  c == '\t' || c == '\n' || c == '\r'

/-- The characters of an address that count. -/
def significant (cs : List Char) : List Char :=
  let trimmed := ((cs.dropWhile isMargin).reverse.dropWhile isMargin).reverse
  trimmed.filter fun c => !isLineBreak c

/-- The parts of a text. -/
def Parts.of (text : String) : Parts :=
  let (front, fragment) := cutAt '#' (significant text.toList)
  let (body, query) := cutAt '?' front
  ⟨body, query, fragment⟩

/-- The written query of an address. -/
def Parts.queryText (parts : Parts) (scheme : String) : Option String :=
  parts.query.map (written (keepsInQuery (isSpecial scheme)))

/-- The written fragment of an address. -/
def Parts.fragmentText (parts : Parts) : Option String :=
  parts.fragment.map (written keepsInFragment)

/-- The scheme at the head of an address, in lower case, and what follows its colon. -/
def scheme? (body : List Char) : Option (String × List Char) :=
  match Text.cutChars? ':' body with
  | some (first :: name, rest) =>
    if first.isAlpha && name.all fun c => c.isAlphanum || c == '+' || c == '-' || c == '.' then
      some (String.ofList ((first :: name).map Char.toLower), rest)
    else none
  | _ => none

end Parts

section Paths

/-- Whether a character divides the segments of a path. -/
def isSlash (special : Bool) (c : Char) : Bool :=
  c == '/' || (special && c == '\\')

/-- The characters with every dividing character written as a slash. -/
def withSlashes (special : Bool) (cs : List Char) : List Char :=
  cs.map fun c => if isSlash special c then '/' else c

/-- A segment with its escaped dots written as dots, in lower case. -/
def dots : List Char → List Char
  | '%' :: '2' :: e :: rest => if e == 'e' || e == 'E' then '.' :: dots rest else ['%']
  | '.' :: rest => '.' :: dots rest
  | [] => []
  | _ => ['%']

/-- Whether a segment stays where it is. -/
def isHere (segment : List Char) : Bool :=
  dots segment == ['.']

/-- Whether a segment goes up. -/
def isUp (segment : List Char) : Bool :=
  dots segment == ['.', '.']

/-- Whether characters are a letter and the mark of a drive, a colon or a bar. -/
def isDriveText : List Char → Bool
  | [letter, mark] => letter.isAlpha && (mark == ':' || mark == '|')
  | _ => false

/-- Whether a segment names a drive in its settled form, with a colon. -/
def isDrive (segment : String) : Bool :=
  match segment.toList with
  | [letter, mark] => letter.isAlpha && mark == ':'
  | _ => false

/-- Whether the characters up to the first slash or backslash name a drive. -/
def beginsWithDrive (cs : List Char) : Bool :=
  isDriveText (cs.takeWhile fun c => !isSlash true c)

/-- Whether a path ends with a slash. -/
def isOpen (path : List String) : Bool :=
  path.getLast? == some ""

/-- The path with a slash after it. -/
def opened (path : List String) : List String :=
  path ++ [""]

/-- The path with a text after it. -/
def extended (path : List String) (text : String) : List String :=
  match path.getLast? with
  | some last => path.dropLast ++ [last ++ text]
  | none => if text == "" then [] else [text]

/-- The path up to its last slash; the drive of a file stays. -/
def folder (scheme : String) (path : List String) : List String :=
  match path.getLast? with
  | some last => if scheme == "file" && isDrive last then path else path.dropLast ++ [""]
  | none => []

/-- The path one segment up from an open path. A segment that names a drive is not
left. -/
def above (scheme : String) (path : List String) : List String :=
  match path.reverse with
  | "" :: parent :: rest =>
    if beginsWithDrive parent.toList then path else folder scheme (parent :: rest).reverse
  | _ => folder scheme path

/-- Where a walk along segments has come to, and whether the path is still served by
the host that the address names. -/
structure Walk where
  path : List String
  hosted : Bool

/-- Go along one segment; `last` when no slash follows it. The first segment of a file
may name a drive with a bar, and the drive is on no other host. -/
def Walk.go (scheme : String) (last : Bool) (w : Walk) (segment : List Char) : Walk :=
  if isUp segment then
    let path := above scheme w.path
    { w with path := if last || isOpen path then path else opened path }
  else if isHere segment then
    { w with path := if isOpen w.path then w.path else opened w.path }
  else
    let drive := scheme == "file" && w.path == [""] && isDriveText segment
    let text := if drive then segment.take 1 ++ [':'] else segment
    let path := extended w.path (written keepsInPath text)
    ⟨if last then path else opened path, w.hosted && !drive⟩

/-- Go along segments. -/
def Walk.along (scheme : String) (w : Walk) : List (List Char) → Walk
  | [] => w
  | [only] => w.go scheme true only
  | segment :: rest => (w.go scheme false segment).along scheme rest

/-- The path of a file has no empty segments at its head. -/
def withoutEmptyHead : List String → List String
  | "" :: next :: rest => withoutEmptyHead (next :: rest)
  | path => path

/-- Whether a path is a drive alone. -/
def isDriveAlone (path : List String) : Bool :=
  match path with
  | [only] => isDrive only
  | _ => false

/-- Go on from a path along the characters of another. -/
def walk (scheme : String) (path : List String) (cs : List Char) : Walk :=
  let special := isSpecial scheme
  let inside := scheme == "file" && isDriveAlone path && cs.head?.any fun c => !isSlash special c
  let start := if inside then opened path else path
  let found := Walk.along scheme ⟨start, true⟩ (Text.splitOn '/' (withSlashes special cs))
  if scheme == "file" then { found with path := withoutEmptyHead found.path } else found

/-- Go from a path along the characters of another. -/
def readPath (scheme : String) (path : List String) (cs : List Char) : UrlPath :=
  .segments (walk scheme path cs).path

/-- Characters without the slash at their head. -/
def afterSlash (special : Bool) : List Char → List Char
  | c :: rest => if isSlash special c then rest else c :: rest
  | [] => []

/-- Read what follows an authority as a path. -/
def rootPath (scheme : String) (cs : List Char) : UrlPath :=
  if isSpecial scheme then readPath scheme [""] (afterSlash true cs)
  else if cs.isEmpty then .segments []
  else readPath scheme [""] (afterSlash false cs)

end Paths

section Authorities

/-- The characters of a host and those of a port, when a colon outside brackets
announces one. -/
def cutPort (inside : Bool) : List Char → List Char × Option (List Char)
  | [] => ([], none)
  | c :: rest =>
    if c == ':' && !inside then ([], some rest)
    else
      let (host, port) := cutPort (c == '[' || (inside && c != ']')) rest
      (c :: host, port)

/-- A port, left out when it is empty or implied by the scheme. -/
def readPort? (scheme : String) : Option (List Char) → Option (Option Nat)
  | none => some none
  | some digits =>
    if digits.all Binary64.isDigit && Binary64.digitsValue digits ≤ 65535 then
      let port := Binary64.digitsValue digits
      some (if digits.isEmpty || defaultPort? scheme == some port then none else some port)
    else none

/-- The user and password before a host. -/
def readUser (cs : List Char) : String × String :=
  let (user, password) := cutAt ':' cs
  (written keepsInUser user, written keepsInUser (password.getD []))

/-- What follows two slashes: who is served, and the path from there on. -/
structure Served where
  credentials : Option (List Char)
  host : List Char
  port : Option (List Char)
  rest : List Char

/-- Cut what follows two slashes. A backslash after a port begins the path under any
scheme. -/
def Served.of (scheme : String) (cs : List Char) : Served :=
  let slash := isSlash (isSpecial scheme)
  let server := cs.takeWhile fun c => !slash c
  let rest := cs.dropWhile fun c => !slash c
  let (credentials, place) :=
    match Text.cutLastChars? '@' server with
    | some (before, after) => (some before, after)
    | none => (none, server)
  let (host, port) := cutPort false place
  let isDigitChar (c : Char) : Bool := c != '\\'
  ⟨credentials, host, port.map (·.takeWhile isDigitChar),
    (port.getD []).dropWhile isDigitChar ++ rest⟩

/-- Whether credentials may stand before no host: only when they say nothing, and not
an empty one before a path, query or fragment. -/
def mayLackHost (credentials : Option (List Char)) (atEnd : Bool) : Bool :=
  match credentials with
  | none => true
  | some [] => atEnd
  | some cs => readUser cs == ("", "")

/-- Read an authority; `atEnd` when nothing follows it. -/
def Served.authority? (scheme : String) (s : Served) (atEnd : Bool) : Option Authority :=
  let (user, password) := readUser (s.credentials.getD [])
  if s.host.isEmpty then
    if isSpecial scheme || s.port.isSome || !mayLackHost s.credentials atEnd then none
    else some { host := "" }
  else do
    let host ← if isSpecial scheme then Host.named? s.host else Host.plain? s.host
    let port ← readPort? scheme s.port
    return ⟨user, password, host, port⟩

/-- Whether nothing follows the body of an address. -/
def Parts.endsWithBody (parts : Parts) : Bool :=
  parts.query.isNone && parts.fragment.isNone

/-- An address of a file. -/
def fileUrl (host : String) (path : List String) (parts : Parts) : Url :=
  ⟨"file", some { host := host }, .segments path, parts.queryText "file", parts.fragmentText⟩

/-- Read the address of a file after two slashes. -/
def readFileServed? (cs : List Char) (parts : Parts) : Option Url :=
  let server := cs.takeWhile fun c => !isSlash true c
  let rest := cs.dropWhile fun c => !isSlash true c
  let unnamed (path : List Char) : Url := fileUrl "" (walk "file" [""] path).path parts
  if isDriveText server then some (unnamed cs)
  else if server.isEmpty then some (unnamed rest)
  else
    (Host.named? server).map fun host =>
      if host == "localhost" then unnamed rest
      else
        let found := walk "file" [""] (afterSlash true rest)
        fileUrl (if found.hosted then host else "") found.path parts

/-- Read what follows the two slashes that announce an authority. -/
def readServed? (scheme : String) (cs : List Char) (parts : Parts) : Option Url :=
  let served := Served.of scheme cs
  let atEnd := served.rest.isEmpty && parts.endsWithBody
  (served.authority? scheme atEnd).map fun authority =>
    ⟨scheme, some authority, rootPath scheme served.rest, parts.queryText scheme,
      parts.fragmentText⟩

end Authorities

section Addresses

/-- The segments of a path that is divided. -/
def segmentsOf (url : Url) : List String :=
  match url.path with
  | .segments items => items
  | .whole _ => []

/-- The host of an address, empty when it names none. -/
def hostOf (url : Url) : String :=
  (url.authority.map Authority.host).getD ""

/-- A base with another query and fragment; without a query of its own a text keeps
that of the base. -/
def withParts (base : Url) (parts : Parts) : Url :=
  match parts.queryText base.scheme with
  | some query => { base with query := some query, fragment := parts.fragmentText }
  | none => { base with fragment := parts.fragmentText }

/-- A base with another path, query and fragment. -/
def withPath (base : Url) (path : List String) (parts : Parts) : Url :=
  { base with
    path := .segments path
    query := parts.queryText base.scheme
    fragment := parts.fragmentText }

/-- Read an address relative to a base whose path is divided and that is no file. -/
def readRelative? (base : Url) (parts : Parts) : Option Url :=
  match parts.body with
  | [] => some (withParts base parts)
  | '/' :: '/' :: rest => readServed? base.scheme rest parts
  | first :: rest =>
    if isSlash true first then
      if rest.head?.any (isSlash true) then
        readServed? base.scheme (rest.dropWhile (isSlash true)) parts
      else some (withPath base (walk base.scheme [""] rest).path parts)
    else
      let start := folder base.scheme (segmentsOf base)
      let path := if start.isEmpty then [""] else start
      some (withPath base (walk base.scheme path parts.body).path parts)

/-- Where a path after one slash begins: at the drive of the base, or else at its
host. -/
def fileRoot (base : Option Url) : String × List String :=
  match base with
  | none => ("", [])
  | some base =>
    match segmentsOf base with
    | first :: _ => if isDrive first then ("", [first]) else (hostOf base, [])
    | [] => (hostOf base, [])

/-- Read the address of a file, relative to a base when there is one. -/
def readFile? (base : Option Url) (parts : Parts) : Option Url :=
  let root : Url := fileUrl "" (walk "file" [""] parts.body).path parts
  match parts.body, base with
  | [], some base => some (withParts base parts)
  | [], none => some root
  | first :: rest, _ =>
    if isSlash true first then
      if rest.head?.any (isSlash true) then readFileServed? rest.tail parts
      else
        let (host, path) := if beginsWithDrive rest then ("", []) else fileRoot base
        some (fileUrl host (walk "file" path parts.body).path parts)
    else
      match base with
      | none => some root
      | some base =>
        if beginsWithDrive parts.body then some root
        else
          let start := folder "file" (segmentsOf base)
          some (withPath base (walk "file" start parts.body).path parts)

/-- Read an address that has its own scheme. -/
def readAbsolute? (scheme : String) (rest : List Char) (parts : Parts) : Option Url :=
  let query := parts.queryText scheme
  let fragment := parts.fragmentText
  if scheme == "file" then readFile? none { parts with body := rest }
  else if isSpecial scheme then readServed? scheme (rest.dropWhile (isSlash true)) parts
  else
    match rest with
    | '/' :: '/' :: served => readServed? scheme served parts
    | '/' :: path => some ⟨scheme, none, readPath scheme [""] path, query, fragment⟩
    | _ => some ⟨scheme, none, .whole (written Host.keeps rest), query, fragment⟩

/-- The address of a text. -/
def parse? (text : String) : Option Url :=
  let parts := Parts.of text
  match scheme? parts.body with
  | some (scheme, rest) => readAbsolute? scheme rest parts
  | none => none

/-- Read an address without a scheme of its own, or with that of its base. -/
def readAgainst? (base : Url) (parts : Parts) : Option Url :=
  if base.scheme == "file" then readFile? (some base) parts else readRelative? base parts

/-- Whether an address with the scheme of its base is still relative to it. -/
def staysRelative (scheme : String) (rest : List Char) : Bool :=
  scheme == "file" || (isSpecial scheme && (rest.takeWhile (isSlash true)).length < 2)

/-- The address of a text that is read relative to a base. -/
def join? (base : Url) (text : String) : Option Url :=
  let parts := Parts.of text
  match scheme? parts.body, base.path with
  | some (scheme, rest), _ =>
    if scheme == base.scheme && staysRelative scheme rest then
      readAgainst? base { parts with body := rest }
    else readAbsolute? scheme rest parts
  | none, .segments _ => readAgainst? base parts
  | none, .whole _ =>
    match parts.body, parts.query, parts.fragment with
    | [], none, some _ => some { base with fragment := parts.fragmentText }
    | _, _, _ => none

end Addresses

end VmLaunch.Url
