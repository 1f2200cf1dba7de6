import Http1Client.Url.Basic
import Http1Client.Text.Ascii

/-!
# Reading URLs

Controls and spaces around a URL are dropped, tabs and line ends inside it too.
The scheme decides how the rest is read:

- *special* schemes (`http`, `https`, `ws`, `wss`, `ftp`) have an authority,
  whatever the number of slashes before it, and take backslashes for slashes;
- `file` has a host or a drive, which is lenient about slashes;
- any other scheme has an authority after two slashes, else a path, which is
  opaque unless it starts with a slash.

The text is taken apart from the left; each part ends where a mark of a later
part begins. This stands in for the parser of the library `url`.
-/

namespace Http1Client.Url

/-- The text without controls and spaces around it. -/
def strip (s : List Char) : List Char :=
  let isEdge (c : Char) : Bool := c.toNat ≤ 0x20
  ((s.dropWhile isEdge).reverse.dropWhile isEdge).reverse

/-- The character may stand in a scheme. -/
def isSchemeChar (c : Char) : Bool := c.isAlphanum || c == '+' || c == '-' || c == '.'

/-- The scheme in small letters and the text after its colon. -/
def cutScheme (s : List Char) : Option (List Char × List Char) :=
  if (s.head?.map Char.isAlpha).getD false then
    match s.dropWhile isSchemeChar with
    | ':' :: rest => some (Text.lower (s.takeWhile isSchemeChar), rest)
    | _ => none
  else none

/-- The scheme is one of those that imply a port. -/
def isSpecial (scheme : List Char) : Bool := (impliedPort scheme).isSome

/-- The character ends an authority. -/
def endsAuthority (special : Bool) (c : Char) : Bool :=
  Path.isSlash special c || c == '?' || c == '#'

/-! ## Authority -/

/-- User name and password of the text before the last `@`. -/
def readCredentials (s : List Char) : List Char × List Char :=
  let (name, rest) := Text.cutAt ':' s
  (percentEncode userinfoSet name, percentEncode userinfoSet (rest.getD []))

/-- The text before the last occurrence of `@`, if there is one, and the text
after it. -/
def cutLastAt (s : List Char) : Option (List Char) × List Char :=
  let tail := (s.reverse.takeWhile (· != '@')).reverse
  if tail.length = s.length then (none, s)
  else (some (s.take (s.length - tail.length - 1)), tail)

/-- How many characters of the text belong to the host: it ends at a colon
outside brackets. -/
def hostLength (inside : Bool) : List Char → Nat
  | [] => 0
  | c :: rest =>
    if c = ':' ∧ !inside then 0
    else hostLength (if c = '[' then true else if c = ']' then false else inside) rest + 1

/-- The port after the host: none if it is missing or the scheme's own. Text that
is no port is an error. -/
def readPort (scheme : List Char) : List Char → Except Error (Option Nat)
  | ':' :: digits =>
    if !digits.all Char.isDigit then .error .port
    else
      let n := Text.digitsValue 10 digits
      if 65535 < n then .error .port
      else .ok (if digits.isEmpty || impliedPort scheme == some n then none else some n)
  | _ => .ok none

/-- The parts of an authority. -/
structure Authority where
  username : List Char
  password : List Char
  host : Host
  port : Option Nat

/-- Reads the text of an authority. `more` tells whether anything follows it. -/
def readAuthority (scheme : List Char) (special more : Bool) (s : List Char) :
    Except Error Authority :=
  let (userinfo, place) := cutLastAt s
  let (username, password) := readCredentials (userinfo.getD [])
  if userinfo == some [] && place.isEmpty && more then .error .emptyHost
  else
    let n := hostLength false place
    let hostText := place.take n
    let portPart := place.drop n
    if special && hostText.isEmpty then .error .emptyHost
    else
      match Host.parse special hostText with
      | .error e => .error e
      | .ok host =>
        if host.isNone && !portPart.isEmpty then .error .emptyHost
        else
          match readPort scheme portPart with
          | .error e => .error e
          | .ok port =>
            if host.isNone && (!username.isEmpty || !password.isEmpty) then .error .emptyHost
            else .ok ⟨username, password, host, port⟩

/-! ## Path, query, fragment -/

/-- The text before the query or fragment, the query and the fragment. -/
def cutTail (special : Bool) (s : List Char) :
    List Char × Option (List Char) × Option (List Char) :=
  let (front, fragment) := Text.cutAt '#' s
  let (path, query) := Text.cutAt '?' front
  (path, query.map (percentEncode (querySet special)),
    fragment.map (percentEncode fragmentSet))

/-- A URL whose authority starts the text. -/
def afterSlashes (scheme : List Char) (special : Bool) (s : List Char) : Except Error Url :=
  let text := s.takeWhile fun c => !endsAuthority special c
  let rest := s.drop text.length
  -- A backslash ends a port even where it does not end a host.
  let place := (cutLastAt text).2
  let port := place.drop (hostLength false place)
  let beyond := port.dropWhile (· != '\\')
  let text := text.take (text.length - beyond.length)
  let rest := beyond ++ rest
  match readAuthority scheme special (!rest.isEmpty) text with
  | .error e => .error e
  | .ok a =>
    let (path, query, fragment) := cutTail special rest
    let segments := if !special && path.isEmpty then [] else Path.read special path
    .ok ⟨scheme, a.username, a.password, some a.host, a.port, .segments segments,
      query, fragment⟩

/-! ## Files

Breaks still stand in the text of a file URL, because they part a drive from what
follows it. -/

/-- The host of a file URL, and the text from where its path starts. -/
structure Located where
  host : Host
  path : List Char

/-- The host after two slashes. Nothing, `localhost` and a drive are no host. A path
after a host starts behind its first slash, any other before it, so the latter
has an empty segment first. -/
def locate (s : List Char) : Except Error Located :=
  let raw := s.takeWhile fun c => !endsAuthority true c
  let rest := s.drop raw.length
  let text := Path.joined raw
  if Path.isDrive text then .ok ⟨.name [], s⟩
  else if text.isEmpty then .ok ⟨.name [], rest⟩
  else
    match Host.parse true text with
    | .error e => .error e
    | .ok host =>
      if host = .name "localhost".toList then .ok ⟨.name [], rest⟩
      else .ok ⟨host, Path.dropSlash true rest⟩

/-- The text after the slash that it starts with. -/
def afterSlash? (s : List Char) : Option (List Char) :=
  match s.dropWhile Path.isBreak with
  | c :: rest => if Path.isSlash true c then some rest else none
  | [] => none

/-- The host and the path of a file URL. There is a host only after two slashes. -/
def locateFile (s : List Char) : Except Error Located :=
  match afterSlash? s with
  | none => .ok ⟨.name [], s⟩
  | some rest =>
    match afterSlash? rest with
    | none => .ok ⟨.name [], rest⟩
    | some rest => locate rest

/-- A file URL. Empty segments at the start of the path go, and a drive drives
out the host. -/
def ofFile (s : List Char) : Except Error Url :=
  match locateFile s with
  | .error e => .error e
  | .ok ⟨host, rest⟩ =>
    let walk := Path.walk true true (rest.takeWhile fun c => c != '?' && c != '#')
    let (_, query, fragment) := cutTail true (Path.joined rest)
    .ok ⟨"file".toList, [], [], some (if walk.drive then .name [] else host), none,
      .segments (Path.dropEmpty walk.kept.reverse), query, fragment⟩

/-! ## The whole -/

/-- Reads a URL. -/
def parse (text : String) : Except Error Url :=
  let text := strip text.toList
  match cutScheme (Path.joined text) with
  | none => .error .relativeWithoutBase
  | some (scheme, rest) =>
    if scheme == "file".toList then ofFile ((text.dropWhile (· != ':')).drop 1)
    else if isSpecial scheme then
      afterSlashes scheme true (rest.dropWhile (Path.isSlash true))
    else
      match rest with
      | '/' :: '/' :: rest => afterSlashes scheme false rest
      | rest =>
        let (path, query, fragment) := cutTail false rest
        let path := match path with
          | '/' :: _ => .segments (Path.read false path)
          | _ => .plain (percentEncode controlSet path)
        .ok ⟨scheme, [], [], none, none, path, query, fragment⟩

end Http1Client.Url
