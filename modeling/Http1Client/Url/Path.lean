import Http1Client.Url.Percent
import Http1Client.Text.Cut

/-!
# Paths

A path is a list of segments, or, for a scheme without authority, one opaque
text. Segments `.` and `..` are resolved while the path is read, also where they
are percent-encoded: the first stands for nothing, the second takes the segment
before it away. At the end of a path either leaves an empty segment, so the path
still ends with a slash.

A segment such as `C:` is the name of a drive. No `..` takes it away, whatever
the scheme. The path of a file URL may start with a drive: then the URL names a
file of this machine, and the drive is written with a colon. This stands in for
what the library `url` does with paths.
-/

namespace Http1Client.Url

/-- What follows the authority. -/
inductive Path where
  | plain (text : List Char)
  | segments (list : List (List Char))
  deriving DecidableEq, Repr

namespace Path

/-- Each point of a segment, with encoded ones decoded; none for other text. -/
def dots : List Char → Option Nat
  | [] => some 0
  | '.' :: rest => (dots rest).map (· + 1)
  | '%' :: '2' :: e :: rest => if e = 'e' ∨ e = 'E' then (dots rest).map (· + 1) else none
  | _ => none

/-- A letter and a colon or bar: the name of a drive. -/
def isDrive : List Char → Bool
  | [c, mark] => c.isAlpha && (mark == ':' || mark == '|')
  | _ => false

/-- The segment stays where `..` follows it: it is a drive, alone or before a
backslash that does not count as a slash. -/
def isFixed (s : List Char) : Bool :=
  isDrive (s.take 2) && (s.drop 2).head?.all (· == '\\')

/-- Tabs and line ends, which do not count in a URL. -/
def isBreak (c : Char) : Bool := c == '\t' || c == '\n' || c == '\r'

/-- The text without tabs and line ends. -/
def joined (s : List Char) : List Char := s.filter fun c => !isBreak c

/-- A drive with a colon and the text after it, where a break parts the two. -/
def brokenDrive? (s : List Char) : Option (List Char × List Char) :=
  match s.dropWhile isBreak with
  | c :: rest =>
    match rest.dropWhile isBreak with
    | ':' :: b :: rest =>
      if c.isAlpha && isBreak b && !(joined rest).isEmpty then some ([c, ':'], joined rest)
      else none
    | _ => none
  | [] => none

/-- A path while it is read: the segments that are kept, latest first, and whether
the path of a file starts with a drive. -/
structure Walk where
  kept : List (List Char)
  drive : Bool

namespace Walk

/-- Takes the last segment away unless it stays. -/
def up (w : Walk) : Walk :=
  match w.kept with
  | [] => w
  | s :: rest => if isFixed s then w else { w with kept := rest }

/-- Adds a segment. -/
def add (w : Walk) (s : List Char) : Walk :=
  { w with kept := percentEncode pathSet s :: w.kept }

/-- Adds the first segment of a file's path. Where a break follows a drive, the
drive ends there, but is not taken for one. -/
def addFirst (w : Walk) (s : List Char) : Walk :=
  match brokenDrive? s with
  | some (drive, rest) => (w.add drive).add rest
  | none =>
    match joined s with
    | [c, mark] => if isDrive [c, mark] then ⟨[[c, ':']], true⟩ else w.add [c, mark]
    | s => w.add s

/-- Takes a segment into account: a point stays where it is, two go up, any other
is added. -/
def step (file : Bool) (w : Walk) (s : List Char) : Walk :=
  match dots (joined s) with
  | some 1 => w
  | some 2 => w.up
  | _ => if file && w.kept.isEmpty then w.addFirst s else w.add (joined s)

/-- Takes all segments into account. After points in the last one the path ends
with a slash. -/
def run (file : Bool) (w : Walk) : List (List Char) → Walk
  | [] => w
  | [last] =>
    match dots (joined last) with
    | some 1 | some 2 => (w.step file last).add []
    | _ => w.step file last
  | s :: rest => run file (w.step file s) rest

end Walk

/-- A slash, or in a scheme that is known a backslash. -/
def isSlash (special : Bool) (c : Char) : Bool := c == '/' || (special && c == '\\')

/-- Without the slash that the text starts with, if it does. -/
def dropSlash (special : Bool) : List Char → List Char
  | c :: rest => if isSlash special c then rest else c :: rest
  | [] => []

/-- Walks along the segments of a text. -/
def walk (special file : Bool) (s : List Char) : Walk :=
  Walk.run file ⟨[], false⟩ (s.splitOnP (isSlash special))

/-- The segments of a path that starts at its first slash, which may be missing. -/
def read (special : Bool) (s : List Char) : List (List Char) :=
  (walk special false (dropSlash special s)).kept.reverse

/-- The segments without empty ones at the front; the last one stays. -/
def dropEmpty : List (List Char) → List (List Char)
  | [] :: s :: rest => dropEmpty (s :: rest)
  | list => list

/-- A slash before each segment. -/
def render : Path → List Char
  | .plain text => text
  | .segments list => list.flatMap ('/' :: ·)

end Path

end Http1Client.Url
