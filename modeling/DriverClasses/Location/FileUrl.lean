import DriverClasses.Location.Host.Basic
import DriverClasses.Location.UrlPath

/-!
# `file:` URLs

`FileUrl.parse` reads a URL whose scheme is known to be `file`, as browsers do: controls and blanks
at its ends are dropped, and so are tabs and line ends anywhere in it.  `localhost` is no host.
`FileUrl.localPath` is the path in the file system that it names.
-/

namespace DriverClasses.Location

open DriverClasses.Text

structure FileUrl where
  host : Option Host
  path : List Char
  /-- Whether a query or a fragment follows the path. -/
  hasSuffix : Bool
  deriving DecidableEq, Repr

namespace FileUrl

def isControlOrSpace (c : Char) : Bool := c.toNat ≤ 0x20

/-- The text without the controls and blanks at its ends. -/
def trimControls (s : List Char) : List Char :=
  ((s.dropWhile isControlOrSpace).reverse.dropWhile isControlOrSpace).reverse

def startsSuffix (c : Char) : Bool := c == '?' || c == '#'

/-- The URL whose path `s` writes behind `root`.  A path on a drive leaves no room for a host. -/
def ofPath (host : Option Host) (root s : List Char) : FileUrl :=
  let walk := UrlPath.resolve root (s.takeWhile (!startsSuffix ·))
  { host := if walk.metDrive then none else host
    path := walk.path
    hasSuffix := s.any startsSuffix }

def hostOf (s : List Char) : Except HostFault (Option Host) :=
  if s.isEmpty then .ok none
  else (Host.ofText s).map fun h => if h = .domain "localhost".toList then none else some h

/-- A text without the slash in front. -/
def dropSlash : List Char → List Char
  | c :: r => if UrlPath.isSlash c then r else c :: r
  | [] => []

/-- What follows `file://`.  A drive in place of the host is the start of the path.  Without a host
the slash in front of the path counts beside that of the root. -/
def ofAuthority (s : List Char) : Except HostFault FileUrl :=
  let ends (c : Char) : Bool := UrlPath.isSlash c || startsSuffix c
  let written := UrlPath.dropBreaks (s.takeWhile (!ends ·))
  let rest := s.dropWhile (!ends ·)
  if UrlPath.isDrive written then .ok (ofPath none ['/'] s)
  else
    (hostOf written).map fun host =>
      match host with
      | none => ofPath none ['/'] rest
      | some h => ofPath (some h) ['/'] (dropSlash rest)

/-- What stands behind the first character, breaks aside, if that is a slash. -/
def afterSlash? (s : List Char) : Option (List Char) :=
  match s.dropWhile UrlPath.isBreak with
  | c :: r => if UrlPath.isSlash c then some r else none
  | [] => none

/-- What follows `file:`. -/
def ofRest (s : List Char) : Except HostFault FileUrl :=
  match afterSlash? s with
  | none => .ok (ofPath none ['/'] s)
  | some r =>
    match afterSlash? r with
    | none => .ok (ofPath none [] s)
    | some r => ofAuthority r

def parse (s : List Char) : Except HostFault FileUrl := ofRest ((trimControls s).drop 5)

/-- A path that ends in a letter and a colon or a bar gets a slash. -/
def closeDrive (path : Bytes) : Bytes :=
  match path.reverse with
  | b :: a :: _ :: _ =>
    let letter := Char.ofNat a.toNat
    if letter.isAlpha && (b == 0x3A || b == 0x7C) then path ++ [0x2F] else path
  | _ => path

def localPath (url : FileUrl) : Bytes := closeDrive (percentDecode url.path)

end FileUrl

end DriverClasses.Location
