import ExtensionHost.Text.Percent

/-!
# Locations of modules

A package names its module by a URL.  Parsing brings the URL into its normal form: the scheme in
lower case and, for the schemes of the web and of files, the host in lower case, a path that starts
with a slash, and no segments that only walk up and down.  Only URLs of local files stand for
something that can be read.

## Main definitions

* `Url` with its text `Url.text`;
* `Url.parse?`;
* `Url.filePath?` and `Url.ofFilePath`.
-/

namespace ExtensionHost

/-- A URL in normal form. -/
structure Url where
  /-- The scheme, in lower case. -/
  scheme : String
  /-- The host with whatever stands beside it, if there is one. -/
  authority : Option String
  /-- The path. -/
  path : String
  /-- What follows the path, from a question mark or a number sign on. -/
  suffix : String
  deriving DecidableEq, Repr

namespace Url

/-- The text of a URL. -/
def text (u : Url) : String :=
  let authority := match u.authority with
    | some authority => "//" ++ authority
    | none => ""
  s!"{u.scheme}:{authority}{u.path}{u.suffix}"

/-- Schemes whose URLs have a host. -/
def isWeb (scheme : String) : Bool := ["http", "https", "ws", "wss", "ftp"].contains scheme

/-- Schemes whose paths are hierarchical in any case. -/
def isSpecial (scheme : String) : Bool := scheme == "file" || isWeb scheme

/-- Whether a character may stand in a scheme. -/
def isSchemeChar (c : Char) : Bool := c.isAlphanum || c == '+' || c == '-' || c == '.'

/-- Whether a character is a control character or a space. -/
def isPadding (c : Char) : Bool := c.toNat ≤ 0x20

/-- The text without padding around it and without tabs and line ends in it. -/
def strip (text : List Char) : List Char :=
  let front := text.dropWhile isPadding
  let core := (front.reverse.dropWhile isPadding).reverse
  core.filter fun c => c != '\t' && c != '\n' && c != '\r'

/-- The scheme, in lower case, and what follows its colon. -/
def splitScheme? (text : List Char) : Option (String × List Char) :=
  match text with
  | [] => none
  | first :: _ =>
    if first.isAlpha then
      match text.span isSchemeChar with
      | (scheme, ':' :: rest) => some (String.ofList (scheme.map Char.toLower), rest)
      | _ => none
    else none

/-- Whether a character ends a path. -/
def endsPath (c : Char) : Bool := c == '?' || c == '#'

/-- Whether a character separates the segments of a path. -/
def isSlash (special : Bool) (c : Char) : Bool := c == '/' || (special && c == '\\')

/-- Bytes that are escaped in a path. -/
def isPathSpecial (b : UInt8) : Bool :=
  b ≤ 0x20 || b == 0x7F || b == 0x22 || b == 0x23 || b == 0x3C || b == 0x3E || b == 0x3F ||
    b == 0x5E || b == 0x60 || b == 0x7B || b == 0x7D

/-- Bytes that are escaped after a question mark or a number sign. -/
def isSuffixSpecial (b : UInt8) : Bool :=
  b ≤ 0x20 || b == 0x7F || b == 0x22 || b == 0x3C || b == 0x3E

/-- Whether a segment stands for the place it is in. -/
def isSingleDot (segment : String) : Bool := [".", "%2e"].contains segment.toLower

/-- Whether a segment walks up. -/
def isDoubleDot (segment : String) : Bool :=
  ["..", ".%2e", "%2e.", "%2e%2e"].contains segment.toLower

/-- Resolve the segments that walk up and down; `done` holds those before, the last one first. -/
def resolve (done : List String) : List String → List String
  | [] => done.reverse
  | segment :: rest =>
    if isDoubleDot segment then
      resolve (if rest.isEmpty then "" :: done.tail else done.tail) rest
    else if isSingleDot segment then
      resolve (if rest.isEmpty then "" :: done else done) rest
    else resolve (segment :: done) rest

/-- The normal form of a hierarchical path. -/
def normalPath (special : Bool) (path : List Char) : String :=
  let path := match path with
    | c :: rest => if isSlash special c then rest else path
    | [] => []
  let segments := (path.map fun c => if isSlash special c then '/' else c).splitOn '/'
  let segments := segments.map fun s => Percent.encode isPathSpecial (String.ofList s)
  "/" ++ "/".intercalate (resolve [] segments)

/-- Read a URL. -/
def parse? (text : String) : Option Url := do
  let (scheme, rest) ← splitScheme? (strip text.toList)
  let special := isSpecial scheme
  let (body, suffix) := rest.span (!endsPath ·)
  let suffix := Percent.encode isSuffixSpecial (String.ofList suffix)
  if isWeb scheme then
    let body := body.dropWhile (isSlash true)
    let (authority, path) := body.span (!isSlash true ·)
    if authority.isEmpty then none
    else some ⟨scheme, some (String.ofList (authority.map Char.toLower)), normalPath true path,
      suffix⟩
  else
    match body with
    | a :: b :: body' =>
      if isSlash special a && isSlash special b then
        let (authority, path) := body'.span (!isSlash special ·)
        if scheme == "file" then
          let host := String.ofList (authority.map Char.toLower)
          some ⟨scheme, some (if host == "localhost" then "" else host), normalPath true path,
            suffix⟩
        else
          let path := if path.isEmpty then "" else normalPath false path
          some ⟨scheme, some (String.ofList authority), path, suffix⟩
      else otherForms scheme body suffix
    | _ => otherForms scheme body suffix
where
  /-- A URL that does not start with two slashes. -/
  otherForms (scheme : String) (body : List Char) (suffix : String) : Option Url :=
    if scheme == "file" then some ⟨scheme, some "", normalPath true body, suffix⟩
    else if body.head? == some '/' then some ⟨scheme, none, normalPath false body, suffix⟩
    else some ⟨scheme, none, Percent.encode (fun b => b < 0x20 || b == 0x7F) (String.ofList body),
      suffix⟩

/-- The path of the local file that a URL stands for. -/
def filePath? (u : Url) : Option ByteArray :=
  if u.scheme == "file" && (u.authority.getD "").isEmpty then some (Percent.decode u.path)
  else none

/-- Bytes that are escaped when a path is written as a URL. -/
def isSegmentSpecial (b : UInt8) : Bool := isPathSpecial b || b == 0x25 || b == 0x5C

/-- The URL of an absolute path of a local file. -/
def ofFilePath (path : String) : Url :=
  ⟨"file", some "", Percent.encode isSegmentSpecial path, ""⟩

end Url

end ExtensionHost
