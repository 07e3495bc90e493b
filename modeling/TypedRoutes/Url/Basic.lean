import TypedRoutes.Url.Authority

/-!
# URLs

A URL is read into scheme, host, path, query and fragment. The path is percent-decoded and the query is not, so
that its separators can still be told from encoded ones. Parameters after a `;` in the last path segment are left
out for the schemes that have them.
-/

namespace TypedRoutes

set_option autoImplicit false

/-- The components of a URL. -/
structure Url where
  path : Text := ['/']
  query : Text := []
  scheme : Text := []
  host : Text := []
  fragment : Text := []
  deriving DecidableEq, Repr

namespace Url

/-- A character that may stand in a scheme. -/
def isSchemeChar (c : Char) : Bool :=
  c.isAlphanum || c == '+' || c == '-' || c == '.'

/-- The lower-case scheme and what follows it; without a scheme, all of the text. -/
def splitScheme (t : Text) : Text × Text :=
  match Text.cut? ':' t with
  | some (c :: rest, after) =>
    if c.isAlpha && rest.all isSchemeChar then (Text.lower (c :: rest), after) else ([], t)
  | _ => ([], t)

/-- The authority after `//` and what follows it; without `//`, all of the text. -/
def splitAuthority : Text → Text × Text
  | '/' :: '/' :: rest =>
    let authority := rest.takeWhile fun c => !(c == '/' || c == '?' || c == '#')
    (authority, rest.drop authority.length)
  | t => ([], t)

/-- The text before a separator and the text after it; all of the text and nothing when it is missing. -/
def splitAt (separator : Char) (t : Text) : Text × Text :=
  (Text.cut? separator t).getD (t, [])

/-- The schemes whose last path segment may carry parameters. -/
def schemesWithParams : List Text :=
  [[], "ftp".toList, "hdl".toList, "prospero".toList, "http".toList, "imap".toList, "https".toList,
    "shttp".toList, "rtsp".toList, "rtspu".toList, "sip".toList, "sips".toList, "mms".toList, "sftp".toList,
    "tel".toList]

/-- A path without the parameters of its last segment. -/
def dropParams (path : Text) : Text :=
  match Text.cutLast? '/' path with
  | some (before, last) => before ++ '/' :: Text.upTo ';' last
  | none => Text.upTo ';' path

/-- The text that is read: without the controls and spaces at its start, and without tabs and line breaks. -/
def clean (t : Text) : Text :=
  (t.dropWhile fun c => decide (c.toNat ≤ 32)).filter fun c => !(c == '\t' || c == '\n' || c == '\r')

/-- Reads a URL. -/
def parse (t : Text) : Except Malformed Url := do
  let (scheme, rest) := splitScheme (clean t)
  let (authority, rest) := splitAuthority rest
  Authority.checkBrackets authority
  let (rest, fragment) := splitAt '#' rest
  let (path, query) := splitAt '?' rest
  Authority.checkLookalikes authority
  let path := if schemesWithParams.contains scheme then dropParams path else path
  let path := Text.percentDecode path
  return { path := if path.isEmpty then ['/'] else path, query, scheme, host := Authority.host authority, fragment }

end Url

end TypedRoutes
