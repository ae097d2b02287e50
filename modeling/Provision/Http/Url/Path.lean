import Provision.Http.Url

/-!
# Paths of addresses

A path is read segment by segment. Segments of one or two dots are resolved on the way, and nothing
leads above a drive: `above` keeps such a segment.
-/

namespace Provision.Http.Url

/-! ## Characters -/

def isSlash (special : Bool) (c : Char) : Bool :=
  c = '/' || (special && c = '\\')

def endsPath (c : Char) : Bool :=
  c = '?' || c = '#'

/-! ## Segments -/

def isDot (segment : List Char) : Bool :=
  [".", "%2e"].contains (String.ofList (segment.map Char.toLower))

def isDots (segment : List Char) : Bool :=
  ["..", ".%2e", "%2e.", "%2e%2e"].contains (String.ofList (segment.map Char.toLower))

def isDrive : List Char → Bool
  | [letter, mark] => Text.isLetter letter && (mark = ':' || mark = '|')
  | _ => false

def segmentsOf (special : Bool) : List Char → List (List Char)
  | [] => [[]]
  | c :: rest =>
      if isSlash special c then [] :: segmentsOf special rest
      else
        match segmentsOf special rest with
        | [] => [[c]]
        | segment :: segments => (c :: segment) :: segments

def isOnDrive (segment : List Char) : Bool :=
  isDrive (segment.take 2) && (segment.length = 2 || segment[2]? = some '\\')

/-- The directory above. There is nothing above a drive, and nothing above the root. -/
def above (directory : List (List Char)) : List (List Char) :=
  if (directory.getLast?.map isOnDrive).getD false then directory else directory.dropLast

/-- What is in a directory under a name. Among local files, a drive at the root is marked by a colon. -/
def child (isLocal : Bool) (directory : List (List Char)) (segment : List Char) :
    List (List Char) :=
  if isLocal && directory.isEmpty && isDrive segment then [segment.take 1 ++ [':']]
  else directory ++ [Percent.encode Percent.inPath segment]

/-- Follows segments from a directory. A last segment of dots leaves an empty one. -/
def descend (isLocal : Bool) (directory : List (List Char)) : List (List Char) → List (List Char)
  | [] => directory
  | segment :: rest =>
      if isDots segment then
        if rest = [] then above directory ++ [[]] else descend isLocal (above directory) rest
      else if isDot segment then
        if rest = [] then directory ++ [[]] else descend isLocal directory rest
      else descend isLocal (child isLocal directory segment) rest

def rooted (names : List (List Char)) : List (List Char) :=
  match names.dropWhile (· = []) with
  | [] => [[]]
  | named => named

/-! ## Path, query and fragment -/

def withEnd (special : Bool) (chars : List Char) (url : Url) : Url :=
  let fragmentOf (rest : List Char) : Option (List Char) :=
    match rest with
    | '#' :: fragment => some (Percent.encode Percent.inFragment fragment)
    | _ => none
  match chars with
  | '?' :: rest =>
      let encodes := if special then Percent.inSpecialQuery else Percent.inQuery
      { url with
        query := some (Percent.encode encodes (rest.takeWhile (· ≠ '#')))
        fragment := fragmentOf (rest.dropWhile (· ≠ '#')) }
  | rest => { url with query := none, fragment := fragmentOf rest }

/-- The address of a local file or of something else under a path. A local drive is on no host. -/
def withNames (names : List (List Char)) (url : Url) : Url :=
  if isFile url.scheme then
    let host := if (names.head?.map isDrive).getD false then none else url.host
    { url with host, path := .segments (rooted names) }
  else { url with path := .segments names }

def withPath (directory : List (List Char)) (chars : List Char) (url : Url) : Url :=
  let special := isSpecial url.scheme
  let segments := segmentsOf special (chars.takeWhile (!endsPath ·))
  withEnd special (chars.dropWhile (!endsPath ·))
    (url.withNames (descend (isFile url.scheme) directory segments))

def withRootPath (chars : List Char) (url : Url) : Url :=
  let special := isSpecial url.scheme
  match chars with
  | [] => { url with path := .segments (if special then [[]] else []) }
  | c :: rest =>
      if isSlash special c then withPath [] rest url
      else if endsPath c && !special then withEnd special chars { url with path := .segments [] }
      else withPath [] chars url

end Provision.Http.Url
