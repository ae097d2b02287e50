import Provision.Http.Url.Path

/-!
# Reading addresses

`Url.parse?` reads an address that stands for itself, and `Url.join?` one that may be relative to
another. Both bring it into its normal form.
-/

namespace Provision.Http.Url

def readScheme? (chars : List Char) : Option (List Char × List Char) :=
  let isPart (c : Char) : Bool :=
    Text.isLetter c || Text.isDigit c || c = '+' || c = '-' || c = '.'
  let scheme := chars.takeWhile isPart
  match scheme, chars.dropWhile isPart with
  | first :: _, ':' :: rest =>
      if Text.isLetter first then some (scheme.map Char.toLower, rest) else none
  | _, _ => none

/-! ## User, host and port -/

def cutAtLast (chars : List Char) : Option (List Char × List Char) :=
  match chars.reverse.dropWhile (· ≠ '@') with
  | [] => none
  | _ :: before => some (before.reverse, (chars.reverse.takeWhile (· ≠ '@')).reverse)

/-- What stands before the colon of the port, and what stands behind it. Colons between brackets do
not count. -/
def cutAtPort (inBrackets : Bool) : List Char → List Char × Option (List Char)
  | [] => ([], none)
  | c :: rest =>
      if c = ':' ∧ !inBrackets then ([], some rest)
      else
        let bracketed := if c = '[' then true else if c = ']' then false else inBrackets
        let (host, port) := cutAtPort bracketed rest
        (c :: host, port)

/-- Reads a port. The outer answer is whether it can be read; an implied port is left out. -/
def readPort (scheme digits : List Char) : Option (Option Nat) :=
  if !digits.all Text.isDigit then none
  else
    let port := Text.numberOf 10 digits
    if 65535 < port then none
    else if digits = [] ∨ impliedPort? scheme = some port then some none
    else some (some port)

def readHost (scheme chars : List Char) : Option Host :=
  if isSpecial scheme then Host.readKnown chars else Host.readUnknown chars

def withUser (chars : List Char) (url : Url) : Url :=
  let encoded := Percent.encode Percent.inUserInfo
  { url with
    user := encoded (chars.takeWhile (· ≠ ':'))
    password := encoded ((chars.dropWhile (· ≠ ':')).drop 1) }

def endsAuthority (special : Bool) (c : Char) : Bool :=
  isSlash special c || endsPath c

/-- Reads what follows two slashes in the address of a local file, which has no user and no port, and
whose host may be missing. -/
def readFileAuthority (scheme chars : List Char) : Option Url :=
  let name := chars.takeWhile (!endsAuthority true ·)
  let rest := chars.dropWhile (!endsAuthority true ·)
  let start : Url := { scheme, path := .segments [] }
  if isDrive name then some (withPath [] chars start)
  else if name = [] then some (withRootPath rest start)
  else
    (Host.readKnown name).map fun host =>
      withRootPath rest
        { start with host := if host = .domain "localhost".toList then none else some host }

/-- Whether the host may be missing behind what stands before the sign `@`, where anything follows or
does not. -/
def mayLackHost (user : Option (List Char)) (isFollowed : Bool) : Bool :=
  match user with
  | none => true
  | some [] => !isFollowed
  | some chars => chars = [':']

/-- Reads what follows two slashes. A backslash ends the port whatever the scheme is. -/
def readAuthority (scheme chars : List Char) : Option Url :=
  let special := isSpecial scheme
  let authority := chars.takeWhile (!endsAuthority special ·)
  let rest := chars.dropWhile (!endsAuthority special ·)
  let user := (cutAtLast authority).map Prod.fst
  let (hostChars, portChars) := cutAtPort false (((cutAtLast authority).map Prod.snd).getD authority)
  let digits := (portChars.getD []).takeWhile (· ≠ '\\')
  let path := (portChars.getD []).dropWhile (· ≠ '\\') ++ rest
  match readHost scheme hostChars, readPort scheme digits with
  | some host, some port =>
      if hostChars = [] ∧ (portChars.isSome ∨ !mayLackHost user (rest ≠ [])) then none
      else
        let start : Url := { scheme, host := some host, port, path := .segments [] }
        some (withRootPath path (withUser (user.getD []) start))
  | _, _ => none

/-! ## Whole addresses -/

def readAfterScheme (scheme rest : List Char) : Option Url :=
  if isFile scheme then
    match rest with
    | a :: b :: after =>
        if isSlash true a ∧ isSlash true b then readFileAuthority scheme after
        else some (withRootPath rest { scheme, path := .segments [] })
    | _ => some (withRootPath rest { scheme, path := .segments [] })
  else if isSpecial scheme then readAuthority scheme (rest.dropWhile (isSlash true))
  else
    match rest with
    | '/' :: '/' :: after => readAuthority scheme after
    | '/' :: after => some (withPath [] after { scheme, path := .segments [] })
    | _ =>
        let path := Percent.encode Percent.isControl (rest.takeWhile (!endsPath ·))
        some (withEnd false (rest.dropWhile (!endsPath ·)) { scheme, path := .words path })

def isPadding (c : Char) : Bool :=
  c.toNat ≤ 0x20

def isLayout (c : Char) : Bool :=
  c = '\t' || c = '\n' || c = '\r'

def cleaned (text : String) : List Char :=
  let inner := ((text.toList.dropWhile isPadding).reverse.dropWhile isPadding).reverse
  inner.filter (!isLayout ·)

def parse? (text : String) : Option Url :=
  match readScheme? (cleaned text) with
  | some (scheme, rest) => readAfterScheme scheme rest
  | none => none

/-- Reads what refers to an address from another one that has a path. Two slashes begin a host; where
one of them is a backslash, all further slashes belong to them. -/
def readReference (base : Url) (names : List (List Char)) (chars : List Char) : Option Url :=
  let special := isSpecial base.scheme
  match chars with
  | [] => some { base with fragment := none }
  | '?' :: _ => some (withEnd special chars base)
  | '/' :: '/' :: after => readAuthority base.scheme after
  | a :: rest =>
      if isSlash special a then
        if (rest.head?.map (isSlash special)).getD false then
          readAuthority base.scheme (rest.dropWhile (isSlash special))
        else some (withRootPath chars base)
      else some (withPath names.dropLast chars base)

def join? (base : Url) (text : String) : Option Url :=
  let chars := cleaned text
  let refer (rest : List Char) : Option Url :=
    match rest, base.path with
    | '#' :: _, _ => some { base with fragment := (withEnd false rest base).fragment }
    | _, .segments names => readReference base names rest
    | _, .words _ => none
  match readScheme? chars with
  | none => refer chars
  | some (scheme, rest) =>
      let slashes := (rest.takeWhile (isSlash true)).length
      if scheme = base.scheme ∧ (impliedPort? scheme).isSome ∧ slashes < 2 then refer rest
      else readAfterScheme scheme rest

end Provision.Http.Url
