import Provision.Http.Host

/-!
# Addresses of resources

An address has a scheme, and most have a host, a path of segments, a query and a fragment. `Url.text`
writes an address in its normal form: letters of scheme and host are small, a port that the scheme
implies is left out, no segment is made of one or two dots, and characters that may not stand for
themselves are encoded.
-/

namespace Provision.Http

/-- What follows the host. A path of segments begins with a slash; another one is a text. -/
inductive UrlPath where
  | segments (names : List (List Char))
  | words (content : List Char)
  deriving DecidableEq, Repr

structure Url where
  scheme : List Char
  user : List Char := []
  password : List Char := []
  host : Option Host := none
  port : Option Nat := none
  path : UrlPath
  query : Option (List Char) := none
  fragment : Option (List Char) := none
  deriving DecidableEq, Repr

namespace Url

/-! ## Schemes -/

def impliedPorts : List (String × Nat) :=
  [("http", 80), ("https", 443), ("ws", 80), ("wss", 443), ("ftp", 21)]

def impliedPort? (scheme : List Char) : Option Nat :=
  impliedPorts.lookup (String.ofList scheme)

def isFile (scheme : List Char) : Bool :=
  scheme = "file".toList

def isSpecial (scheme : List Char) : Bool :=
  (impliedPort? scheme).isSome || isFile scheme

/-! ## Writing -/

def pathText (url : Url) : List Char :=
  match url.path with
  | .segments names => names.flatMap ('/' :: ·)
  | .words content => content

def authorityText (url : Url) : List Char :=
  let user := url.user ++ (if url.password = [] then [] else ':' :: url.password)
  (if user = [] then [] else user ++ ['@']) ++ (url.host.map Host.text).getD [] ++
    (url.port.map fun port => ':' :: (toString port).toList).getD []

def queryText (url : Url) : List Char :=
  (url.query.map ('?' :: ·)).getD []

/-- What stands between the scheme and the path: the host behind two slashes. A path that itself begins
with two slashes is kept apart from a host that is missing. -/
def frontText (url : Url) : List Char :=
  if url.host.isSome || isFile url.scheme then '/' :: '/' :: url.authorityText
  else if ['/', '/'].isPrefixOf url.pathText then ['/', '.']
  else []

def text (url : Url) : String :=
  String.ofList (url.scheme ++ ':' ::
    (url.frontText ++ url.pathText ++ url.queryText ++ (url.fragment.map ('#' :: ·)).getD []))

def target (url : Url) : String :=
  String.ofList (url.pathText ++ url.queryText)

def credential? (encoded : List Char) : Option String :=
  Utf8.decode? (Percent.decode encoded)

/-- Whether the user and the password are taken out of the address and sent apart from it. A user name
that is no text stays, and a password that is none does not count. -/
def hasCredentials (url : Url) : Bool :=
  match credential? url.user with
  | none => false
  | some user => !user.isEmpty || (url.password ≠ [] && (credential? url.password).isSome)

def withoutCredentials (url : Url) : Url :=
  if url.hasCredentials then { url with user := [], password := [] } else url

def isSecure (url : Url) : Bool :=
  url.scheme = "https".toList

def isFetchable (url : Url) : Bool :=
  url.host.isSome && (url.scheme = "http".toList || url.isSecure)

end Url

end Provision.Http
