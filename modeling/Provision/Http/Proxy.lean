import Provision.Http.Url.Request
import Provision.Text.Blank

/-!
# Proxies

Requests may be sent to a proxy in place of the server that they are meant for. Variables of the
environment name the proxies for each scheme and the hosts that are asked without one.
-/

namespace Provision.Http

structure Proxy where
  scheme : String
  authority : List Char
  deriving DecidableEq, Repr

namespace Proxy

/-! ## Reading -/

def schemes : List String := ["http", "https", "socks4", "socks4a", "socks5", "socks5h"]

def isSchemeChar (c : Char) : Bool :=
  Text.isLetter c || Text.isDigit c || c = '+' || c = '-' || c = '.'

/-- The scheme and what stands behind its two slashes, if there is a scheme. Only the case of the two
common ones does not count. -/
def cutScheme? (chars : List Char) : Option (String × List Char) :=
  match chars.dropWhile isSchemeChar with
  | ':' :: '/' :: '/' :: rest =>
      let scheme := String.ofList (chars.takeWhile isSchemeChar)
      let common := scheme.toLower = "http" || scheme.toLower = "https"
      some (if common then scheme.toLower else scheme, rest)
  | _ => none

def endsAuthority (c : Char) : Bool :=
  c = '/' || c = '?' || c = '#'

def isPathChar (isQuery : Bool) (c : Char) : Bool :=
  0x20 < c.toNat && c != '<' && c != '>' && c != (if isQuery then '"' else '\x60')

/-- Whether a path and a query can be read. A proxy has none, so they do not count otherwise. -/
def isPath (chars : List Char) : Bool :=
  let shown := chars.takeWhile (· ≠ '#')
  (shown.takeWhile (· ≠ '?')).all (isPathChar false) &&
    ((shown.dropWhile (· ≠ '?')).drop 1).all (isPathChar true)

def withoutUser (authority : List Char) : List Char :=
  if authority.contains '@' then (authority.dropWhile (· ≠ '@')).drop 1 else authority

def read? (text : String) : Option Proxy :=
  let (scheme, rest) := (cutScheme? text.toList).getD ("http", text.toList)
  let authority := rest.takeWhile (!endsAuthority ·)
  let path := rest.dropWhile (!endsAuthority ·)
  let isWhole := (cutScheme? text.toList).isSome || (path = [] && text ≠ "*")
  if text.utf8ByteSize ≤ Url.lengthLimit && schemes.contains scheme && isWhole &&
      Authority.isReadable authority && isPath path then
    some { scheme, authority := withoutUser authority }
  else none

/-! ## Places -/

def text (proxy : Proxy) : String :=
  s!"{proxy.scheme}://{String.ofList proxy.authority}/"

def isSecure (proxy : Proxy) : Bool :=
  proxy.scheme = "https"

def hostOf (authority : List Char) : List Char × List Char :=
  match authority.dropWhile (· ≠ ']') with
  | ']' :: rest => (authority.takeWhile (· ≠ ']') ++ [']'], rest)
  | _ => (authority.takeWhile (· ≠ ':'), authority.dropWhile (· ≠ ':'))

/-- The host and the port to connect to. A port that cannot be read is the one that the scheme
implies. -/
def address (proxy : Proxy) : String :=
  let (host, rest) := hostOf proxy.authority
  let digits := rest.drop 1
  let implied := if proxy.isSecure then 443 else 80
  let number := Text.numberOf 10 digits
  let port := if digits ≠ [] && digits.all Text.isDigit && number ≤ 65535 then number else implied
  s!"{String.ofList host}:{port}"

end Proxy

/-! ## Exemptions -/

/-- What is asked without a proxy: a host with an address, the hosts of a network, whose addresses agree
in their first bits, or a domain and what belongs to it. -/
inductive Exemption where
  | address (host : Host)
  | network (host : Host) (bits : Nat)
  | domain (name : List Char)
  deriving DecidableEq, Repr

namespace Exemption

def readAddress? (chars : List Char) : Option Host :=
  match Host.readTail? chars with
  | some [high, low] => some (.version4 (high * 65536 + low))
  | _ => Host.readVersion6 chars

def numberOf? : Host → Option (Nat × Nat)
  | .version4 number => some (number, 32)
  | .version6 pieces => some (pieces.foldl (fun number piece => number * 65536 + piece) 0, 128)
  | _ => none

def readNetwork? (chars : List Char) : Option Exemption :=
  match chars.dropWhile (· ≠ '/') with
  | '/' :: digits =>
      match readAddress? (chars.takeWhile (· ≠ '/')) with
      | none => none
      | some host =>
          let bits := Text.numberOf 10 digits
          let width := ((numberOf? host).map Prod.snd).getD 0
          if digits ≠ [] && digits.all Text.isDigit && digits.length ≤ 3 && bits ≤ width then
            some (.network host bits)
          else none
  | _ => none

def read? (chars : List Char) : Option Exemption :=
  if chars = [] then none
  else ((readNetwork? chars).or ((readAddress? chars).map .address)).getD (.domain chars)

/-- Whether a domain is another one or belongs to it. A dot in front of the other one may be missing. -/
def covers (name domain : List Char) : Bool :=
  let (name, domain) := (name.map Char.toLower, domain.map Char.toLower)
  let bare := if name.head? = some '.' then name.drop 1 else name
  name = ['*'] || bare = domain || ('.' :: bare).isSuffixOf domain

def admits (exemption : Exemption) (host : Host) : Bool :=
  match exemption, host with
  | .domain name, .domain asked => covers name asked
  | .domain _, _ => false
  | .address other, _ => host = other
  | .network other bits, _ =>
      match numberOf? other, numberOf? host with
      | some (number, width), some (asked, askedWidth) =>
          width = askedWidth && number / Nat.pow 2 (width - bits) = asked / Nat.pow 2 (width - bits)
      | _, _ => false

end Exemption

/-! ## All proxies -/

structure Proxies where
  plain : Option Proxy := none
  secure : Option Proxy := none
  exemptions : List Exemption := []

namespace Proxies

/-- The proxies that texts name: one for each scheme, one for both, and a list of exemptions. -/
def ofTexts (plain secure common exemptions : String) : Proxies where
  plain := (Proxy.read? plain).or (Proxy.read? common)
  secure := (Proxy.read? secure).or (Proxy.read? common)
  exemptions :=
    (Text.splitOn ',' exemptions.toList).filterMap fun part => Exemption.read? (Text.trimmed part)

def proxyFor? (proxies : Proxies) (url : Url) : Option Proxy :=
  match url.host with
  | none => none
  | some host =>
      if proxies.exemptions.any (·.admits host) then none
      else if url.scheme = "https".toList then proxies.secure
      else proxies.plain

end Proxies

end Provision.Http
