import Provision.Http.Authority
import Provision.Http.Url

/-!
# Addresses of requests

A request names an address more strictly than a text does. `Url.forRequest?` is the address as a request
names it, which has a path and no fragment; an address without two slashes can only be named if all of
it is an authority.
-/

namespace Provision.Http.Url

def lengthLimit : Nat := 65534

def schemeLimit : Nat := 64

def forRequest? (url : Url) : Option Url :=
  if lengthLimit < url.text.utf8ByteSize then none
  else if url.host.isSome || isFile url.scheme then
    if Authority.isReadable url.authorityText && url.scheme.length ≤ schemeLimit then
      let path := if url.path = .segments [] then .segments [[]] else url.path
      some { url with path, fragment := none }
    else none
  else if Authority.isReadable url.text.toList then some url
  else none

end Provision.Http.Url
