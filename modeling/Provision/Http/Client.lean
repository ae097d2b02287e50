import Provision.Http.Proxy
import Provision.Http.Server
import Provision.Http.Url.Reader
import Provision.Settings

/-!
# Fetching

A client asks the server of an address for its resource and follows up to ten redirects. It goes to the
server itself or to a proxy, which it asks to lead on where the server is reached with encryption. Where
there is no one to ask, the connection is refused.
-/

namespace Provision.Http

inductive FetchError where
  | malformedAddress
  | unusableAddress (url : String)
  | notSent (url : String)
  | tooManyRedirects (url : String)
  deriving DecidableEq, Repr

def FetchError.text : FetchError → String
  | .malformedAddress => "builder error"
  | .unusableAddress url => s!"builder error for url ({url})"
  | .notSent url => s!"error sending request for url ({url})"
  | .tooManyRedirects url => s!"error following redirect for url ({url})"

def brokenBody : String := "error decoding response body"

/-- What a client can reach: a server that is known to the byte, and others; and the proxies for its
requests. -/
structure Network where
  server : Option Server := none
  others : List Peer := []
  proxies : Proxies := {}

namespace Network

def peers (network : Network) : List Peer :=
  (network.server.map Server.peer).toList ++ network.others

def peerAt? (network : Network) (isSecure : Bool) (place : String) : Option Peer :=
  network.peers.find? fun peer => peer.isSecure = isSecure ∧ peer.address = place

end Network

/-- A connection that a client has tried to make: for which address, through which proxy, to which
place if the host is an address, and whether it was made. -/
structure Connection where
  purpose : String
  proxy : Option String
  place : Option String
  isMade : Bool
  deriving DecidableEq, Repr

/-- What a client has done: the connections it has tried to make, the requests it has sent, and what
has come of them. -/
structure Exchange where
  connections : List Connection := []
  requests : List Request := []
  result : Except FetchError Answer

def Exchange.after (first later : Exchange) : Exchange where
  connections := first.connections ++ later.connections
  requests := first.requests ++ later.requests
  result := later.result

namespace Client

def userAgent : String :=
  s!"{Settings.programName}/{Settings.programVersion}"

def redirectLimit : Nat := 10

/-! ## One request -/

def addressOf (url : Url) : String :=
  let port := url.port.getD ((Url.impliedPort? url.scheme).getD 0)
  String.ofList ((url.host.map Host.text).getD []) ++ s!":{port}"

/-- Whether a place is written as the address of a host, which need not be looked up. -/
def isNumeric (place : String) : Bool :=
  (Exemption.readAddress? (place.toList.takeWhile (· ≠ ':'))).isSome || place.startsWith "["

def request (method target : String) : Request where
  method
  target
  userAgent

def connectionFor (network : Network) (url : Url) : Connection :=
  let proxy := network.proxies.proxyFor? url
  let place := (proxy.map Proxy.address).getD (addressOf url)
  { purpose := String.ofList (url.scheme ++ "://".toList ++ url.authorityText ++ ['/'])
    proxy := proxy.map Proxy.text
    place := if isNumeric place then some place else none
    isMade := network.peers.any (·.address = place) }

/-- Asks for the resource of an address once, after earlier requests. A proxy is given the whole address,
and is asked to lead on to the host of one that is reached with encryption. -/
def ask (network : Network) (earlier : List Request) (url : Url) :
    List Connection × List Request × Option Answer :=
  let connection := connectionFor network url
  let direct := request "GET" url.target
  match network.proxies.proxyFor? url with
  | none =>
      match network.peerAt? url.isSecure (addressOf url) with
      | none => ([connection], [], none)
      | some peer => ([connection], [direct], peer.answer? earlier direct)
  | some proxy =>
      match network.peerAt? proxy.isSecure proxy.address with
      | none => ([connection], [], none)
      | some peer =>
          if url.isSecure then
            let leading := request "CONNECT" (addressOf url)
            match if peer.leadsOn then network.peerAt? true (addressOf url) else none with
            | none => ([connection], [leading], none)
            | some host => ([connection], [leading, direct], host.answer? (earlier ++ [leading]) direct)
          else
            let whole := request "GET" url.text
            ([connection], [whole], peer.answer? earlier whole)

/-! ## Redirects -/

def redirection? (url : Url) (answer : Answer) : Option Url :=
  if Status.isRedirect answer.head.status then
    (((answer.head.values "location").head?.bind Utf8.decode?).bind url.join?).bind Url.forRequest?
  else none

def follow (network : Network) (asked : Url) (redirects : Nat) (earlier : List Request) (url : Url) :
    Exchange :=
  let (connections, requests, answer) := ask network earlier url
  match answer with
  | none => { connections, requests, result := .error (.notSent asked.text) }
  | some answer =>
      match redirection? url answer, redirects with
      | none, _ => { connections, requests, result := .ok answer }
      | some _, 0 => { connections, requests, result := .error (.tooManyRedirects url.text) }
      | some next, redirects + 1 =>
          let first : Exchange :=
            { connections, requests, result := .error (.unusableAddress next.text) }
          if next.isFetchable then
            first.after (follow network asked redirects (earlier ++ requests) next)
          else first

def fetch (network : Network) (address : String) : Exchange :=
  match Url.parse? address with
  | none => { result := .error .malformedAddress }
  | some url =>
      let asked := url.withoutCredentials
      let unusable : Exchange := { result := .error (.unusableAddress asked.text) }
      if asked.isFetchable then
        match asked.forRequest? with
        | some first => follow network asked redirectLimit [] first
        | none => unusable
      else unusable

end Client

end Provision.Http
