import Provision.Http.Answer

/-!
# Servers

A server answers requests for its resources, each with a status, headers and a body, and closes the
connection. `Response.sent` is all that it sends. Of a `Peer` it is only known what a client makes of its
answers, and so it may be one that is reached with encryption.
-/

namespace Provision.Http

inductive Sending where
  | withLength
  | chunked (size : Nat)
  | untilClose
  | cutShort
  | chunkedCutShort (size : Nat)
  | dropped
  | garbled
  | silent
  deriving DecidableEq, Repr

structure Response where
  status : Nat := 200
  reason : String := ""
  headers : List (String × String) := []
  body : ByteArray := .empty
  sending : Sending := .withLength

structure Server where
  address : String
  responses : List (String × Response)

structure Request where
  method : String
  target : String
  userAgent : String
  deriving DecidableEq, Repr

/-- Who can be asked at an address, with encryption or without it. As a proxy he may lead on to others.
The answer may depend on what was asked before. Without one the connection does not come about, or breaks
off early. -/
structure Peer where
  address : String
  isSecure : Bool
  leadsOn : Bool := false
  answer? : List Request → Request → Option Answer

namespace Response

def headSent (response : Response) (framing : List (String × String)) : ByteArray :=
  let headers := response.headers ++ framing ++ [("Connection", "close")]
  (s!"HTTP/1.1 {response.status} {response.reason}\r\n" ++
    String.join (headers.map fun header => s!"{header.1}: {header.2}\r\n") ++ "\r\n").toByteArray

def chunksSent (response : Response) (size : Nat) : ByteArray :=
  (pieces size response.body).foldl (fun sent chunk => sent ++ Chunk.written chunk) .empty

def sent (response : Response) : ByteArray :=
  let body := response.body
  let length (size : Nat) : List (String × String) := [("Content-Length", toString size)]
  let chunks : List (String × String) := [("Transfer-Encoding", "chunked")]
  match response.sending with
  | .withLength => response.headSent (length body.size) ++ body
  | .chunked size =>
      response.headSent chunks ++ response.chunksSent size ++ Chunk.lastWritten
  | .untilClose => response.headSent [] ++ body
  | .cutShort => response.headSent (length (body.size + 10)) ++ body
  | .chunkedCutShort size => response.headSent chunks ++ response.chunksSent size
  | .garbled => "?\r\n\r\n".toByteArray
  | .dropped | .silent => .empty

def answer? (response : Response) : Option Answer :=
  Answer.read? response.sent 0

end Response

namespace Server

def absent : Response := { status := 404 }

def responseFor (server : Server) (target : String) : Response :=
  (server.responses.lookup target).getD absent

def peer (server : Server) : Peer where
  address := server.address
  isSecure := false
  answer? _ request := (server.responseFor request.target).answer?

end Server

end Provision.Http
