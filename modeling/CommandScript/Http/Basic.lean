import CommandScript.Value.Conversion

/-!
# Requests and responses

What is asked of a server and what comes back: a response, or a fault on the way. Faults of
transport may pass when the request is made again; other faults of the exchange will not, and some
faults are no part of an exchange at all.

A client makes the exchange. The text of a response is its own, and nothing is assumed of how it
decodes the content.

## Main definitions

- `CommandScript.Http.Request`, `CommandScript.Http.Response` — a request and what answers it
- `CommandScript.Http.Fault` — what comes in place of a response
- `CommandScript.Http.Reply` — a response or a fault

## Design notes

Which kinds of faults a client has, and which of them are of transport or of the exchange, is
assumed of it. A fault of any other kind counts as none of the exchange.
-/

namespace CommandScript.Http

/-- A request. Header fields and parameters are kept as they were given. -/
structure Request where
  method : String
  url : String
  headers : List (Value × Value)
  params : List (Value × Value)
  content : Value
  timeout : Binary64
  followsRedirects : Bool

/-- How far a fault concerns the exchange. -/
inductive FaultClass where
  /-- The transport failed; another attempt may do better. -/
  | transport
  /-- The exchange failed. -/
  | exchange
  /-- The request was refused before there was an exchange. -/
  | refused
  deriving DecidableEq, Repr

/-- What comes in place of a response, or in place of its text. How it is classed goes by its kind
alone, by the lists that are assumed of a client. -/
structure Fault where
  kind : String
  message : String
  deriving DecidableEq, Repr

namespace Fault

/-- The kinds of faults of transport. -/
def transportKinds : List String :=
  ["TransportError", "TimeoutException", "ConnectTimeout", "ReadTimeout", "WriteTimeout",
    "PoolTimeout", "NetworkError", "ConnectError", "ReadError", "WriteError", "CloseError",
    "ProtocolError", "LocalProtocolError", "RemoteProtocolError", "ProxyError",
    "UnsupportedProtocol"]

/-- The kinds of other faults of an exchange. -/
def exchangeKinds : List String :=
  ["HTTPError", "RequestError", "HTTPStatusError", "DecodingError", "TooManyRedirects"]

/-- How far a fault concerns the exchange. -/
def faultClass (f : Fault) : FaultClass :=
  if transportKinds.contains f.kind then .transport
  else if exchangeKinds.contains f.kind then .exchange
  else .refused

end Fault

/-- A response: its status, its content, the type of the content where it is given, and the text
that the client makes of the content, or why it makes none. -/
structure Response where
  status : Int
  content : List UInt8
  contentType : Option String
  text : Except Fault String

/-- What answers a request. -/
inductive Reply where
  | response (r : Response)
  | fault (f : Fault)

end CommandScript.Http
