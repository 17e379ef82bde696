import MeterNode.Text.Numeral
import MeterNode.Text.Split

/-!
# Endpoints

The address of a collector is `scheme://host:port`, with a path behind it that may be empty.  The
scheme is `http` or `https` in any case of letters, the host is not empty and at most 127 bytes
long, and the port is written out and is not zero.  The path is kept without slashes at its end.

The host ends at the last colon before the path, so a host may contain colons itself.  Of several
faults the first of these is reported: scheme, empty host, long host, missing port, bad port.
-/

namespace MeterNode

open MeterNode.Text

/-- Why an address was refused. -/
inductive EndpointError where
  | missingScheme
  | unsupportedScheme
  | missingHost
  | missingPort
  | invalidPort
  | tooLong
deriving DecidableEq

/-- The description of a refusal. -/
def EndpointError.text : EndpointError → String
  | missingScheme => "endpoint missing scheme"
  | unsupportedScheme => "endpoint scheme not http/https"
  | missingHost => "endpoint missing host"
  | missingPort => "endpoint needs an explicit port"
  | invalidPort => "endpoint port invalid"
  | tooLong => "endpoint host too long"

/-- The short name of a refusal. -/
def EndpointError.name : EndpointError → String
  | missingScheme => "MissingScheme"
  | unsupportedScheme => "UnsupportedScheme"
  | missingHost => "MissingHost"
  | missingPort => "MissingPort"
  | invalidPort => "InvalidPort"
  | tooLong => "TooLong"

/-- The schemes of a collector. -/
inductive Scheme where
  | http
  | https
deriving DecidableEq

/-- The name of a scheme. -/
def Scheme.name : Scheme → String
  | http => "http"
  | https => "https"

/-- The scheme of a name, in any case of letters. -/
def Scheme.ofText? (cs : List Char) : Option Scheme :=
  if sameIgnoringCase cs ['h', 't', 't', 'p'] then some .http
  else if sameIgnoringCase cs ['h', 't', 't', 'p', 's'] then some .https
  else none

/-- The address of a collector. -/
structure Endpoint where
  scheme : Scheme
  host : String
  port : Nat
  /-- What followed the port, without slashes at its end. -/
  path : String
deriving DecidableEq

namespace Endpoint

/-- The longest host, in bytes. -/
def hostMax : Nat := 127

/-- The text without slashes at its end. -/
def dropSlashes (cs : List Char) : List Char := (cs.reverse.dropWhile (· = '/')).reverse

/-- A port that is written out. -/
def port? (cs : List Char) : Except EndpointError Nat :=
  match natural? 65535 cs with
  | some 0 => .error .invalidPort
  | some n => .ok n
  | none => .error .invalidPort

/-- The host and the port before the path. -/
def authority? (cs : List Char) : Except EndpointError (String × Nat) :=
  let (host, port) := match cutLast ':' cs with
    | some (host, port) => (host, some port)
    | none => (cs, none)
  let host := String.ofList host
  if host = "" then .error .missingHost
  else if host.utf8ByteSize > hostMax then .error .tooLong
  else
    match port with
    | none => .error .missingPort
    | some port => (port? port).map fun n => (host, n)

/-- Read an address. -/
def ofText (url : String) : Except EndpointError Endpoint :=
  match cutOnce [':', '/', '/'] url.toList with
  | none => .error .missingScheme
  | some (scheme, rest) =>
      match Scheme.ofText? scheme with
      | none => .error .unsupportedScheme
      | some scheme =>
          (authority? (rest.takeWhile (· ≠ '/'))).map fun (host, port) =>
            { scheme, host, port
              path := String.ofList (dropSlashes (rest.dropWhile (· ≠ '/'))) }

/-- Whether the connection has to be encrypted. -/
def isSecure (e : Endpoint) : Bool := e.scheme = .https

/-- Host and port, as a request names them. -/
def hostHeader (e : Endpoint) : String := e.host ++ ":" ++ toString e.port

/-- What identifies a collector.  Its path does not. -/
def key (e : Endpoint) : String := e.scheme.name ++ "://" ++ e.hostHeader

end Endpoint

end MeterNode
