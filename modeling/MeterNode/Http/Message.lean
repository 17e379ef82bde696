import MeterNode.Text.Utf8

/-!
# Writing HTTP messages

A request and a response are a first line, header lines and a blank line, each ended by a carriage
return and a line feed, and then the body.  Both state the length of the body in bytes.  The
headers that a connection registers form a set; they are written in the order of their texts.
-/

namespace MeterNode.Http

open MeterNode.Text

/-- The line end. -/
def crlf : String := "\r\n"

/-- A set of headers, kept in increasing order. -/
abbrev Headers := List String

/-- Put a header into its place, unless it is there already. -/
def Headers.insert (header : String) : Headers → Headers
  | [] => [header]
  | h :: rest =>
      if header < h then header :: h :: rest
      else if header = h then h :: rest
      else h :: insert header rest

/-- The set of some headers. -/
def Headers.ofList (headers : List String) : Headers :=
  headers.foldl (fun set h => insert h set) []

/-- A request that posts a body. -/
def post (resource host : String) (headers : Headers) (body : String) : String :=
  "POST " ++ resource ++ " HTTP/1.1" ++ crlf ++ "Host: " ++ host ++ crlf ++
    String.join (headers.map (· ++ crlf)) ++
    "Content-Length: " ++ toString body.utf8ByteSize ++ crlf ++ crlf ++ body

/-- A response. -/
def response (status contentType body : String) : String :=
  "HTTP/1.1 " ++ status ++ crlf ++ "Content-type: " ++ contentType ++ crlf ++
    "Content-Length: " ++ toString body.utf8ByteSize ++ crlf ++ crlf ++ body

end MeterNode.Http
