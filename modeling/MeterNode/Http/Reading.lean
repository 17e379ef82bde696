import MeterNode.Text.Numeral
import MeterNode.Text.Split
import MeterNode.Text.Utf8

/-!
# Reading HTTP messages

A status page reads the first line of a request; an uploader reads the first line, the stated
length and the body of a reply.  Requests are text.  Replies are bytes, of which a part is read
only if it is valid text.

* `requestLine`: method and target of a request whose version is 1.
* `statusCode`: the three-character number after the version in a reply.
* `contentLength`: the stated length, which must not be stated twice.
* `responseBody`: the bytes after the first blank line, cut at the stated length.
-/

namespace MeterNode.Http

open MeterNode.Text

/-- Where a run of bytes first occurs. -/
def indexOf (run : Bytes) : Bytes → Option Nat
  | [] => if run = [] then some 0 else none
  | b :: rest => if run.isPrefixOf (b :: rest) then some 0 else (indexOf run rest).map (· + 1)

/-- Where the blank line begins that ends the headers. -/
def headerEnd (bytes : Bytes) : Option Nat := indexOf [13, 10, 13, 10] bytes

/-- Whether a word names version 1 of the protocol. -/
def isVersion (word : List Char) : Bool := ['H', 'T', 'T', 'P', '/', '1', '.'].isPrefixOf word

/-- The method and the target of a request. -/
def requestLine (request : String) : Option (String × String) :=
  match (lines request.toList).head?.map words with
  | some (method :: target :: version :: _) =>
      if isVersion version then some (String.ofList method, String.ofList target) else none
  | _ => none

/-- The first line of a request. -/
def firstLine (request : String) : String :=
  String.ofList ((lines request.toList).headD [])

/-- The status of a first line. -/
def statusOfLine (line : String) : Option Nat :=
  match words line.toList with
  | version :: code :: _ =>
      if isVersion version ∧ (String.ofList code).utf8ByteSize = 3 then natural? 65535 code
      else none
  | _ => none

/-- The bytes before the first line end. -/
def statusLine (reply : Bytes) : Bytes := reply.take ((indexOf [13, 10] reply).getD reply.length)

/-- The status of a reply. -/
def statusCode (reply : Bytes) : Option Nat := (text? (statusLine reply)).bind statusOfLine

/-- Why a stated length was refused. -/
inductive LengthError where
  | invalid
  | duplicate
deriving DecidableEq

/-- The description of a refusal. -/
def LengthError.text : LengthError → String
  | invalid => "invalid content-length"
  | duplicate => "duplicate content-length"

/-- The largest length that can be stated. -/
def lengthMax : Nat := UInt64.size - 1

/-- The value of a header line, if it states a length. -/
def lengthField (line : List Char) : Option (List Char) :=
  match cutOnce [':'] line with
  | some (name, value) =>
      if sameIgnoringCase name "content-length".toList then some value else none
  | none => none

/-- The length stated by some header lines, after the length `known` of the lines before. -/
def lengthOf (known : Option Nat) : List (List Char) → Except LengthError (Option Nat)
  | [] => .ok known
  | line :: rest =>
      match lengthField line with
      | none => lengthOf known rest
      | some value =>
          match natural? lengthMax (trim value), known with
          | none, _ => .error .invalid
          | some _, some _ => .error .duplicate
          | some n, none => lengthOf (some n) rest

/-- The length stated by the headers of a message. -/
def contentLength (message : String) : Except LengthError (Option Nat) :=
  lengthOf none ((lines message.toList).drop 1)

/-- The length stated by the bytes before the blank line, if they are text and state one. -/
def declaredLength (header : Bytes) : Option Nat :=
  (text? header).bind fun s => (contentLength s).toOption.join

/-- The body of a reply. -/
def responseBody (reply : Bytes) : Bytes :=
  match headerEnd reply with
  | none => []
  | some at_ =>
      let body := reply.drop (at_ + 4)
      match declaredLength (reply.take at_) with
      | some n => body.take n
      | none => body

/-- The target of a request without its query. -/
def targetPath (target : String) : String := String.ofList (target.toList.takeWhile (· ≠ '?'))

end MeterNode.Http
