import MeterNode.Effect
import MeterNode.Http.Message
import MeterNode.Http.Reading
import MeterNode.Settings.Build
import MeterNode.Text.Escaped
import MeterNode.Text.Fixed

/-!
# The status page

A visitor asks for one channel with `GET /<uuid>`, or for all of them with `GET /` if that is
allowed.  The answer is a document that lists the channels that match, each with its last sample.
A channel that does not exist is answered with 404, a request of any other form with 400 and an
empty body.
-/

namespace MeterNode

open MeterNode.Text

/-- What the page shows of one channel. -/
structure ChannelView where
  uuid : String
  /-- When the last sample was taken, in UTC milliseconds. -/
  lastTs : Option Nat
  lastValue : Option Float
  /-- Seconds between samples. -/
  intervalS : Nat
  protocol : String

namespace Status

/-- What a visitor asks for. -/
inductive Query where
  | all
  | channel (uuid : String)

/-- The query as log lines show it. -/
def Query.shown : Query → String
  | .all => "All"
  | .channel uuid => "Channel(" ++ quoted uuid ++ ")"

/-- Whether a channel is asked for. -/
def Query.selects (q : Query) (v : ChannelView) : Bool :=
  match q with
  | .all => true
  | .channel uuid => v.uuid == uuid

/-- The longest identifier that can be asked for. -/
def idMax : Nat := 36

/-- Whether a character may stand in an identifier. -/
def isIdChar (c : Char) : Bool := c.isAlphanum || c = '-' || c = '_'

/-- The query of a path without its leading slash. -/
def queryOfPath (indexEnabled : Bool) (path : List Char) : Option Query :=
  if path = [] then if indexEnabled then some .all else none
  else if path.length ≤ idMax ∧ path.all isIdChar then some (.channel (String.ofList path))
  else none

/-- The query of a request. -/
def queryOf (indexEnabled : Bool) (request : String) : Option Query :=
  match Http.requestLine request with
  | some (method, target) =>
      if method = "GET" then
        match (Http.targetPath target).toList with
        | '/' :: path => queryOfPath indexEnabled path
        | _ => none
      else none
  | none => none

/-- The last sample of a channel, if it is known whole. -/
def lastText (v : ChannelView) : String :=
  match v.lastTs, v.lastValue with
  | some ts, some value => " [ " ++ toString ts ++ ", " ++ fixed 2 value ++ " ] "
  | _, _ => ""

/-- The part of the document for one channel. -/
def channelText (v : ChannelView) : String :=
  " \x7b \"uuid\": \"" ++ v.uuid ++ "\", \"last\": " ++ toString (v.lastTs.getD 0) ++
    ", \"interval\": " ++ toString v.intervalS ++ ", \"protocol\": \"" ++ v.protocol ++
    "\", \"tuples\": [" ++ lastText v ++ "] \x7d"

/-- The document that lists some channels. -/
def document (views : List ChannelView) : String :=
  "\x7b \"version\": \"" ++ version ++ "\", \"generator\": \"" ++ generator ++
    "\", \"data\": [" ++ ",".intercalate (views.map channelText) ++ " ]\x7d"

/-- The type of the document. -/
def contentType : String := "application/json"

/-- The status line of an answer that lists `matched` channels. -/
def statusFor (matched : Nat) : String := if matched > 0 then "200 OK" else "404 Not Found"

/-- The answer to a query. -/
def answer (q : Query) (views : List ChannelView) : String :=
  let selected := views.filter q.selects
  Http.response (statusFor selected.length) contentType (document selected)

/-- The answer to a request that asks for nothing. -/
def badRequest : String := Http.response "400 Bad Request" contentType ""

/-- The whole response to a request. -/
def respond (indexEnabled : Bool) (views : List ChannelView) (request : String) : String :=
  match queryOf indexEnabled request with
  | none => badRequest
  | some q => answer q views

/-- Serve a request: log what was asked for and give the response. -/
def serve (indexEnabled : Bool) (views : List ChannelView) (request : String) : Act String := do
  match queryOf indexEnabled request with
  | none => Act.log .warn ("httpd: invalid request line=" ++ Http.firstLine request)
  | some q =>
      let matched := (views.filter q.selects).length
      Act.log .debug ("httpd: query=" ++ q.shown ++ " matched=" ++ toString matched ++
        " status=" ++ statusFor matched)
  return respond indexEnabled views request

end Status

end MeterNode
