/-!
# Network errors

The sixteen ways a socket call can fail, numbered from minus one as network stacks of this kind
number them, so that log lines can be compared with captures.
-/

namespace MeterNode

/-- A failed socket call. -/
inductive NetError where
  | mem
  | buf
  | timeout
  | route
  | inProgress
  | value
  | wouldBlock
  | use
  | already
  | isConnected
  | conn
  | interface
  | abort
  | reset
  | closed
  | argument
deriving DecidableEq

namespace NetError

/-- All errors, in the order of their numbers. -/
def all : List NetError :=
  [mem, buf, timeout, route, inProgress, value, wouldBlock, use, already, isConnected, conn,
    interface, abort, reset, closed, argument]

/-- The number of an error. -/
def code (e : NetError) : Int := -(1 + (e.ctorIdx : Int))

/-- The short name of an error. -/
def name : NetError → String
  | mem => "Mem"
  | buf => "Buf"
  | timeout => "Timeout"
  | route => "Route"
  | inProgress => "InProgress"
  | value => "Value"
  | wouldBlock => "WouldBlock"
  | use => "Use"
  | already => "Already"
  | isConnected => "IsConnected"
  | conn => "Conn"
  | interface => "Interface"
  | abort => "Abort"
  | reset => "Reset"
  | closed => "Closed"
  | argument => "Argument"

/-- The description of an error. -/
def text : NetError → String
  | mem => "out_of_memory"
  | buf => "buffer"
  | timeout => "timeout"
  | route => "no_route"
  | inProgress => "in_progress"
  | value => "illegal_value"
  | wouldBlock => "would_block"
  | use => "address_in_use"
  | already => "already_connecting"
  | isConnected => "already_connected"
  | conn => "not_connected"
  | interface => "netif"
  | abort => "aborted"
  | reset => "reset"
  | closed => "closed"
  | argument => "illegal_argument"

/-- The error of a short name. -/
def ofName? (s : String) : Option NetError := all.find? (·.name == s)

/-- The send buffer is full, so the same bytes may be written again later. -/
def isBackpressure (e : NetError) : Bool := e = mem || e = buf

/-- The code and the description as log lines show them. -/
def shown (e : NetError) : String := "code=" ++ toString e.code ++ " (" ++ e.text ++ ")"

end NetError

end MeterNode
