import MeterNode.Text.Numeral
import MeterNode.Text.Split

/-!
# Build settings

A node is set up when it is built: the network to join, the collector to report to, the time
server, the local offset and the identifiers of its channels.  All but the credentials of the
network have defaults.  The settings come as named variables, of which any may be missing.

Channel identifiers are given as one list separated by commas; blanks around an identifier and
empty entries do not count.
-/

namespace MeterNode

open MeterNode.Text

/-- The name the node gives itself in documents and requests. -/
def generator : String := "meterlink"

/-- The version of the node. -/
def version : String := "0.1.0"

/-- The settings of a node. -/
structure BuildSettings where
  /-- The name of the wireless network. -/
  wifiSsid : Option String
  /-- Its password, empty for an open network. -/
  wifiPassword : String
  /-- The name the node asks for on the network. -/
  hostname : String
  /-- The address of the collector. -/
  middleware : String
  /-- The time server. -/
  ntpServer : String
  /-- Minutes by which local winter time is ahead of UTC. -/
  tzOffsetMin : Int
  /-- The channel identifiers, separated by commas. -/
  channelUuids : String

/-- A whole number from a setting, or the default. -/
def offsetOr (value : Option String) (fallback : Int) : Int :=
  (value.bind fun s => integer? 32 (trim s.toList)).getD fallback

namespace BuildSettings

/-- The settings that a table of variables gives. -/
def ofVariables (var : String → Option String) : BuildSettings where
  wifiSsid := var "METERLINK_WIFI_SSID"
  wifiPassword := (var "METERLINK_WIFI_PASSWORD").getD ""
  hostname := (var "METERLINK_HOSTNAME").getD "meterlink"
  middleware := (var "METERLINK_MIDDLEWARE").getD "http://volkszaehler.local:80/middleware.php"
  ntpServer := (var "METERLINK_NTP_SERVER").getD "pool.ntp.org"
  tzOffsetMin := offsetOr (var "METERLINK_TZ_OFFSET_MIN") 60
  channelUuids := (var "METERLINK_CHANNEL_UUIDS").getD ""

/-- The identifiers of a list separated by commas. -/
def uuidsOf (list : String) : List String :=
  ((pieces ',' list.toList).map trim).filter (· ≠ []) |>.map String.ofList

/-- The identifier for the metric at a position. -/
def channelUuid (s : BuildSettings) (index : Nat) : Option String :=
  (uuidsOf s.channelUuids)[index]?

end BuildSettings

end MeterNode
