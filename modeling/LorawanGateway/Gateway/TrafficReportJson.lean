import LorawanGateway.Gateway.TrafficReport
import LorawanGateway.Json.Basic

/-!
Counters in JSON, to be shown: every counter by its name, what was counted on the way to the server
beside what was counted on the way from it. Round trips are not among them.
-/

namespace LorawanGateway

def UplinkCounters.toJson (up : UplinkCounters) : Json := .object
  [("rx_received", .natural up.received), ("rx_ok", .natural up.receivedOk),
    ("rx_bad", .natural up.receivedBad), ("rx_nocrc", .natural up.receivedWithoutCrc),
    ("filtered", .natural up.filtered), ("forwarded", .natural up.forwarded),
    ("payload_bytes", .natural up.payloadOctets), ("datagrams_sent", .natural up.datagramsSent),
    ("network_bytes", .natural up.networkOctets), ("acks_received", .natural up.acknowledged)]

def DownlinkCounters.toJson (down : DownlinkCounters) : Json := .object
  [("pull_sent", .natural down.pullsSent), ("acks_received", .natural down.acknowledged),
    ("datagrams_received", .natural down.datagramsReceived),
    ("network_bytes", .natural down.networkOctets), ("payload_bytes", .natural down.payloadOctets),
    ("tx_requested", .natural down.requested), ("tx_accepted", .natural down.accepted),
    ("tx_rejected", .natural down.rejected), ("beacons_queued", .natural down.beaconsQueued),
    ("beacons_rejected", .natural down.beaconsRejected)]

def TrafficReport.toJson (report : TrafficReport) : Json := .object
  [("up", report.up.toJson), ("down", report.down.toJson)]

end LorawanGateway
