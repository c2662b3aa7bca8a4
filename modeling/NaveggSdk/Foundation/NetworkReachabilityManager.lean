import NaveggSdk.Foundation.Reachability

/-!
# `NetworkReachabilityManager`: Alamofire's view of the network

The SDK asks two libraries about the network. Whether there is a connection it asks a fresh
`NetworkReachabilityManager`, each time; when the network changes it is told by `Reachability`. Both
read the same flags and weigh them differently (`connection_eq_wifi_iff`, `connection_eq_none_iff`).

The listener is left out: the SDK sets none.
-/

namespace NetworkReachabilityManager

inductive ConnectionType where
  | ethernetOrWiFi
  | wwan
  deriving DecidableEq

inductive NetworkReachabilityStatus where
  | unknown
  | notReachable
  | reachable (connectionType : ConnectionType)
  deriving DecidableEq

def isNetworkReachable (flags : NetworkFlags) : Bool :=
  let isReachable := flags.reachable
  let needsConnection := flags.connectionRequired
  let canConnectAutomatically := flags.connectionOnDemand || flags.connectionOnTraffic
  let canConnectWithoutUserInteraction := canConnectAutomatically && !flags.interventionRequired
  isReachable && (!needsConnection || canConnectWithoutUserInteraction)

/-- `networkReachabilityStatusForFlags`, on iOS. -/
def networkReachabilityStatusForFlags (flags : NetworkFlags) : NetworkReachabilityStatus :=
  if !isNetworkReachable flags then .notReachable
  else if flags.isWWAN then .reachable .wwan
  else .reachable .ethernetOrWiFi

/-- `networkReachabilityStatus`; there are no flags when `SCNetworkReachabilityGetFlags` fails. -/
def networkReachabilityStatus (flags : Option NetworkFlags) : NetworkReachabilityStatus :=
  match flags with
  | none => .unknown
  | some flags => networkReachabilityStatusForFlags flags

def isReachableOnWWAN (flags : Option NetworkFlags) : Bool :=
  networkReachabilityStatus flags = .reachable .wwan

def isReachableOnEthernetOrWiFi (flags : Option NetworkFlags) : Bool :=
  networkReachabilityStatus flags = .reachable .ethernetOrWiFi

def isReachable (flags : Option NetworkFlags) : Bool :=
  isReachableOnWWAN flags || isReachableOnEthernetOrWiFi flags

@[simp] theorem isReachable_some (flags : NetworkFlags) :
    isReachable (some flags) = isNetworkReachable flags := by
  unfold isReachable isReachableOnWWAN isReachableOnEthernetOrWiFi networkReachabilityStatus
    networkReachabilityStatusForFlags
  cases hreachable : isNetworkReachable flags <;> cases hwwan : flags.isWWAN <;>
    simp [hreachable, hwwan]

end NetworkReachabilityManager

namespace Reachability

open NetworkReachabilityManager

variable {κ : Type} {r : Reachability κ} (hdevice : r.isRunningOnDevice = true)
  (hcellular : r.allowsCellularConnection = true)
include hdevice hcellular

/-- **On a device the two agree on a Wi-Fi**: it is what is reachable and not cellular. -/
theorem connection_eq_wifi_iff :
    r.connection = .wifi ↔ isNetworkReachable r.flags = true ∧ r.flags.isWWAN = false := by
  unfold Reachability.connection isConnectionOnTrafficOrDemandFlagSet isNetworkReachable
  rw [hdevice, hcellular]
  cases r.flags.reachable <;> cases r.flags.connectionRequired <;>
    cases r.flags.connectionOnTraffic <;> cases r.flags.connectionOnDemand <;>
    cases r.flags.interventionRequired <;> cases r.flags.isWWAN <;> decide

/-- **They disagree on a cellular network that has to be connected first**: for `Reachability` that
is a connection. -/
theorem connection_eq_none_iff :
    r.connection = .none ↔ isNetworkReachable r.flags = false ∧
      ¬ (r.flags.reachable = true ∧ r.flags.isWWAN = true) := by
  unfold Reachability.connection isConnectionOnTrafficOrDemandFlagSet isNetworkReachable
  rw [hdevice, hcellular]
  cases r.flags.reachable <;> cases r.flags.connectionRequired <;>
    cases r.flags.connectionOnTraffic <;> cases r.flags.connectionOnDemand <;>
    cases r.flags.interventionRequired <;> cases r.flags.isWWAN <;> decide

end Reachability
