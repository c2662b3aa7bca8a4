import NaveggSdk.Library.CivilDate
import NaveggSdk.Sdk.SystemVersion
import NaveggSdk.Delivery.Flag
import NaveggSdk.Delivery.Suppression
import NaveggSdk.Delivery.Flush
import NaveggSdk.Delivery.Persistence
import NaveggSdk.Delivery.Content
import NaveggSdk.Delivery.Retry
import NaveggSdk.Delivery.LastSync
import NaveggSdk.Identity.Lock
import NaveggSdk.Identity.Account
import NaveggSdk.Identity.Number
import NaveggSdk.Identity.Phases
import NaveggSdk.Identity.Ids
import NaveggSdk.System.Restart
import NaveggSdk.System.World
import NaveggSdk.System.Host
import NaveggSdk.System.Alone
import NaveggSdk.Monitoring.Observers
import NaveggSdk.Monitoring.WiFi
import NaveggSdk.Monitoring.Rounds
import NaveggSdk.Monitoring.Exact
import NaveggSdk.Segments.Freshness
import NaveggSdk.Segments.Order
import NaveggSdk.Segments.View
import NaveggSdk.Segments.Policy
import NaveggSdk.Segments.Custom
import NaveggSdk.Segments.Known
import NaveggSdk.Answers.ErrorStatus
import NaveggSdk.Answers.Malformed
import NaveggSdk.Answers.Crash
