import ProtonVpnOmarchy.Lib.Bytes
import ProtonVpnOmarchy.Lib.LongestPrefix
import ProtonVpnOmarchy.Lib.Stepping
import ProtonVpnOmarchy.Splitd.Bpf.Program
import ProtonVpnOmarchy.Splitd.Bpf.Execution
import ProtonVpnOmarchy.Splitd.Net
import ProtonVpnOmarchy.Splitd.Bpf.Decision
import ProtonVpnOmarchy.Splitd.Model
import ProtonVpnOmarchy.Lib.Fallible
import ProtonVpnOmarchy.Splitd.Bpf.Maps
import ProtonVpnOmarchy.Splitd.Bpf.Replace
import ProtonVpnOmarchy.Splitd.Bpf.Destinations
import ProtonVpnOmarchy.Splitd.Bpf.History
import ProtonVpnOmarchy.Splitd.Bpf.Families
import ProtonVpnOmarchy.Splitd.Engine.Basic
import ProtonVpnOmarchy.Splitd.Engine.PidMap
import ProtonVpnOmarchy.Splitd.Engine.Requests
import ProtonVpnOmarchy.Splitd.Engine.Inheritance
import ProtonVpnOmarchy.Splitd.Engine.Consistency
import ProtonVpnOmarchy.Splitd.Engine.Leaks
import ProtonVpnOmarchy.Splitd.Engine.EmptyConfigs
import ProtonVpnOmarchy.Splitd.Engine.Users
import ProtonVpnOmarchy.Splitd.Engine.Rescans
import ProtonVpnOmarchy.Splitd.Engine.Threads
import ProtonVpnOmarchy.Lib.Text
import ProtonVpnOmarchy.Splitd.Procfs
import ProtonVpnOmarchy.Agent.Apps
import ProtonVpnOmarchy.Splitd.Routing.Disable
import ProtonVpnOmarchy.Splitd.Routing.Enable
import ProtonVpnOmarchy.Splitd.Routing.Precedence
import ProtonVpnOmarchy.Agent.Json
import ProtonVpnOmarchy.Agent.Store.Params
import ProtonVpnOmarchy.Agent.Store.Profiles
import ProtonVpnOmarchy.Agent.Store.Basic
import ProtonVpnOmarchy.Agent.Store.Runs
import ProtonVpnOmarchy.Agent.Store.Effects
import ProtonVpnOmarchy.Agent.Store.Rejections
import ProtonVpnOmarchy.Agent.Store.ProfileLimit
import ProtonVpnOmarchy.Agent.Backend.ConnectParams
import ProtonVpnOmarchy.Agent.Backend.ProfileConnections
import ProtonVpnOmarchy.Agent.JsonText
import ProtonVpnOmarchy.Agent.Store.FileSize
import ProtonVpnOmarchy.Agent.Store.Lifecycle
import ProtonVpnOmarchy.Agent.Store.RecentOrder
import ProtonVpnOmarchy.Agent.Operations.Basic
import ProtonVpnOmarchy.Agent.Operations.Cancellation
import ProtonVpnOmarchy.Agent.Operations.Coordinated
import ProtonVpnOmarchy.Agent.Runtime.Attempt
import ProtonVpnOmarchy.Agent.Runtime.Cancellation
import ProtonVpnOmarchy.Agent.Runtime.Cleanup
import ProtonVpnOmarchy.Agent.Runtime.LateUpdates
import ProtonVpnOmarchy.Agent.Runtime.Disconnection
import ProtonVpnOmarchy.Agent.Runtime.Policy
import ProtonVpnOmarchy.Agent.Session.Answers
import ProtonVpnOmarchy.Agent.Tasks.AutoConnect
import ProtonVpnOmarchy.Agent.Tasks.Interruption
import ProtonVpnOmarchy.Agent.JsonSyntax
import ProtonVpnOmarchy.Agent.Backend.DestinationPolicy
import ProtonVpnOmarchy.Agent.SecretStore.Durability
import ProtonVpnOmarchy.Agent.SecretStore.Orphans
import ProtonVpnOmarchy.Agent.Account.Guards
import ProtonVpnOmarchy.Agent.Account.Rotation
import ProtonVpnOmarchy.Agent.Statistics
import ProtonVpnOmarchy.Agent.Settings.Exclusions
import ProtonVpnOmarchy.Agent.Settings.FeatureRequests
import ProtonVpnOmarchy.Agent.Network.RoundTrip
import ProtonVpnOmarchy.Agent.IpcBridge
import ProtonVpnOmarchy.Agent.Catalog.Search
import ProtonVpnOmarchy.Agent.Catalog.Selection
import ProtonVpnOmarchy.Agent.Catalog.Locations
import ProtonVpnOmarchy.Agent.AppList
import ProtonVpnOmarchy.Agent.Store.RecentKeys
import ProtonVpnOmarchy.Agent.Recovery.Hygiene
import ProtonVpnOmarchy.Agent.Fido2.Delivery
import ProtonVpnOmarchy.Splitd.Connector
import ProtonVpnOmarchy.Splitd.Validation
import ProtonVpnOmarchy.Agent.Settings.SplitRequests
import ProtonVpnOmarchy.Agent.Catalog.Lookup
import ProtonVpnOmarchy.Agent.JsonTokens
import ProtonVpnOmarchy.Agent.SecretStore.Envelopes
import ProtonVpnOmarchy.Lib.Pieces
import ProtonVpnOmarchy.Lib.Dns
import ProtonVpnOmarchy.Agent.AlternativeRouting
import ProtonVpnOmarchy.Agent.GuestHoleDns
import ProtonVpnOmarchy.Lib.Endings
import ProtonVpnOmarchy.Agent.JsonNumbers
import ProtonVpnOmarchy.Agent.Api.Basic
import ProtonVpnOmarchy.Agent.Api.Fallback
import ProtonVpnOmarchy.Agent.StateReducer
import ProtonVpnOmarchy.Agent.JsonOrder
import ProtonVpnOmarchy.Agent.Store.Copies
import ProtonVpnOmarchy.Agent.Store.Locale
import ProtonVpnOmarchy.Agent.Network.Connections
import ProtonVpnOmarchy.Agent.Network.DefaultRoutes
import ProtonVpnOmarchy.Agent.Network.KillSwitch
import ProtonVpnOmarchy.Agent.WebAuth.Pipe
import ProtonVpnOmarchy.Agent.WebAuth.Sso
import ProtonVpnOmarchy.Agent.WebAuth.Callback
import ProtonVpnOmarchy.Agent.LocalAgent.PortForwarding
import ProtonVpnOmarchy.Agent.LocalAgent.Listener
import ProtonVpnOmarchy.Agent.Notifications.Failures
import ProtonVpnOmarchy.Agent.Notifications.Wifi
import ProtonVpnOmarchy.Agent.Notifications.Connections
import ProtonVpnOmarchy.Splitd.StateText
import ProtonVpnOmarchy.Splitd.Service.Acknowledged
import ProtonVpnOmarchy.Splitd.Bpf.Assembly
import ProtonVpnOmarchy.Agent.Statistics.Delivery
import ProtonVpnOmarchy.Agent.Tasks.Monitor
import ProtonVpnOmarchy.Agent.Network.Removal
