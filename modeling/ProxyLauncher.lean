import ProxyLauncher.Android.ProcessHandoff
import ProxyLauncher.Android.ProfileSave
import ProxyLauncher.Android.RouteLimits
import ProxyLauncher.Configuration.RoundTrip
import ProxyLauncher.Engine.HostNames
import ProxyLauncher.Engine.PayloadEvents
import ProxyLauncher.Filesystem.Verdict
import ProxyLauncher.Gateway.Totality
import ProxyLauncher.IOS.AutoFailover
import ProxyLauncher.IOS.AutoReconnect
import ProxyLauncher.IOS.ConnectionPressure
import ProxyLauncher.IOS.DirectGrants
import ProxyLauncher.IOS.FlowEvidence
import ProxyLauncher.IOS.GrantLifetime
import ProxyLauncher.IOS.GraphShape
import ProxyLauncher.IOS.LearningLimits
import ProxyLauncher.IOS.ProfileStorage
import ProxyLauncher.IOS.Rejections
import ProxyLauncher.IOS.Removals
import ProxyLauncher.IOS.RestoredProfiles
import ProxyLauncher.IOS.RouteGuard
import ProxyLauncher.IOS.SplitDns
import ProxyLauncher.IOS.StrongApprovals
import ProxyLauncher.IOS.SupplierNotation
import ProxyLauncher.Linux.ActiveRows
import ProxyLauncher.Linux.Closure
import ProxyLauncher.Logging.Rotation
import ProxyLauncher.MacOS.Recovery
import ProxyLauncher.Mobile.CandidateOrder
import ProxyLauncher.Mobile.Normalizers
import ProxyLauncher.Recovery.Authority
import ProxyLauncher.Recovery.StateMachine
import ProxyLauncher.Redaction.Values
import ProxyLauncher.Routing.Agreement
import ProxyLauncher.Routing.ApplicationExclusions
import ProxyLauncher.Routing.NoProxyFile
import ProxyLauncher.Routing.RuleReload
import ProxyLauncher.Supervision.Termination
import ProxyLauncher.Transport.AbsoluteUri
import ProxyLauncher.Transport.Relay
import ProxyLauncher.WinDivert.Canonical
import ProxyLauncher.WinDivert.Isolation
import ProxyLauncher.WinDivert.ResponseAgreement
import ProxyLauncher.WinDivert.Start
import ProxyLauncher.Windows.Environment
import ProxyLauncher.Windows.OwnValues
import ProxyLauncher.Windows.PacConfinement
import ProxyLauncher.Windows.Repetition
import ProxyLauncher.Windows.SingleInstance
