import SecureGuard.Native.NetfreeGate
import SecureGuard.Native.NonInterference
import SecureGuard.Native.Reevaluation
import SecureGuard.Capture.NetfreeSync
import SecureGuard.Mdm.VpnLockdown
import SecureGuard.Mdm.Approvals
import SecureGuard.Mdm.StopIsFinal
import SecureGuard.Mdm.FeaturesInForce
import SecureGuard.Mdm.PresetRoundTrip
import SecureGuard.Mdm.PresetRetry
import SecureGuard.Mdm.Teardown
import SecureGuard.Ui.PasswordGate
import SecureGuard.Ui.VpnRules
import SecureGuard.Kiosk.HomeActivity
import SecureGuard.Native.ListHandover
import SecureGuard.Native.Notifications
import SecureGuard.Native.StaysBlocked
import SecureGuard.Native.CloseCallback
import SecureGuard.Native.IpRules
import SecureGuard.Capture.MatchList
import SecureGuard.Security.ConcurrentAttempts
import SecureGuard.Kiosk.AllowList
import SecureGuard.Mdm.DialerRestore
import SecureGuard.Capture.BlacklistsUpdate
import SecureGuard.Ui.RuleIndex
import SecureGuard.Lib.RingBuffer
import SecureGuard.Capture.ConnectionsRegister
import SecureGuard.Capture.RegisterCounters
import SecureGuard.Capture.AppTotals
import SecureGuard.Astore.Downloader
import SecureGuard.Astore.ResumedDownloads
import SecureGuard.Astore.UpdateApp
import SecureGuard.Astore.AppList
import SecureGuard.Astore.UniqueApps
import SecureGuard.Lib.JsonReader
import SecureGuard.Ui.RuleImport
import SecureGuard.Ui.ImportedRules
import SecureGuard.Lib.Loops
import SecureGuard.Native.DnsReads
import SecureGuard.Native.SpoofedReply
import SecureGuard.Native.SpoofedReads
import SecureGuard.Lib.NetworkOrder
import SecureGuard.Lib.DnsWire
import SecureGuard.Native.DnsReplyScan
import SecureGuard.Native.DnsReplyRight
import SecureGuard.Lib.InternetChecksum
import SecureGuard.Native.SpoofedPacket
import SecureGuard.Native.SpoofedReplyFormed
import SecureGuard.Lib.TextLines
import SecureGuard.Native.ListLines
import SecureGuard.Ui.VpnPermission
import SecureGuard.Lib.PaddedOrder
import SecureGuard.Lib.KotlinText
import SecureGuard.Astore.VersionOrder
import SecureGuard.Lib.OrgJson
import SecureGuard.Astore.AppsCache
import SecureGuard.Astore.SplitPackages
import SecureGuard.Lib.UriSyntax
import SecureGuard.Kiosk.SingleWebsite
import SecureGuard.Lib.LruMap
import SecureGuard.Native.HostCache
import SecureGuard.Native.NextDump
import SecureGuard.Native.StatusArray
import SecureGuard.Lib.SequenceSpace
import SecureGuard.Native.TcpSplice
import SecureGuard.Native.TcpSpliceRefines
import SecureGuard.Native.TcpSpliceSteps
import SecureGuard.Native.TcpUpload
import SecureGuard.Native.TcpDownload
import SecureGuard.Native.TcpGreeting
import SecureGuard.Native.SocketPool
import SecureGuard.Native.SocketAccounts
import SecureGuard.Native.UdpMappings
import SecureGuard.Lib.TcpWire
import SecureGuard.Native.ClientPackets
import SecureGuard.Native.SynOptions
import SecureGuard.Native.TcpReplies
