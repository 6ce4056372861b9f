import Wireforge.Lib.Mirror
import Wireforge.Lib.Text
import Wireforge.Lib.Words
import Wireforge.Lib.KeyValue
import Wireforge.Firewall.Forwarding
import Wireforge.Firewall.Sharing
import Wireforge.Lifecycle.Tunnels
import Wireforge.Lifecycle.Restart
import Wireforge.Lifecycle.FailedStart
import Wireforge.Lifecycle.Residue
import Wireforge.Lifecycle.Masquerading
import Wireforge.Lifecycle.Addresses
import Wireforge.Lifecycle.Agreement
import Wireforge.Lifecycle.Allocation
import Wireforge.Lifecycle.Keys
import Wireforge.Lifecycle.Bandwidth
import Wireforge.Lifecycle.LostEdits
import Wireforge.Lifecycle.StatusRaces
import Wireforge.Lifecycle.CutOffs
import Wireforge.Lifecycle.AddressPool
import Wireforge.Access.Lockout
import Wireforge.Access.Totp
import Wireforge.Access.SecondFactor
import Wireforge.Web.Profile
import Wireforge.Web.Peers
import Wireforge.Settings.Reload
import Wireforge.Settings.SaveForm
import Wireforge.Settings.ConcurrentSaves
import Wireforge.Web.Interfaces
import Wireforge.Web.Settings
import Wireforge.Web.Views
import Wireforge.Site.Series
import Wireforge.Web.Figures
import Wireforge.Api.Handlers
import Wireforge.Front.Recorded
import Wireforge.Front.SealedKeys
import Wireforge.Access.InitialAdmin
import Wireforge.Access.ConcurrentLogin
import Wireforge.Access.Guessing
import Wireforge.Lifecycle.Prefixes
import Wireforge.Lifecycle.Failures
import Wireforge.Task.Windows
import Wireforge.Task.Enforcement
import Wireforge.Front.ErrorPages
import Wireforge.Web.Fields
import Wireforge.Front.SavedPeers
import Wireforge.Front.SavedInterfaces
import Wireforge.Front.ClientConfs
import Wireforge.Infra.RoundTrip
import Wireforge.Lifecycle.KeyTexts
import Wireforge.Lifecycle.Quotas
import Wireforge.Lifecycle.Counters
import Wireforge.Lifecycle.CumulativeUse
import Wireforge.Service.Endpoint
import Wireforge.Access.Issuer
import Wireforge.Access.LongLockouts
import Wireforge.Access.Tokens
import Wireforge.Access.TokenRuns
import Wireforge.Firewall.Reapplied
import Wireforge.Infra.Hooks
import Wireforge.Firewall.Preview
import Wireforge.Cli.Backup
import Wireforge.Front.OwnAccounts
import Wireforge.Cli.Users
import Wireforge.Front.Tunnels
import Wireforge.Infra.AccountRows
import Wireforge.Infra.AccountRowsSpec
import Wireforge.Infra.StoredAccounts
import Wireforge.Infra.SysNet
import Wireforge.Lib.Replies
import Wireforge.Lifecycle.Bystanders
