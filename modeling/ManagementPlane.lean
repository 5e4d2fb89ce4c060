import ManagementPlane.Policy.EditLock
import ManagementPlane.Push.Fanout
import ManagementPlane.Identity.TokenExchange
import ManagementPlane.Oidc.Redirects
import ManagementPlane.Oidc.Revocation
import ManagementPlane.Radsec.Replies
import ManagementPlane.Radsec.Delivery
import ManagementPlane.Sso.Tenancy
import ManagementPlane.Directory.Tenants
import ManagementPlane.Directory.Updates
import ManagementPlane.Directory.Suspension
import ManagementPlane.Directory.Connectors
import ManagementPlane.Directory.Leavers
import ManagementPlane.Sso.States
import ManagementPlane.Devices.Suspension
import ManagementPlane.Devices.TokenClaims
import ManagementPlane.Gateway.Api
import ManagementPlane.Devices.Subjects
import ManagementPlane.Api.Policies
import ManagementPlane.Dns.Sync
import ManagementPlane.Drs.Lifecycle
import ManagementPlane.Identity.Posture
import ManagementPlane.Identity.Sessions
import ManagementPlane.Assistant.Grants
import ManagementPlane.Assistant.Placement
import ManagementPlane.Db.EnrolSecrets
import ManagementPlane.Onboard.Passcodes
import ManagementPlane.Oidc.DeviceCodes
import ManagementPlane.Security.Replay
import ManagementPlane.Security.Overlap
import ManagementPlane.Security.ActiveKey
import ManagementPlane.Security.Accounting
import ManagementPlane.Dot1x.Bypass
import ManagementPlane.Sslca.Authority
import ManagementPlane.Validation.Environment
import ManagementPlane.Traffic.Log
import ManagementPlane.Directory.Atomicity
import ManagementPlane.Db.Tickets
import ManagementPlane.Scanner.Results
