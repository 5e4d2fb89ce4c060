import ManagementPlane.Lib.Json

/-!
# The policy data model

Records of `internal/policy/store.go`. A `[]string` is an option because a nil
slice and an empty one are encoded differently; a `json.RawMessage` is an option
of its text. Field defaults are Go's zero values, so a record literal names the
fields the source names.
-/

namespace ManagementPlane.Policy

open GoJson

abbrev Time := Int

def minute : Time := 60 * 1000000000

def unix (t : Time) : Int := t / 1000000000

structure SecurityPolicy where
  id : String := ""
  orgID : String := ""
  name : String := ""
  sequence : Int := 0
  enabled : Bool := false
  trafficSteering : Option (List String) := none
  accessMethods : Option (List String) := none
  sourceUsers : Option (List String) := none
  sourceUserGroups : Option (List String) := none
  sourceDevices : Option (List String) := none
  sourceDeviceGroups : Option (List String) := none
  sourceDevicePosture : String := ""
  sourceAddresses : Option String := none
  sourceIPNegate : Bool := false
  destAddresses : Option String := none
  destCloudApps : Option String := none
  destURLCategories : Option (List String) := none
  destIPNegate : Bool := false
  services : Option String := none
  httpMethods : Option (List String) := none
  crudOperations : Option (List String) := none
  action : String := ""
  forwardProxyAddr : String := ""
  forwardProxyPort : Int := 0
  sslProfile : Option String := none
  atpProfiles : Option String := none
  dnsFilterEnabled : Bool := false
  dnsBlockCategories : Option (List String) := none
  dnsAllowCategories : Option (List String) := none
  dnsCustomBlocklist : Option (List String) := none
  dnsCustomAllowlist : Option (List String) := none
  dnsSafeSearch : Bool := false
  webFilterEnabled : Bool := false
  webBlockCategories : Option (List String) := none
  webAllowCategories : Option (List String) := none
  webCustomBlocklist : Option (List String) := none
  webCustomAllowlist : Option (List String) := none
  webSafeSearch : Bool := false
  webBlockUncategorized : Bool := false
  cloudTenantRestrict : Bool := false
  cloudAllowedTenants : Option (List String) := none
  logTraffic : Bool := false
  logSecurityEvents : Bool := false

inductive ChangeType where
  | create
  | update
  | delete
  | revert
  deriving DecidableEq

structure ConfigVersion where
  version : Int
  policies : List SecurityPolicy
  author : String
  message : String
  changeType : ChangeType
  policyID : String
  createdAt : Time

structure ConfigLock where
  lockedBy : String
  lockedAt : Time
  expiresAt : Time

inductive EventType where
  | policyUpdate
  | heartbeat
  deriving DecidableEq

/-- What is pushed to gateways over WebSocket and over the gRPC policy stream. -/
structure Event where
  type : EventType
  version : Int
  time : Time

def maxVersions : Nat := 10

def lockDuration : Time := 30 * minute

def onChangeCap : Nat := 64

def SecurityPolicy.fields (p : SecurityPolicy) : List Field :=
  [ .string "id" p.id,
    .string "org_id" p.orgID,
    .string "name" p.name,
    .int "sequence" p.sequence,
    .bool "enabled" p.enabled,
    .strings "traffic_steering" p.trafficSteering,
    .strings "access_methods" p.accessMethods,
    .strings "source_users" p.sourceUsers,
    .strings "source_user_groups" p.sourceUserGroups,
    .strings "source_devices" p.sourceDevices,
    .strings "source_device_groups" p.sourceDeviceGroups,
    .string "source_device_posture" p.sourceDevicePosture,
    .rawOmitEmpty "source_addresses" p.sourceAddresses,
    .bool "source_ip_negate" p.sourceIPNegate,
    .rawOmitEmpty "dest_addresses" p.destAddresses,
    .rawOmitEmpty "dest_cloud_apps" p.destCloudApps,
    .strings "dest_url_categories" p.destURLCategories,
    .bool "dest_ip_negate" p.destIPNegate,
    .rawOmitEmpty "services" p.services,
    .strings "http_methods" p.httpMethods,
    .strings "crud_operations" p.crudOperations,
    .string "action" p.action,
    .stringOmitEmpty "forward_proxy_address" p.forwardProxyAddr,
    .intOmitEmpty "forward_proxy_port" p.forwardProxyPort,
    .rawOmitEmpty "ssl_profile" p.sslProfile,
    .rawOmitEmpty "atp_profiles" p.atpProfiles,
    .bool "dns_filter_enabled" p.dnsFilterEnabled,
    .strings "dns_block_categories" p.dnsBlockCategories,
    .strings "dns_allow_categories" p.dnsAllowCategories,
    .strings "dns_custom_blocklist" p.dnsCustomBlocklist,
    .strings "dns_custom_allowlist" p.dnsCustomAllowlist,
    .bool "dns_safe_search" p.dnsSafeSearch,
    .bool "web_filter_enabled" p.webFilterEnabled,
    .strings "web_block_categories" p.webBlockCategories,
    .strings "web_allow_categories" p.webAllowCategories,
    .strings "web_custom_blocklist" p.webCustomBlocklist,
    .strings "web_custom_allowlist" p.webCustomAllowlist,
    .bool "web_safe_search" p.webSafeSearch,
    .bool "web_block_uncategorized" p.webBlockUncategorized,
    .bool "cloud_tenant_restrict" p.cloudTenantRestrict,
    .strings "cloud_allowed_tenants" p.cloudAllowedTenants,
    .bool "log_traffic" p.logTraffic,
    .bool "log_security_events" p.logSecurityEvents ]

def marshal (p : SecurityPolicy) : Option (List Char) := marshalStruct p.fields

/-- Comparison of the two encodings with the errors ignored: a policy that cannot
be encoded compares as the empty text. -/
def policyEqual (a b : SecurityPolicy) : Bool :=
  (marshal a).getD [] = (marshal b).getD []

theorem policyEqual_refl (p : SecurityPolicy) : policyEqual p p = true := by
  simp [policyEqual]

end ManagementPlane.Policy
