import ManagementPlane.Lib.Sql
import ManagementPlane.Lib.Tables
import ManagementPlane.Policy.Types

/-!
# The policies table

`system_mgmt.policies` as migrations 005 and 027 declare it: a row is a record
whose field types carry the `NOT NULL` constraints, keyed by `id`. The threat
columns and the timestamps, which no statement of the policy store names, are
left out, and so is row-level security.

Writing a policy and reading it back go through the column lists and the scan
destinations of `internal/db/policy_store.go` in their order. `List` selects
the 43 columns that the scanner expects; `listUnlocked` selects 42.
-/

namespace ManagementPlane.Db

open GoJson Sql Tables Policy List

inductive Column where
  | id
  | orgId
  | name
  | sequence
  | enabled
  | trafficSteering
  | accessMethods
  | sourceUsers
  | sourceUserGroups
  | sourceDevices
  | sourceDeviceGroups
  | sourceAddresses
  | sourceIpNegate
  | destAddresses
  | destCloudApps
  | destUrlCategories
  | destIpNegate
  | services
  | httpMethods
  | crudOperations
  | action
  | forwardProxyAddress
  | forwardProxyPort
  | sslProfile
  | atpProfiles
  | dnsFilterEnabled
  | dnsBlockCategories
  | dnsAllowCategories
  | dnsCustomBlocklist
  | dnsCustomAllowlist
  | dnsSafeSearch
  | webFilterEnabled
  | webBlockCategories
  | webAllowCategories
  | webCustomBlocklist
  | webCustomAllowlist
  | webSafeSearch
  | webBlockUncategorized
  | cloudTenantRestrict
  | cloudAllowedTenants
  | logTraffic
  | logSecurityEvents
  | sourceDevicePosture

structure PolicyRow where
  id : String
  orgId : String
  name : String
  sequence : Int
  enabled : Bool
  trafficSteering : Json
  accessMethods : Json
  sourceUsers : Json
  sourceUserGroups : Json
  sourceDevices : Json
  sourceDeviceGroups : Json
  sourceAddresses : Option Json
  sourceIpNegate : Bool
  destAddresses : Option Json
  destCloudApps : Option Json
  destUrlCategories : Json
  destIpNegate : Bool
  services : Option Json
  httpMethods : Json
  crudOperations : Json
  action : String
  forwardProxyAddress : Option String
  forwardProxyPort : Option Int
  sslProfile : Option Json
  atpProfiles : Option Json
  dnsFilterEnabled : Bool
  dnsBlockCategories : Json
  dnsAllowCategories : Json
  dnsCustomBlocklist : Json
  dnsCustomAllowlist : Json
  dnsSafeSearch : Bool
  webFilterEnabled : Bool
  webBlockCategories : Json
  webAllowCategories : Json
  webCustomBlocklist : Json
  webCustomAllowlist : Json
  webSafeSearch : Bool
  webBlockUncategorized : Bool
  cloudTenantRestrict : Bool
  cloudAllowedTenants : Json
  logTraffic : Bool
  logSecurityEvents : Bool
  sourceDevicePosture : String

def nullable {α : Type} (wrap : α → Value) : Option α → Value
  | none => .null
  | some a => wrap a

def PolicyRow.column (row : PolicyRow) : Column → Value
  | .id => .text row.id
  | .orgId => .text row.orgId
  | .name => .text row.name
  | .sequence => .int row.sequence
  | .enabled => .bool row.enabled
  | .trafficSteering => .json row.trafficSteering
  | .accessMethods => .json row.accessMethods
  | .sourceUsers => .json row.sourceUsers
  | .sourceUserGroups => .json row.sourceUserGroups
  | .sourceDevices => .json row.sourceDevices
  | .sourceDeviceGroups => .json row.sourceDeviceGroups
  | .sourceAddresses => nullable .json row.sourceAddresses
  | .sourceIpNegate => .bool row.sourceIpNegate
  | .destAddresses => nullable .json row.destAddresses
  | .destCloudApps => nullable .json row.destCloudApps
  | .destUrlCategories => .json row.destUrlCategories
  | .destIpNegate => .bool row.destIpNegate
  | .services => nullable .json row.services
  | .httpMethods => .json row.httpMethods
  | .crudOperations => .json row.crudOperations
  | .action => .text row.action
  | .forwardProxyAddress => nullable .text row.forwardProxyAddress
  | .forwardProxyPort => nullable .int row.forwardProxyPort
  | .sslProfile => nullable .json row.sslProfile
  | .atpProfiles => nullable .json row.atpProfiles
  | .dnsFilterEnabled => .bool row.dnsFilterEnabled
  | .dnsBlockCategories => .json row.dnsBlockCategories
  | .dnsAllowCategories => .json row.dnsAllowCategories
  | .dnsCustomBlocklist => .json row.dnsCustomBlocklist
  | .dnsCustomAllowlist => .json row.dnsCustomAllowlist
  | .dnsSafeSearch => .bool row.dnsSafeSearch
  | .webFilterEnabled => .bool row.webFilterEnabled
  | .webBlockCategories => .json row.webBlockCategories
  | .webAllowCategories => .json row.webAllowCategories
  | .webCustomBlocklist => .json row.webCustomBlocklist
  | .webCustomAllowlist => .json row.webCustomAllowlist
  | .webSafeSearch => .bool row.webSafeSearch
  | .webBlockUncategorized => .bool row.webBlockUncategorized
  | .cloudTenantRestrict => .bool row.cloudTenantRestrict
  | .cloudAllowedTenants => .json row.cloudAllowedTenants
  | .logTraffic => .bool row.logTraffic
  | .logSecurityEvents => .bool row.logSecurityEvents
  | .sourceDevicePosture => .text row.sourceDevicePosture

def policyColumns : List Column :=
  [ .id, .orgId, .name, .sequence, .enabled,
    .trafficSteering, .accessMethods,
    .sourceUsers, .sourceUserGroups, .sourceDevices, .sourceDeviceGroups,
    .sourceAddresses, .sourceIpNegate,
    .destAddresses, .destCloudApps, .destUrlCategories, .destIpNegate,
    .services, .httpMethods, .crudOperations,
    .action, .forwardProxyAddress, .forwardProxyPort,
    .sslProfile, .atpProfiles,
    .dnsFilterEnabled, .dnsBlockCategories, .dnsAllowCategories,
    .dnsCustomBlocklist, .dnsCustomAllowlist, .dnsSafeSearch,
    .webFilterEnabled, .webBlockCategories, .webAllowCategories,
    .webCustomBlocklist, .webCustomAllowlist, .webSafeSearch, .webBlockUncategorized,
    .cloudTenantRestrict, .cloudAllowedTenants,
    .logTraffic, .logSecurityEvents, .sourceDevicePosture ]

/-- The list of `listUnlocked`, without the device posture. -/
def listUnlockedColumns : List Column :=
  [ .id, .orgId, .name, .sequence, .enabled,
    .trafficSteering, .accessMethods,
    .sourceUsers, .sourceUserGroups, .sourceDevices, .sourceDeviceGroups,
    .sourceAddresses, .sourceIpNegate,
    .destAddresses, .destCloudApps, .destUrlCategories, .destIpNegate,
    .services, .httpMethods, .crudOperations,
    .action, .forwardProxyAddress, .forwardProxyPort,
    .sslProfile, .atpProfiles,
    .dnsFilterEnabled, .dnsBlockCategories, .dnsAllowCategories,
    .dnsCustomBlocklist, .dnsCustomAllowlist, .dnsSafeSearch,
    .webFilterEnabled, .webBlockCategories, .webAllowCategories,
    .webCustomBlocklist, .webCustomAllowlist, .webSafeSearch, .webBlockUncategorized,
    .cloudTenantRestrict, .cloudAllowedTenants,
    .logTraffic, .logSecurityEvents ]

/-! ## Reading -/

def rawOrNil (b : Option String) : Option String := b.filter (· ≠ "")

variable (jsonb : Jsonb)

def scanDestinations : List (Dest SecurityPolicy) :=
  [ stringDest fun v p => { p with id := v },
    stringDest fun v p => { p with orgID := v },
    stringDest fun v p => { p with name := v },
    intDest fun v p => { p with sequence := v },
    boolDest fun v p => { p with enabled := v },
    stringsDest fun v p => { p with trafficSteering := v },
    stringsDest fun v p => { p with accessMethods := v },
    stringsDest fun v p => { p with sourceUsers := v },
    stringsDest fun v p => { p with sourceUserGroups := v },
    stringsDest fun v p => { p with sourceDevices := v },
    stringsDest fun v p => { p with sourceDeviceGroups := v },
    rawDest jsonb fun v p => { p with sourceAddresses := v },
    boolDest fun v p => { p with sourceIPNegate := v },
    rawDest jsonb fun v p => { p with destAddresses := v },
    rawDest jsonb fun v p => { p with destCloudApps := v },
    stringsDest fun v p => { p with destURLCategories := v },
    boolDest fun v p => { p with destIPNegate := v },
    rawDest jsonb fun v p => { p with services := v },
    stringsDest fun v p => { p with httpMethods := v },
    stringsDest fun v p => { p with crudOperations := v },
    stringDest fun v p => { p with action := v },
    nullStringDest fun v p => { p with forwardProxyAddr := v },
    nullInt32Dest fun v p => { p with forwardProxyPort := v },
    rawDest jsonb fun v p => { p with sslProfile := v },
    rawDest jsonb fun v p => { p with atpProfiles := v },
    boolDest fun v p => { p with dnsFilterEnabled := v },
    stringsDest fun v p => { p with dnsBlockCategories := v },
    stringsDest fun v p => { p with dnsAllowCategories := v },
    stringsDest fun v p => { p with dnsCustomBlocklist := v },
    stringsDest fun v p => { p with dnsCustomAllowlist := v },
    boolDest fun v p => { p with dnsSafeSearch := v },
    boolDest fun v p => { p with webFilterEnabled := v },
    stringsDest fun v p => { p with webBlockCategories := v },
    stringsDest fun v p => { p with webAllowCategories := v },
    stringsDest fun v p => { p with webCustomBlocklist := v },
    stringsDest fun v p => { p with webCustomAllowlist := v },
    boolDest fun v p => { p with webSafeSearch := v },
    boolDest fun v p => { p with webBlockUncategorized := v },
    boolDest fun v p => { p with cloudTenantRestrict := v },
    stringsDest fun v p => { p with cloudAllowedTenants := v },
    boolDest fun v p => { p with logTraffic := v },
    boolDest fun v p => { p with logSecurityEvents := v },
    stringDest fun v p => { p with sourceDevicePosture := v } ]

def scanPolicyRow (columns : List Column) (row : PolicyRow) : Option SecurityPolicy :=
  scan (scanDestinations jsonb) (columns.map row.column) {}

def scanPolicies (columns : List Column) (rows : List PolicyRow) : List SecurityPolicy :=
  rows.filterMap (scanPolicyRow jsonb columns)

def PolicyRow.policy (row : PolicyRow) : SecurityPolicy where
  id := row.id
  orgID := row.orgId
  name := row.name
  sequence := row.sequence
  enabled := row.enabled
  trafficSteering := unmarshalStrings row.trafficSteering
  accessMethods := unmarshalStrings row.accessMethods
  sourceUsers := unmarshalStrings row.sourceUsers
  sourceUserGroups := unmarshalStrings row.sourceUserGroups
  sourceDevices := unmarshalStrings row.sourceDevices
  sourceDeviceGroups := unmarshalStrings row.sourceDeviceGroups
  sourceAddresses := rawOrNil (row.sourceAddresses.map jsonb.render)
  sourceIPNegate := row.sourceIpNegate
  destAddresses := rawOrNil (row.destAddresses.map jsonb.render)
  destCloudApps := rawOrNil (row.destCloudApps.map jsonb.render)
  destURLCategories := unmarshalStrings row.destUrlCategories
  destIPNegate := row.destIpNegate
  services := rawOrNil (row.services.map jsonb.render)
  httpMethods := unmarshalStrings row.httpMethods
  crudOperations := unmarshalStrings row.crudOperations
  action := row.action
  forwardProxyAddr := row.forwardProxyAddress.getD ""
  forwardProxyPort := row.forwardProxyPort.getD 0
  sslProfile := rawOrNil (row.sslProfile.map jsonb.render)
  atpProfiles := rawOrNil (row.atpProfiles.map jsonb.render)
  dnsFilterEnabled := row.dnsFilterEnabled
  dnsBlockCategories := unmarshalStrings row.dnsBlockCategories
  dnsAllowCategories := unmarshalStrings row.dnsAllowCategories
  dnsCustomBlocklist := unmarshalStrings row.dnsCustomBlocklist
  dnsCustomAllowlist := unmarshalStrings row.dnsCustomAllowlist
  dnsSafeSearch := row.dnsSafeSearch
  webFilterEnabled := row.webFilterEnabled
  webBlockCategories := unmarshalStrings row.webBlockCategories
  webAllowCategories := unmarshalStrings row.webAllowCategories
  webCustomBlocklist := unmarshalStrings row.webCustomBlocklist
  webCustomAllowlist := unmarshalStrings row.webCustomAllowlist
  webSafeSearch := row.webSafeSearch
  webBlockUncategorized := row.webBlockUncategorized
  cloudTenantRestrict := row.cloudTenantRestrict
  cloudAllowedTenants := unmarshalStrings row.cloudAllowedTenants
  logTraffic := row.logTraffic
  logSecurityEvents := row.logSecurityEvents
  sourceDevicePosture := row.sourceDevicePosture

theorem scanPolicies_listUnlockedColumns (rows : List PolicyRow) :
    scanPolicies jsonb listUnlockedColumns rows = [] := by
  have selected : listUnlockedColumns.length = 42 := rfl
  have expected : (scanDestinations jsonb).length = 43 := rfl
  apply filterMap_eq_nil_iff.mpr
  intro row _
  rw [scanPolicyRow, scan, if_neg]
  rw [length_map, selected, expected]
  decide

def toJSON (slice : Option (List String)) : Json := stringsDocument (slice.getD [])

def nullJSON (raw : Option String) : Option String := raw.filter (· ≠ "")

/-- The value of a nullable JSONB column, or nothing when the text is not JSON. -/
def jsonbColumn (raw : Option String) : Option (Option Json) :=
  match nullJSON raw with
  | none => some none
  | some text => (jsonb.parse text).map some

def defaultPosture (p : SecurityPolicy) : SecurityPolicy :=
  if p.sourceDevicePosture = "" then { p with sourceDevicePosture := "any" } else p

def rowOf (p : SecurityPolicy) : Option PolicyRow := do
  let sourceAddresses ← jsonbColumn jsonb p.sourceAddresses
  let destAddresses ← jsonbColumn jsonb p.destAddresses
  let destCloudApps ← jsonbColumn jsonb p.destCloudApps
  let services ← jsonbColumn jsonb p.services
  let sslProfile ← jsonbColumn jsonb p.sslProfile
  let atpProfiles ← jsonbColumn jsonb p.atpProfiles
  return {
    id := p.id
    orgId := p.orgID
    name := p.name
    sequence := p.sequence
    enabled := p.enabled
    trafficSteering := toJSON p.trafficSteering
    accessMethods := toJSON p.accessMethods
    sourceUsers := toJSON p.sourceUsers
    sourceUserGroups := toJSON p.sourceUserGroups
    sourceDevices := toJSON p.sourceDevices
    sourceDeviceGroups := toJSON p.sourceDeviceGroups
    sourceAddresses
    sourceIpNegate := p.sourceIPNegate
    destAddresses
    destCloudApps
    destUrlCategories := toJSON p.destURLCategories
    destIpNegate := p.destIPNegate
    services
    httpMethods := toJSON p.httpMethods
    crudOperations := toJSON p.crudOperations
    action := p.action
    forwardProxyAddress := some p.forwardProxyAddr
    forwardProxyPort := some p.forwardProxyPort
    sslProfile
    atpProfiles
    dnsFilterEnabled := p.dnsFilterEnabled
    dnsBlockCategories := toJSON p.dnsBlockCategories
    dnsAllowCategories := toJSON p.dnsAllowCategories
    dnsCustomBlocklist := toJSON p.dnsCustomBlocklist
    dnsCustomAllowlist := toJSON p.dnsCustomAllowlist
    dnsSafeSearch := p.dnsSafeSearch
    webFilterEnabled := p.webFilterEnabled
    webBlockCategories := toJSON p.webBlockCategories
    webAllowCategories := toJSON p.webAllowCategories
    webCustomBlocklist := toJSON p.webCustomBlocklist
    webCustomAllowlist := toJSON p.webCustomAllowlist
    webSafeSearch := p.webSafeSearch
    webBlockUncategorized := p.webBlockUncategorized
    cloudTenantRestrict := p.cloudTenantRestrict
    cloudAllowedTenants := toJSON p.cloudAllowedTenants
    logTraffic := p.logTraffic
    logSecurityEvents := p.logSecurityEvents
    sourceDevicePosture := p.sourceDevicePosture
  }

/-- The effect of the upsert on the table: a conflicting row keeps its id and its organisation. -/
def upsertRow (table : Table String PolicyRow) (row : PolicyRow) : Table String PolicyRow :=
  match table.lookup row.id with
  | none => table.insert row.id row
  | some old => table.insert row.id { row with orgId := old.orgId }

/-- `failure` is the error of the statement, if the database reports one. -/
def upsertPolicy (failure : Option String) (table : Table String PolicyRow)
    (p : SecurityPolicy) : Except String (Table String PolicyRow) :=
  match failure, rowOf jsonb (defaultPosture p) with
  | some message, _ => .error message
  | none, none => .error jsonb.invalid
  | none, some row => .ok (upsertRow table row)

end ManagementPlane.Db
