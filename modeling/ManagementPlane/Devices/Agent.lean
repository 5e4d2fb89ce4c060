import ManagementPlane.Devices.Store
import ManagementPlane.Lib.Alone

/-!
# Requests of the desktop agent

The three routes on which an agent presents its client certificate for a credential: the
bootstrap of `internal/api/handlers/agent_auth_handler.go`, the Kerberos sign-on of
`kerberos_sso_handler.go`, and the machine-tunnel grant of `device_grant_handler.go` behind
`DeviceMTLSAuth`.

The certificate comes from the TLS connection or, behind the load balancer, from headers.
Hashing, PEM and X.509 parsing, percent decoding and the case mapping of the database are
parameters.
-/

namespace ManagementPlane.Devices

open GoJson GoStrings Interleave Jwt Tables
open Policy (Time minute unix)

structure Certificate where
  raw : List UInt8
  subject : String
  commonName : String
  organization : List String
  serialNumber : String
  notAfter : Time

/-- Of a request only the certificates of its TLS connection and its headers matter. -/
structure Http where
  peerCertificates : List Certificate
  header : String → String

structure DCSegment where
  host : String
  ports : List Nat

def defaultDCPorts : List Nat := [88, 389, 445, 464, 636, 3268]

/-- The segments of a configuration; no ports stand for the default ones. -/
def newConfigDCSegments (spec : List (String × DCSegment)) : List (String × DCSegment) :=
  spec.map fun entry =>
    (entry.1, if entry.2.ports = [] then { entry.2 with ports := defaultDCPorts } else entry.2)

def resolve (byOrg : List (String × DCSegment)) (orgID : String) : Option DCSegment :=
  let listed := fun key => (byOrg.lookup key).filter fun seg => seg.host ≠ ""
  listed orgID <|> listed "*"

structure Issuer where
  signingKey : String
  issuer : String
  ttl : Time
  segments : List (String × DCSegment)

structure Env where
  sees : String → Bool
  sha256Hex : List UInt8 → String
  parseLeaf : String → Option Certificate
  pathUnescape : String → Option String
  lower : String → String
  jwtSecret : String
  kerberosConfigured : Bool
  grants : Option Issuer

structure MtlsClientIdentity where
  subject : String
  commonName : String
  organizations : List String
  serial : String
  fingerprintSHA256 : String
  notAfter : Time

def decodeHeader (env : Env) (value : String) : String :=
  if value = "" then "" else trimSpace ((env.pathUnescape value).getD value)

def subjectComponent (identity : String × List String) (component : String) :
    String × List String :=
  match cut (trimSpace component) '=' with
  | none => identity
  | some (key, value) =>
    if toUpper (trimSpace key) = "CN" then (trimSpace value, identity.2)
    else if toUpper (trimSpace key) = "O" then (identity.1, identity.2 ++ [trimSpace value])
    else identity

def certificateSubjectIdentity (subject : String) : String × List String :=
  (split subject ',').foldl subjectComponent ("", [])

def leafHeader (env : Env) (http : Http) : String :=
  let leaf := decodeHeader env (http.header "X-Amzn-Mtls-Clientcert-Leaf")
  if leaf = "" then decodeHeader env (http.header "X-Amzn-Mtls-Clientcert") else leaf

def leafCertificate (env : Env) (http : Http) : Option Certificate :=
  if leafHeader env http = "" then none else env.parseLeaf (leafHeader env http)

/-- The fingerprint when neither a header nor a certificate gives one. -/
def headerFingerprint (env : Env) (subject serial : String) : String :=
  env.sha256Hex (subject ++ "|" ++ serial).toUTF8.toList

def clientCertificateIdentity (env : Env) (now : Time) (http : Http) : Option MtlsClientIdentity :=
  match http.peerCertificates with
  | cert :: _ =>
    some
      { subject := cert.subject
        commonName := cert.commonName
        organizations := cert.organization
        serial := cert.serialNumber
        fingerprintSHA256 := env.sha256Hex cert.raw
        notAfter := cert.notAfter }
  | [] =>
    let subject := decodeHeader env (http.header "X-Amzn-Mtls-Clientcert-Subject")
    let serial := decodeHeader env (http.header "X-Amzn-Mtls-Clientcert-Serial-Number")
    if subject = "" ∧ serial = "" ∧ leafHeader env http = "" then none
    else
      let named := certificateSubjectIdentity subject
      let identity : MtlsClientIdentity :=
        match leafCertificate env http with
        | some cert =>
          { subject := if subject = "" then cert.subject else subject
            commonName := cert.commonName
            organizations := cert.organization
            serial := if serial = "" then cert.serialNumber else serial
            fingerprintSHA256 := env.sha256Hex cert.raw
            notAfter := cert.notAfter }
        | none =>
          { subject := subject
            commonName := named.1
            organizations := named.2
            serial := serial
            fingerprintSHA256 := http.header "X-Amzn-Mtls-Clientcert-Fingerprint"
            notAfter := now + 365 * 24 * 60 * minute }
      if identity.fingerprintSHA256 = "" then
        some { identity with
          fingerprintSHA256 := headerFingerprint env identity.subject identity.serial }
      else some identity

structure DeviceMTLSIdentity where
  subject : String
  serial : String
  fingerprint : String

/-- The certificate as the middleware reads it, which trims the fingerprint header. -/
def deviceCertificateIdentity (env : Env) (http : Http) : Option DeviceMTLSIdentity :=
  match http.peerCertificates with
  | cert :: _ => some ⟨cert.subject, cert.serialNumber, env.sha256Hex cert.raw⟩
  | [] =>
    let subject := decodeHeader env (http.header "X-Amzn-Mtls-Clientcert-Subject")
    let serial := decodeHeader env (http.header "X-Amzn-Mtls-Clientcert-Serial-Number")
    if subject = "" ∧ serial = "" ∧ leafHeader env http = "" then none
    else
      let identity : DeviceMTLSIdentity :=
        match leafCertificate env http with
        | some cert =>
          ⟨if subject = "" then cert.subject else subject,
            if serial = "" then cert.serialNumber else serial, env.sha256Hex cert.raw⟩
        | none =>
          ⟨subject, serial, trimSpace (http.header "X-Amzn-Mtls-Clientcert-Fingerprint")⟩
      if identity.fingerprint = "" then
        some { identity with
          fingerprint := headerFingerprint env identity.subject identity.serial }
      else some identity

def extractCN (subject : String) : String :=
  (((split subject ',').map trimSpace).find? fun part => hasPrefix part "CN=").elim ""
    fun part => trimPrefix part "CN="

def tenantHeader (http : Http) : String :=
  let tenantID := trimSpace (http.header "X-ApexAegis-Tenant-ID")
  if tenantID = "" then trimSpace (http.header "X-Tenant-ID") else tenantID

section
variable (sees : String → Bool) (choice : Choice) (world : World)

def Device.presentedBy (fingerprint serial : String) (row : Device) : Bool :=
  (fingerprint ≠ "" && row.mtlsCertFingerprint = some fingerprint) ||
    (serial ≠ "" && row.mtlsCertSerial = some serial)

/-- The `WHERE` clause of `ValidateMTLSDevice`. -/
def Device.validates (orgID fingerprint serial : String) (now : Time) (row : Device) : Bool :=
  sees row.orgID && row.activeIn orgID && row.mtlsCertNotAfter.any (now < ·) &&
    row.presentedBy fingerprint serial

def DeviceTable.touch (devices : DeviceTable) (validates : Device → Bool) (now : Time) :
    DeviceTable :=
  devices.modify
    (fun _ row =>
      if validates row then { row with lastSeen := some now, updatedAt := some now } else row)
    (by
      intro id row
      split_ifs
      · exact ⟨rfl, rfl, rfl⟩
      · exact ⟨rfl, rfl, rfl⟩)

/-- Every matching row is touched, and the id of one of them is scanned. -/
def validateMTLSDevice (orgID fingerprint serial : String) : Except String String × World :=
  if orgID = "" ∨ (fingerprint = "" ∧ serial = "") then
    (.error "org_id and certificate identity are required", world)
  else
    match choice.failure with
    | some err => (.error ("validate mtls device: " ++ err), world)
    | none =>
      let validates := Device.validates sees orgID fingerprint serial choice.now
      let rows := world.devices.rows.entries.map fun entry => (entry.1, entry.2)
      match choice.devices.visit (rows.filter fun entry => validates entry.2) with
      | [] =>
        (.error "device certificate is not registered or active for this tenant", world)
      | (id, _) :: _ =>
        (.ok id, { world with devices := world.devices.touch validates choice.now })

def later : Option Time → Option Time → Bool
  | some first, some second => second < first
  | some _, none => true
  | none, _ => false

/-- `ORDER BY d.last_seen DESC NULLS LAST, d.created_at DESC` -/
def Device.listedBefore (first second : String × Device) : Prop :=
  later first.2.lastSeen second.2.lastSeen = true ∨
    (first.2.lastSeen = second.2.lastSeen ∧ later second.2.createdAt first.2.createdAt = false)

instance : DecidableRel Device.listedBefore := fun _ _ => inferInstanceAs (Decidable (_ ∨ _))

def listDevices (orgID : String) (limit : Nat) : List (String × Device) :=
  let rows := world.devices.rows.entries.map fun entry => (entry.1, entry.2)
  let ours := rows.filter fun entry => sees entry.2.orgID && entry.2.orgID = orgID
  ((choice.devices.visit ours).insertionSort Device.listedBefore).take
    (if limit = 0 ∨ 500 < limit then 200 else limit)

/-- `COALESCE(d.status, 'unknown')` -/
def Device.statusText (row : Device) : String := row.status.elim "unknown" Status.text

def groupNamesForDevice (deviceRowID : String) : List String :=
  let owner := (world.devices.rows.lookup deviceRowID).bind fun row =>
    if sees row.orgID then row.clientUserID else none
  let names := world.directory.clientGroups.filterMap fun pair =>
    if some pair.1 = owner then (world.directory.groups.lookup pair.2).map (·.displayName) else none
  names.insertionSort (· ≤ ·)

structure DeploymentInfo where
  orgID : String
  subscriptionLicenses : Int
  licensesConsumed : Int

def getDeploymentInfo (orgID : String) : Except String DeploymentInfo :=
  match world.organization sees orgID with
  | none => .error "organization not found"
  | some org =>
    .ok ⟨orgID, org.licenses, org.licensesConsumed.getD (world.devices.activeCount orgID)⟩

def linkClientUser (orgID deviceRowID clientUserID : String) : Except String Unit × World :=
  let linkable := sees orgID &&
    ((world.devices.rows.lookup deviceRowID).any fun row => row.orgID = orgID) &&
    (world.directory.clientUsers.rows.lookup clientUserID).any fun user =>
      user.orgID = orgID && user.status = "active"
  if orgID = "" ∨ deviceRowID = "" ∨ clientUserID = "" then
    (.error "org_id, device_id, and client_user_id are required", world)
  else
    match choice.failure with
    | some err => (.error ("link client user to device: " ++ err), world)
    | none =>
      if linkable then
        (.ok (),
          { world with
            devices := world.devices.modify
              (fun id row =>
                if id = deviceRowID then
                  { row with
                    clientUserID := some clientUserID
                    updatedAt := some choice.now
                    lastSeen := some choice.now }
                else row)
              (by
                intro id row
                split_ifs
                · exact ⟨rfl, rfl, rfl⟩
                · exact ⟨rfl, rfl, rfl⟩) })
      else (.error "device or active client user not found for tenant", world)

end

structure ClientUserRef where
  id : String
  email : String
  name : String
  status : String

inductive Op where
  | timeNow
  | registerMTLSDevice (reg : DeviceRegistration)
  | validateMTLSDevice (orgID fingerprint serial : String)
  | listDevices (orgID : String) (limit : Nat)
  | readDetail
  | groupNamesForDevice (deviceRowID : String)
  | getDeploymentInfo (orgID : String)
  | linkClientUser (orgID deviceRowID clientUserID : String)
  | connectorUser (short principal : String)
  | provisionedUser (orgID sid : String)
  | validateTicket (token : String)
  | signedString (claims : MapClaims)
  | newJTI

abbrev Op.Ans : Op → Type
  | .timeNow => Time
  | .registerMTLSDevice _ => Except RegisterError DeviceRegistration
  | .validateMTLSDevice .. => Except String String
  | .listDevices .. => Except String (List (String × Device))
  | .readDetail => Except String Unit
  | .groupNamesForDevice _ => Except String (List String)
  | .getDeploymentInfo _ => Except String DeploymentInfo
  | .linkClientUser .. => Except String Unit
  | .connectorUser .. => Except String (Option String)
  | .provisionedUser .. => Except String (Option ClientUserRef)
  | .validateTicket _ => Except String KerberosIdentity
  | .signedString _ => Except String (Signed MapClaims)
  | .newJTI => String

def localpart (upn : String) : String := String.ofList (upn.toList.takeWhile (· ≠ '@'))

/-- `SELECT sid FROM system_mgmt.connector_users WHERE … LIMIT 1` -/
def connectorUser (env : Env) (choice : Choice) (world : World) (short principal : String) :
    Option String :=
  let rows := world.directory.connectorUsers.entries.map fun entry => (entry.1.2, entry.2)
  let named := fun (row : Directory.ConnectorUser) =>
    row.samAccountName.any (fun sam => env.lower sam = env.lower short) ||
      row.upn.any (fun upn => env.lower upn = env.lower principal) ||
      env.lower (localpart (row.upn.getD "")) = env.lower short
  ((choice.users.visit rows).find? fun row => named row.2).map Prod.fst

/-- `SELECT … WHERE org_id = $1 AND oauth_provider = $2 AND scim_external_id = $3` -/
def provisionedUser (world : World) (orgID sid : String) : Option ClientUserRef :=
  (findRow (fun row => row.orgID = orgID && row.oauthProvider = some Directory.provisionSource &&
    row.details.scimExternalID = some sid) world.directory.clientUsers.rows).map fun found =>
      ⟨found.1, found.2.email, found.2.name, found.2.status⟩

def exec (env : Env) (choice : Choice) (world : World) : (op : Op) → op.Ans × World
  | .timeNow => (choice.now, world)
  | .registerMTLSDevice reg => registerMTLSDevice env.sees choice world reg
  | .validateMTLSDevice orgID fingerprint serial =>
    validateMTLSDevice env.sees choice world orgID fingerprint serial
  | .listDevices orgID limit =>
    (attempt choice (.ok (listDevices env.sees choice world orgID limit)), world)
  | .readDetail => (attempt choice (.ok ()), world)
  | .groupNamesForDevice deviceRowID =>
    (attempt choice (.ok (groupNamesForDevice env.sees world deviceRowID)), world)
  | .getDeploymentInfo orgID => (attempt choice (getDeploymentInfo env.sees world orgID), world)
  | .linkClientUser orgID deviceRowID clientUserID =>
    linkClientUser env.sees choice world orgID deviceRowID clientUserID
  | .connectorUser short principal =>
    (attempt choice (.ok (connectorUser env choice world short principal)), world)
  | .provisionedUser orgID sid => (attempt choice (.ok (provisionedUser world orgID sid)), world)
  | .validateTicket _ => (choice.ticket, world)
  | .signedString claims => (attempt choice (.ok ⟨env.jwtSecret, claims⟩), world)
  | .newJTI => (choice.jwtID, world)

abbrev Handled := Prog Op Op.Ans

abbrev timeNow : Handled Time := perform Op.timeNow

abbrev newJTI : Handled String := perform Op.newJTI

abbrev signedString (claims : MapClaims) : Handled (Except String (Signed MapClaims)) :=
  perform (Op.signedString claims)

abbrev validateTicket (token : String) : Handled (Except String KerberosIdentity) :=
  perform (Op.validateTicket token)

namespace db

abbrev registerMTLSDevice (reg : DeviceRegistration) :
    Handled (Except RegisterError DeviceRegistration) :=
  perform (Op.registerMTLSDevice reg)

abbrev validateMTLSDevice (orgID fingerprint serial : String) : Handled (Except String String) :=
  perform (Op.validateMTLSDevice orgID fingerprint serial)

abbrev listDevices (orgID : String) (limit : Nat) :
    Handled (Except String (List (String × Device))) :=
  perform (Op.listDevices orgID limit)

abbrev readDetail : Handled (Except String Unit) := perform Op.readDetail

abbrev groupNamesForDevice (deviceRowID : String) : Handled (Except String (List String)) :=
  perform (Op.groupNamesForDevice deviceRowID)

abbrev getDeploymentInfo (orgID : String) : Handled (Except String DeploymentInfo) :=
  perform (Op.getDeploymentInfo orgID)

abbrev linkClientUser (orgID deviceRowID clientUserID : String) : Handled (Except String Unit) :=
  perform (Op.linkClientUser orgID deviceRowID clientUserID)

abbrev connectorUser (short principal : String) : Handled (Except String (Option String)) :=
  perform (Op.connectorUser short principal)

abbrev provisionedUser (orgID sid : String) : Handled (Except String (Option ClientUserRef)) :=
  perform (Op.provisionedUser orgID sid)

end db

structure AgentTokenDomain where
  domainJoined : Bool
  upn : String

def agentTokenClaims (orgID deviceID certFingerprintSHA256 certSerial : String)
    (groups : List String) (domain : AgentTokenDomain) (now : Time) : MapClaims :=
  let device := if deviceID = "" then "unknown-device" else deviceID
  let claims := MapClaims.ofList
    [("sub", .str device), ("agent_id", .str device), ("device_id", .str device),
      ("device_cert_fingerprint_sha256", .str certFingerprintSHA256),
      ("device_cert_serial", .str certSerial), ("role", .str "agent"), ("org_id", .str orgID),
      ("iat", .num (toString (unix now))), ("exp", .num (toString (unix (now + 15 * minute)))),
      ("iss", .str "apexaegis-management-plane")]
  let claims := if groups = [] then claims else claims.set "groups" (.arr (groups.map .str))
  let claims := claims.set "domain_joined" (.bool domain.domainJoined)
  if trimSpace domain.upn = "" then claims else claims.set "upn" (.str domain.upn)

def issueAgentToken (orgID deviceID certFingerprintSHA256 certSerial : String)
    (groups : List String) (domain : AgentTokenDomain) :
    Handled (Except String (Signed MapClaims × Time)) := do
  let now ← timeNow
  if trimSpace certFingerprintSHA256 = "" ∨ trimSpace certSerial = "" then
    return .error "device certificate identity is required"
  else
    match ← signedString
      (agentTokenClaims orgID deviceID certFingerprintSHA256 certSerial groups domain now) with
    | .error err => return .error err
    | .ok signed => return .ok (signed, now + 15 * minute)

structure GrantClaims where
  issuer : String
  subject : String
  deviceID : String
  type : String
  appID : String
  targetHost : String
  targetPort : Nat
  targetPorts : List Nat
  protocol : String
  issuedAt : Int
  expiresAt : Int
  jwtID : String

def mint (issuer : Issuer) (claims : GrantClaims) : Handled (Except String (Signed GrantClaims)) := do
  if claims.deviceID = "" then return .error "grant requires a device id"
  else
    let now ← timeNow
    let jti ← if claims.jwtID = "" then newJTI else pure claims.jwtID
    return .ok ⟨issuer.signingKey,
      { claims with
        issuer := issuer.issuer
        issuedAt := unix now
        expiresAt := unix (now + issuer.ttl)
        jwtID := jti }⟩

def dcScopeGrant (issuer : Issuer) (deviceID appID dcHost : String) (ports : List Nat) :
    Handled (Except String (Signed GrantClaims)) :=
  if dcHost = "" then return .error "DC-scope grant requires a DC host"
  else if ports = [] then return .error "DC-scope grant requires at least one port"
  else
    mint issuer
      { issuer := ""
        subject := ""
        deviceID := deviceID
        type := "device"
        appID := appID
        targetHost := dcHost
        targetPort := 0
        targetPorts := ports
        protocol := "tcp"
        issuedAt := 0
        expiresAt := 0
        jwtID := "" }

/-! ## Handlers -/

inductive Reply where
  | refused (status : Nat) (message : String)
  | authenticated (token : Signed MapClaims) (expiresAt : Time) (agentID tenantName : String)
      (seatsUsed seatsTotal : Int)
  | signedOn (token : Signed MapClaims) (expiresAt : Time) (agentID : String)
      (ticket : KerberosIdentity) (user : ClientUserRef) (groups : List String)
  | granted (grant : Signed GrantClaims) (app dcHost : String) (dcPorts : List Nat)

def Reply.token : Reply → Option (Signed MapClaims)
  | .authenticated token .. => some token
  | .signedOn token .. => some token
  | _ => none

def Reply.grant : Reply → Option (Signed GrantClaims)
  | .granted grant .. => some grant
  | _ => none

structure AgentAuthRequest where
  tenantID : String
  deviceID : String := ""
  platform : String := ""
  clientID : String := ""
  domainJoined : String := ""
  upn : String := ""

structure KerberosSSORequest where
  tenantID : String
  deviceID : String
  platform : String := ""
  spnegoToken : String := ""

def deviceRegistration (tenantID deviceID platform : String) (identity : MtlsClientIdentity) :
    DeviceRegistration where
  orgID := tenantID
  deviceID := deviceID
  deviceName := deviceID
  osType := platform
  certSubject := identity.subject
  certSerial := identity.serial
  certFingerprintSHA256 := identity.fingerprintSHA256
  certNotAfter := identity.notAfter

def registrationRefused : RegisterError → Reply
  | .licenseLimitReached => .refused 402 "device license limit reached"
  | .failed message => .refused 401 message

/-- The registration and the token of a device whose certificate has been checked. -/
def enrol (req : AgentAuthRequest) (deviceID : String) (identity : MtlsClientIdentity) :
    Handled Reply := do
  match ← db.registerMTLSDevice
    (deviceRegistration req.tenantID deviceID req.platform identity) with
  | .error err => return registrationRefused err
  | .ok reg =>
    let groups ← db.groupNamesForDevice reg.id
    match ← issueAgentToken req.tenantID reg.id identity.fingerprintSHA256 identity.serial
      (groups.toOption.getD []) ⟨equalFold req.domainJoined "true", req.upn⟩ with
    | .error _ => return .refused 500 "token generation failed"
    | .ok (token, expiresAt) =>
      let deployment ← db.getDeploymentInfo req.tenantID
      let seats := deployment.toOption
      return .authenticated token expiresAt reg.id req.tenantID
        (seats.elim 0 DeploymentInfo.licensesConsumed)
        (seats.elim 0 DeploymentInfo.subscriptionLicenses)

def authenticate (env : Env) (http : Http) (body : Option AgentAuthRequest) : Handled Reply :=
  match body with
  | none => return .refused 400 "invalid agent auth request"
  | some req =>
    let deviceID := if req.deviceID = "" then req.clientID else req.deviceID
    if req.tenantID = "" ∨ deviceID = "" then
      return .refused 400 "tenant_id and device_id are required"
    else do
      let now ← timeNow
      match clientCertificateIdentity env now http with
      | none => return .refused 401 "device mTLS certificate is required"
      | some identity =>
        if identity.commonName ≠ deviceID ∨ req.tenantID ∉ identity.organizations then
          return .refused 401
            "device certificate identity does not match tenant_id and device_id"
        else enrol req deviceID identity

inductive ResolveError where
  | notInDirectory
  | notProvisioned
  | failed (message : String)

def resolveClientUserByPrincipal (orgID principal : String) :
    Handled (Except ResolveError ClientUserRef) := do
  let principal := trimSpace principal
  if principal = "" then return .error (.failed "empty principal")
  else
    match ← db.connectorUser (localpart principal) principal with
    | .error err => return .error (.failed ("resolve connector user: " ++ err))
    | .ok none => return .error .notInDirectory
    | .ok (some sid) =>
      match ← db.provisionedUser orgID sid with
      | .error err => return .error (.failed ("resolve client user: " ++ err))
      | .ok none => return .error .notProvisioned
      | .ok (some ref) => return .ok ref

/-- The token of the body, or of a `Negotiate` header. -/
def spnegoToken (http : Http) (req : KerberosSSORequest) : String :=
  let authz := http.header "Authorization"
  if trimSpace req.spnegoToken ≠ "" then trimSpace req.spnegoToken
  else if hasPrefix (toLower authz) "negotiate " then
    trimSpace (String.ofList (authz.toList.drop "negotiate ".length))
  else ""

/-- Registration, link and token for a user whom the directory knows. -/
def signOn (req : KerberosSSORequest) (identity : MtlsClientIdentity) (ticket : KerberosIdentity)
    (user : ClientUserRef) : Handled Reply := do
  match ← db.registerMTLSDevice
    (deviceRegistration req.tenantID req.deviceID req.platform identity) with
  | .error err => return registrationRefused err
  | .ok reg =>
    match ← db.linkClientUser req.tenantID reg.id user.id with
    | .error _ => return .refused 500 "failed to bind user to device"
    | .ok _ =>
      let groups ← db.groupNamesForDevice reg.id
      match ← issueAgentToken req.tenantID reg.id identity.fingerprintSHA256 identity.serial
        (groups.toOption.getD []) ⟨true, ticket.principal⟩ with
      | .error _ => return .refused 500 "token generation failed"
      | .ok (token, expiresAt) =>
        return .signedOn token expiresAt reg.id ticket user (groups.toOption.getD [])

def kerberosUser (req : KerberosSSORequest) (identity : MtlsClientIdentity) (token : String) :
    Handled Reply := do
  match ← validateTicket token with
  | .error _ => return .refused 401 "kerberos authentication failed"
  | .ok ticket =>
    match ← resolveClientUserByPrincipal req.tenantID ticket.principal with
    | .error .notProvisioned =>
      return .refused 403 "user is not a member of an imported directory group"
    | .error .notInDirectory => return .refused 403 "user not recognized"
    | .error (.failed _) => return .refused 500 "user resolution failed"
    | .ok user =>
      if user.status ≠ "active" then return .refused 403 "user account is not active"
      else signOn req identity ticket user

def kerberosAuthenticate (env : Env) (http : Http) (body : Option KerberosSSORequest) :
    Handled Reply :=
  if env.kerberosConfigured = false then return .refused 503 "kerberos sso is not configured"
  else
    match body with
    | none => return .refused 400 "invalid kerberos sso request"
    | some req =>
      if req.tenantID = "" ∨ req.deviceID = "" then
        return .refused 400 "tenant_id and device_id are required"
      else if spnegoToken http req = "" then
        return .refused 400 "spnego_token (or Authorization: Negotiate header) is required"
      else do
        let now ← timeNow
        match clientCertificateIdentity env now http with
        | none => return .refused 401 "device mTLS certificate is required"
        | some identity =>
          if identity.commonName ≠ req.deviceID ∨ req.tenantID ∉ identity.organizations then
            return .refused 401
              "device certificate identity does not match tenant_id and device_id"
          else kerberosUser req identity (spnegoToken http req)

structure DeviceContext where
  orgID : String
  deviceID : String
  deviceCN : String

/-- What the middleware puts into the context of a request, or nothing when it aborts. -/
def deviceMTLSAuth (env : Env) (http : Http) : Handled (Option DeviceContext) :=
  match deviceCertificateIdentity env http with
  | none => return none
  | some identity =>
    if tenantHeader http = "" then return none
    else do
      match ← db.validateMTLSDevice (tenantHeader http) identity.fingerprint
        identity.serial with
      | .error _ => return none
      | .ok deviceID =>
        return some ⟨tenantHeader http, deviceID, extractCN identity.subject⟩

def getDeviceDetail (orgID deviceID : String) : Handled (Except String Device) := do
  match ← db.listDevices orgID 500 with
  | .error err => return .error err
  | .ok devices =>
    match devices.find? fun item => item.1 = deviceID with
    | none => return .error "sql: no rows in result set"
    | some (_, item) =>
      -- the latest posture report, then the client logs
      match ← db.readDetail with
      | .error err => return .error err
      | .ok _ =>
        match ← db.readDetail with
        | .error err => return .error err
        | .ok _ => return .ok item

def dcSegmentAppID : String := "dc-segment"

def issueDCGrant (issuer : Issuer) (context : DeviceContext) : Handled Reply :=
  if context.orgID = "" ∨ context.deviceID = "" then
    return .refused 401 "device mTLS identity required"
  else if context.deviceCN = "" then
    return .refused 401 "device certificate common name unavailable"
  else do
    match ← getDeviceDetail context.orgID context.deviceID with
    | .error _ => return .refused 403 "device not enrolled"
    | .ok device =>
      if device.statusText ≠ "" ∧ device.statusText ≠ "active" then
        return .refused 403 "device is not active"
      else
        match resolve issuer.segments context.orgID with
        | none => return .refused 404 "no DC segment configured for tenant"
        | some seg =>
          match ← dcScopeGrant issuer context.deviceCN dcSegmentAppID seg.host seg.ports with
          | .error _ => return .refused 500 "failed to mint grant"
          | .ok grant => return .granted grant dcSegmentAppID seg.host seg.ports

inductive Request where
  | auth (http : Http) (body : Option AgentAuthRequest)
  | kerberos (http : Http) (body : Option KerberosSSORequest)
  | dcGrant (http : Http)

def Request.http : Request → Http
  | .auth http _ => http
  | .kerberos http _ => http
  | .dcGrant http => http

/-- The grant route is there only when an issuer is configured. -/
def handle (env : Env) : Request → Handled Reply
  | .auth http body => authenticate env http body
  | .kerberos http body => kerberosAuthenticate env http body
  | .dcGrant http =>
    match env.grants with
    | none => return .refused 404 "404 page not found"
    | some issuer => do
        match ← deviceMTLSAuth env http with
        | none =>
          return .refused 401 "Authentication required. Please provide valid credentials."
        | some context => issueDCGrant issuer context

end ManagementPlane.Devices
