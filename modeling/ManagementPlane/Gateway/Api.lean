import ManagementPlane.Gateway.Identity

/-!
# What a gateway may do to others

The handlers of `internal/api/handlers/gateway_handler.go` that change the registry or
issue certificates, behind `GatewayAuth`, with `IssueCertificate` of
`internal/auth/ca.go`.

A body that `ShouldBindJSON` refuses is `none`. The clock readings, the outcome of
signing and the policy version in the reply are chosen from outside; a certificate is
the template that was signed.
-/

namespace ManagementPlane.Gateway

open GoStrings Tables AList
open Policy (Time minute)

structure LeafCertificate (IP : Type) where
  organization : List String
  commonName : String
  notBefore : Time
  notAfter : Time
  ipAddresses : List IP
  dnsNames : List String

def day : Time := 24 * 60 * minute

/-- `time.Duration(days) * 24 * time.Hour`, in 64 bits. -/
def daysLater (days : Int) (now : Time) : Time := now + (days * day).bmod (2 ^ 64)

variable {IP : Type}

def leafTemplate (parseIP : String → Option IP) (gatewayID : String) (hosts : List String)
    (validDays : Int) (now : Time) : LeafCertificate IP where
  organization := ["ApexAegis"]
  commonName := "apexaegis-gw-" ++ gatewayID
  notBefore := now - 5 * minute
  notAfter := daysLater validDays now
  ipAddresses := hosts.filterMap parseIP
  dnsNames := hosts.filter fun host => (parseIP host).isNone

structure HeartbeatRequest where
  gatewayID : String
  policyVersion : Int

structure CertificateRequest where
  gatewayID : String
  hosts : List String
  validDays : Int := 0

/-- What a request meets: `signing` is the error of the key generation or of the
signature, if any, and `nextYear` is `AddDate(1, 0, 0)`. -/
structure Choice (IP : Type) where
  now : Time
  later : Time
  parseIP : String → Option IP
  signing : Option String
  nextYear : Time → Time
  currentVersion : Int

inductive Reply (IP : Type) where
  | refused (status : Nat)
  | registered (gatewayID : String) (method : AuthMethod)
  | alive (currentVersion : Int)
  | issued (certificate : LeafCertificate IP) (notAfter : Time)

def Reply.certificate : Reply IP → Option (LeafCertificate IP)
  | .issued certificate _ => some certificate
  | _ => none

namespace GatewayHandler

/-- With mTLS the id of the body gives way to the one of the certificate. -/
def registrant (identity : Identity) (req : GatewayNode) : GatewayNode :=
  if identity.method = .mtls ∧ identity.gatewayID ≠ "" then
    { req with
      id := identity.gatewayID
      region := if req.region = "" then identity.gatewayID else req.region }
  else req

def register (choice : Choice IP) (identity : Identity) (r : Registry)
    (body : Option GatewayNode) : Reply IP × Registry :=
  match body with
  | none => (.refused 400, r)
  | some req =>
    if req.id = "" then (.refused 400, r)
    else
      let node := registrant identity req
      let registered := Gateway.register r node choice.now choice.later
      (.registered node.id identity.method,
        match identity.method with
        | .mtls => markMTLSIssued registered node.id (choice.nextYear choice.later)
        | .apiKey => registered)

def heartbeat (choice : Choice IP) (identity : Identity) (r : Registry)
    (body : Option HeartbeatRequest) : Reply IP × Registry :=
  match body with
  | none => (.refused 400, r)
  | some req =>
    let gatewayID := if req.gatewayID = "" then identity.gatewayID else req.gatewayID
    let beat := Gateway.heartbeat r gatewayID req.policyVersion choice.now
    (if beat.1 then .alive choice.currentVersion else .refused 404, beat.2)

def certify (choice : Choice IP) (r : Registry) (req : CertificateRequest) (validDays : Int) :
    Reply IP × Registry :=
  match choice.signing with
  | some _ => (.refused 500, r)
  | none =>
    let notAfter := daysLater validDays choice.later
    (.issued (leafTemplate choice.parseIP req.gatewayID req.hosts validDays choice.now) notAfter,
      markMTLSIssued r req.gatewayID notAfter)

def validDays (req : CertificateRequest) : Int := if req.validDays ≤ 0 then 365 else req.validDays

def issueCertificate (choice : Choice IP) (r : Registry) (body : Option CertificateRequest) :
    Reply IP × Registry :=
  match body with
  | none => (.refused 400, r)
  | some req => certify choice r req (validDays req)

def renewCertificate (choice : Choice IP) (r : Registry) (body : Option CertificateRequest) :
    Reply IP × Registry :=
  match body with
  | none => (.refused 400, r)
  | some req => certify choice r req 365

end GatewayHandler

inductive Request where
  | register (body : Option GatewayNode)
  | heartbeat (body : Option HeartbeatRequest)
  | issueCertificate (body : Option CertificateRequest)
  | renewCertificate (body : Option CertificateRequest)

def handle (choice : Choice IP) (identity : Identity) (r : Registry) :
    Request → Reply IP × Registry
  | .register body => GatewayHandler.register choice identity r body
  | .heartbeat body => GatewayHandler.heartbeat choice identity r body
  | .issueCertificate body => GatewayHandler.issueCertificate choice r body
  | .renewCertificate body => GatewayHandler.renewCertificate choice r body

def serve (env : Env) (choice : Choice IP) (header : String → String) (r : Registry)
    (request : Request) : Reply IP × Registry :=
  match gatewayAuth env header with
  | none => (.refused 401, r)
  | some identity => handle choice identity r request

def KeepsOthers (gatewayID : String) (before after : Registry) : Prop :=
  ∀ id, id ≠ gatewayID → after.gateways.lookup id = before.gateways.lookup id

variable (gatewayID : String) (r : Registry)

theorem KeepsOthers.refl : KeepsOthers gatewayID r r :=
  fun _ _ => rfl

theorem KeepsOthers.trans {gatewayID : String} {first second third : Registry}
    (earlier : KeepsOthers gatewayID first second) (later : KeepsOthers gatewayID second third) :
    KeepsOthers gatewayID first third :=
  fun id other => (later id other).trans (earlier id other)

theorem lookup_updateNode (id : String) (f : GatewayNode → GatewayNode) :
    (updateNode r id f).gateways.lookup id = (r.gateways.lookup id).map f := by
  rw [updateNode]
  grind [lookup_insert]

theorem lookup_updateNode_ne {id other : String} (f : GatewayNode → GatewayNode)
    (different : other ≠ id) :
    (updateNode r id f).gateways.lookup other = r.gateways.lookup other := by
  rw [updateNode]
  grind [lookup_insert_ne]

theorem keepsOthers_updateNode_iff (id : String) (f : GatewayNode → GatewayNode) :
    KeepsOthers gatewayID r (updateNode r id f) ↔
      id = gatewayID ∨ ∀ gw, r.gateways.lookup id = some gw → f gw = gw := by
  constructor
  · intro keeps
    by_cases own : id = gatewayID
    · exact .inl own
    · refine .inr fun gw found => ?_
      have same := keeps id own
      rw [lookup_updateNode, found] at same
      exact Option.some_injective _ same
  · intro harmless other different
    by_cases same : other = id
    · subst same
      rw [lookup_updateNode]
      cases found : r.gateways.lookup other with
      | none => rfl
      | some gw =>
        grind
    · exact lookup_updateNode_ne r f same

/-- The entry of a registration that has just been made with the same body. -/
def Registered (r : Registry) (node : GatewayNode) (now : Time) : Prop :=
  ∃ existing, r.gateways.lookup node.id = some existing ∧
    existing =
      { node with
        lastHeartbeat := now
        status := .online
        mtlsIssued := existing.mtlsIssued
        certNotAfter := existing.certNotAfter
        registeredAt := existing.registeredAt }

theorem register_keeps_iff (node : GatewayNode) (now later : Time) :
    (register r node now later).gateways.lookup node.id = r.gateways.lookup node.id ↔
      Registered r node now := by
  rw [register, lookup_insert]
  constructor
  · intro same
    cases found : r.gateways.lookup node.id with
    | none =>
      rw [found] at same
      cases same
    | some existing =>
      rw [found] at same
      exact ⟨existing, found, (Option.some_injective _ same).symm⟩
  · rintro ⟨existing, found, same⟩
    rw [found]
    exact congrArg some same.symm

theorem keepsOthers_register_iff (node : GatewayNode) (now later : Time) :
    KeepsOthers gatewayID r (register r node now later) ↔
      node.id = gatewayID ∨ Registered r node now := by
  constructor
  · intro keeps
    by_cases own : node.id = gatewayID
    · exact .inl own
    · exact .inr ((register_keeps_iff r node now later).mp (keeps node.id own))
  · intro harmless other different
    grind [register_keeps_iff, register, lookup_insert_ne]

/-! ## A gateway acts only for itself -/

/-- Entries of other gateways stay, and a certificate in the reply is one that the gRPC
server takes for this gateway's. -/
def ActsForItself (gatewayID : String) (before : Registry) (outcome : Reply IP × Registry) :
    Prop :=
  KeepsOthers gatewayID before outcome.2 ∧
    ∀ certificate, outcome.1.certificate = some certificate →
      gatewayIDMatchesCertificate gatewayID certificate.commonName = true

/-- A certificate request names the caller, by its id or as the certificates of the
authority do; in the second case the entry marked must already carry the mark. -/
def CertifiesItself (gatewayID : String) (r : Registry) (req : CertificateRequest)
    (notAfter : Time) : Prop :=
  req.gatewayID = gatewayID ∨
    (gatewayID = "apexaegis-gw-" ++ req.gatewayID ∧
      ∀ gw, r.gateways.lookup req.gatewayID = some gw →
        gw.mtlsIssued = true ∧ gw.certNotAfter = some notAfter)

/-- The requests that reach nobody else, by what the body names. A registration or a
heartbeat in another's name is harmless only where the entry already reads as it would
leave it. -/
def NamesItself (choice : Choice IP) (identity : Identity) (r : Registry) : Request → Prop
  | .register body => ∀ req, body = some req →
      identity.method = .mtls ∨ req.id = "" ∨ req.id = identity.gatewayID ∨
        Registered r req choice.now
  | .heartbeat body => ∀ req, body = some req →
      req.gatewayID = "" ∨ req.gatewayID = identity.gatewayID ∨
        ∀ gw, r.gateways.lookup req.gatewayID = some gw →
          gw.lastHeartbeat = choice.now ∧ gw.policyVersion = req.policyVersion ∧
            gw.status = .online
  | .issueCertificate body => ∀ req, body = some req → choice.signing = none →
      CertifiesItself identity.gatewayID r req
        (daysLater (GatewayHandler.validDays req) choice.later)
  | .renewCertificate body => ∀ req, body = some req → choice.signing = none →
      CertifiesItself identity.gatewayID r req (daysLater 365 choice.later)

section
variable (choice : Choice IP) (identity : Identity) (r : Registry)

theorem refused_actsForItself (status : Nat) :
    ActsForItself identity.gatewayID r ((.refused status : Reply IP), r) :=
  ⟨KeepsOthers.refl _ r, fun _ absent => nomatch absent⟩

theorem markMTLSIssued_unchanged_iff (gw : GatewayNode) (notAfter : Time) :
    { gw with mtlsIssued := true, certNotAfter := some notAfter } = gw ↔
      gw.mtlsIssued = true ∧ gw.certNotAfter = some notAfter := by
  obtain ⟨⟩ := gw
  simp [eq_comm]

theorem heartbeat_unchanged_iff (gw : GatewayNode) (policyVersion : Int) (now : Time) :
    { gw with lastHeartbeat := now, policyVersion := policyVersion, status := .online } = gw ↔
      gw.lastHeartbeat = now ∧ gw.policyVersion = policyVersion ∧ gw.status = .online := by
  obtain ⟨⟩ := gw
  grind

theorem keepsOthers_markMTLSIssued_iff (gatewayID id : String) (notAfter : Time) :
    KeepsOthers gatewayID r (markMTLSIssued r id notAfter) ↔
      id = gatewayID ∨ ∀ gw, r.gateways.lookup id = some gw →
        gw.mtlsIssued = true ∧ gw.certNotAfter = some notAfter := by
  rw [markMTLSIssued, keepsOthers_updateNode_iff]
  simp [markMTLSIssued_unchanged_iff]

theorem register_mtls_actsForItself (body : Option GatewayNode) (mtls : identity.method = .mtls)
    (named : identity.gatewayID ≠ "") :
    ActsForItself identity.gatewayID r (GatewayHandler.register choice identity r body) := by
  cases body with
  | none => exact refused_actsForItself identity r 400
  | some req =>
    rw [GatewayHandler.register]
    by_cases unnamed : req.id = ""
    · grind [refused_actsForItself]
    · rw [if_neg unnamed]
      have own : (GatewayHandler.registrant identity req).id = identity.gatewayID := by
        rw [GatewayHandler.registrant, if_pos ⟨mtls, named⟩]
      refine ⟨?_, fun _ absent => nomatch absent⟩
      simp [mtls]
      exact KeepsOthers.trans ((keepsOthers_register_iff _ r ..).mpr (.inl own))
        ((keepsOthers_markMTLSIssued_iff ..).mpr (.inl own))

theorem register_apiKey_actsForItself_iff (req : GatewayNode) (apiKey : identity.method = .apiKey) :
    ActsForItself identity.gatewayID r (GatewayHandler.register choice identity r (some req)) ↔
      req.id = "" ∨ req.id = identity.gatewayID ∨ Registered r req choice.now := by
  rw [GatewayHandler.register]
  by_cases unnamed : req.id = ""
  · grind [refused_actsForItself]
  · have asSent : GatewayHandler.registrant identity req = req := by
      rw [GatewayHandler.registrant, apiKey]
      exact if_neg (fun mtls => nomatch mtls.1)
    rw [if_neg unnamed]
    simp [asSent, apiKey, unnamed]
    rw [← keepsOthers_register_iff identity.gatewayID r req choice.now choice.later]
    exact ⟨And.left, fun keeps => ⟨keeps, fun _ absent => nomatch absent⟩⟩

theorem heartbeat_certificate (req : HeartbeatRequest) :
    (GatewayHandler.heartbeat choice identity r (some req)).1.certificate = none := by
  simp [GatewayHandler.heartbeat]
  rw [apply_ite Reply.certificate]
  exact ite_self none

theorem heartbeat_actsForItself_iff (req : HeartbeatRequest) :
    ActsForItself identity.gatewayID r (GatewayHandler.heartbeat choice identity r (some req)) ↔
      req.gatewayID = "" ∨ req.gatewayID = identity.gatewayID ∨
        ∀ gw, r.gateways.lookup req.gatewayID = some gw →
          gw.lastHeartbeat = choice.now ∧ gw.policyVersion = req.policyVersion ∧
            gw.status = .online := by
  rw [ActsForItself, heartbeat_certificate]
  by_cases unnamed : req.gatewayID = ""
  · simp [GatewayHandler.heartbeat, Gateway.heartbeat, if_pos unnamed, keepsOthers_updateNode_iff]
    simp [unnamed]
  · simp [GatewayHandler.heartbeat, Gateway.heartbeat, if_neg unnamed,
      keepsOthers_updateNode_iff, heartbeat_unchanged_iff]
    simp [unnamed]

theorem certify_actsForItself_iff (req : CertificateRequest) (validDays : Int) :
    ActsForItself identity.gatewayID r (GatewayHandler.certify choice r req validDays) ↔
      (choice.signing = none →
        CertifiesItself identity.gatewayID r req (daysLater validDays choice.later)) := by
  cases signing : choice.signing with
  | some err =>
    have refused : GatewayHandler.certify choice r req validDays = (.refused 500, r) := by
      simp [GatewayHandler.certify, signing]
    grind [refused_actsForItself]
  | none =>
    simp [GatewayHandler.certify, signing, ActsForItself, Reply.certificate, leafTemplate,
      gatewayIDMatchesCertificate_issued, keepsOthers_markMTLSIssued_iff, CertifiesItself]
    constructor
    all_goals grind

theorem handle_actsForItself_iff (request : Request)
    (named : identity.method = .mtls → identity.gatewayID ≠ "") :
    ActsForItself identity.gatewayID r (handle choice identity r request) ↔
      NamesItself choice identity r request := by
  have refused : ActsForItself identity.gatewayID r ((.refused 400 : Reply IP), r) :=
    refused_actsForItself identity r 400
  cases request with
  | register body =>
    cases method : identity.method with
    | mtls =>
      refine ⟨fun _ _ _ => .inl method, fun _ => ?_⟩
      exact register_mtls_actsForItself choice identity r body method (named method)
    | apiKey =>
      cases body with
      | none => exact ⟨fun _ _ => (nomatch ·), fun _ => refused⟩
      | some req =>
        simp [NamesItself, method, reduceCtorEq]
        exact register_apiKey_actsForItself_iff choice identity r req method
  | heartbeat body =>
    cases body with
    | none => exact ⟨fun _ _ => (nomatch ·), fun _ => refused⟩
    | some req =>
      simp [NamesItself]
      exact heartbeat_actsForItself_iff choice identity r req
  | issueCertificate body | renewCertificate body =>
    cases body with
    | none => exact ⟨fun _ _ => (nomatch ·), fun _ => refused⟩
    | some req =>
      simp [NamesItself]
      exact certify_actsForItself_iff choice identity r req _

end

theorem gateway_acts_for_itself_iff (env : Env) (choice : Choice IP) (header : String → String)
    (r : Registry) (request : Request) (identity : Identity)
    (authenticated : gatewayAuth env header = some identity) :
    ActsForItself identity.gatewayID r (serve env choice header r request) ↔
      NamesItself choice identity r request := by
  rw [serve, authenticated]
  exact handle_actsForItself_iff choice identity r request
    fun mtls => (gatewayAuth_mtls authenticated mtls).2

/-! A gateway with a certificate of its own, in a registry of two. -/

def behindBalancer : Env where
  mtlsEnabled := true
  queryUnescape := some
  apiKeys := ∅
  requireClientIdentity := true

def singapore : String → String := fun name =>
  if name = "X-Amzn-Mtls-Clientcert-Subject" then "CN=ap-southeast-1,O=ApexAegis" else ""

def sydney : GatewayNode where
  id := "ap-southeast-2"

def twoRegions : Registry where
  gateways := (∅ : Table String GatewayNode).insert "ap-southeast-2" sydney
  streamConnected := ∅
  store := none

def morning : Choice Unit where
  now := 0
  later := 0
  parseIP := fun _ => none
  signing := none
  nextYear := fun now => now + 365 * day
  currentVersion := 1

theorem singapore_authenticated :
    gatewayAuth behindBalancer singapore = some ⟨"ap-southeast-1", .mtls⟩ := by
  decide +kernel

theorem singapore_renews_its_own :
    ActsForItself "ap-southeast-1" twoRegions
      (serve behindBalancer morning singapore twoRegions
        (.renewCertificate (some ⟨"ap-southeast-1", [], 0⟩))) :=
  (gateway_acts_for_itself_iff behindBalancer morning singapore twoRegions _ _
    singapore_authenticated).mpr fun _ named _ => .inl (by cases named; rfl)

/-- The certificate for one gateway is handed to another, and the entry of the first is
marked. -/
theorem singapore_renews_sydney :
    ∃ certificate : LeafCertificate Unit,
      gatewayAuth behindBalancer singapore = some ⟨"ap-southeast-1", .mtls⟩ ∧
      (serve behindBalancer morning singapore twoRegions
        (.renewCertificate (some ⟨"ap-southeast-2", [], 0⟩))).1.certificate = some certificate ∧
      certificate.commonName = "apexaegis-gw-ap-southeast-2" ∧
      ¬ ActsForItself "ap-southeast-1" twoRegions
        (serve behindBalancer morning singapore twoRegions
          (.renewCertificate (some ⟨"ap-southeast-2", [], 0⟩))) := by
  have issued : (serve behindBalancer morning singapore twoRegions
      (.renewCertificate (some ⟨"ap-southeast-2", [], 0⟩))).1.certificate =
        some (leafTemplate morning.parseIP "ap-southeast-2" [] 365 0) := by
    rw [serve, singapore_authenticated]
    rfl
  refine ⟨_, singapore_authenticated, issued, rfl, ?_⟩
  intro acts
  have mismatch := acts.2 _ issued
  revert mismatch
  decide +kernel

end ManagementPlane.Gateway
