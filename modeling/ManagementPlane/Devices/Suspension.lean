import ManagementPlane.Devices.Agent
import ManagementPlane.Devices.Licences

/-!
# Devices that an administrator has suspended

Validation and grants look at the status of a device, but a registration sets it: an agent
that authenticates with the certificate of a blocked device makes the row active again
whenever its tenant has a licence left. Without a licence left the registration is refused,
the row stays as it is, and the device gets neither a token nor a grant.
-/

namespace ManagementPlane.Devices

open Interleave Runs Tables
open Policy (Time)

/-- A request with the certificate of a device: what the handlers read from it names the
device. -/
def Request.Presents (env : Env) (deviceID : String) (request : Request) : Prop :=
  ∀ now identity, clientCertificateIdentity env now request.http = some identity →
    identity.commonName = deviceID

def NoFreeLicence (world : World) (orgID : String) : Prop :=
  ∀ org, world.organizations.lookup orgID = some org →
    org.licenses ≤ world.devices.activeCount orgID

/-- No other active device of the tenant has the fingerprint or the serial number of the
certificate. -/
def NoDouble (world : World) (id orgID fingerprint serial : String) : Prop :=
  ∀ other row, world.devices.rows.lookup other = some row → other ≠ id →
    row.activeIn orgID = true → row.presentedBy fingerprint serial = false

instance (world : World) (orgID : String) : Decidable (NoFreeLicence world orgID) :=
  decidable_of_iff
    (∀ org ∈ world.organizations.lookup orgID, org.licenses ≤ world.devices.activeCount orgID)
    Iff.rfl

instance (world : World) (id orgID fingerprint serial : String) :
    Decidable (NoDouble world id orgID fingerprint serial) := by
  unfold NoDouble
  infer_instance

/-- The tenant that an agent wants to be admitted to has no licence left, and no other device
of the tenant that an agent asks a grant of passes for this one. -/
def Held (env : Env) (id : String) (world : World) : Request → Prop
  | .auth _ body => ∀ req, body = some req → NoFreeLicence world req.tenantID
  | .kerberos _ body => ∀ req, body = some req → NoFreeLicence world req.tenantID
  | .dcGrant http => ∀ identity, deviceCertificateIdentity env http = some identity →
      NoDouble world id (tenantHeader http) identity.fingerprint identity.serial

def NotActive (world : World) (id : String) : Prop :=
  ∃ row, world.devices.rows.lookup id = some row ∧ row.status ≠ some .active

def serve (env : Env) (world : World) (request : Request × (Nat → Choice)) : World :=
  ((handle env request.1).eval (exec env) request.2 world).2

def reply (env : Env) (world : World) (request : Request × (Nat → Choice)) : Reply :=
  ((handle env request.1).eval (exec env) request.2 world).1

def Refused (world : World) (reply : Reply) (after : World) : Prop :=
  after = world ∧ reply.token = none ∧ reply.grant = none

section

-- the proofs split on what trimmed texts are, they never compute them
attribute [local irreducible] GoStrings.trimSpace spnegoToken tenantHeader

variable {env : Env} {world : World} {id : String} {row : Device}

theorem refused_refused (status : Nat) (message : String) :
    Refused world (.refused status message) world :=
  ⟨rfl, rfl, rfl⟩

theorem refused_registration (err : RegisterError) : Refused world (registrationRefused err) world := by
  cases err with
  | licenseLimitReached | failed message => exact refused_refused _ _

def Refuses (env : Env) (world : World) (p : Handled Reply) : Prop :=
  Ensures (exec env) (fun _ => True) (Refused world) p world

theorem refuses_return {status : Nat} {message : String} :
    Refuses env world (pure (.refused status message)) :=
  refused_refused status message

theorem refuses_check {check : Prop} [Decidable check] {status : Nat} {message : String}
    {rest : Handled Reply} (goesOn : ¬ check → Refuses env world rest) :
    Refuses env world (if check then pure (.refused status message) else rest) := by
  apply ensures_check
  · intro _
    exact refused_refused status message
  · exact goesOn

def Op.reads : Op → Bool
  | .registerMTLSDevice _ | .validateMTLSDevice .. | .linkClientUser .. => false
  | _ => true

theorem resolve_calls (orgID principal : String) :
    Calls (fun op => op.reads = true) (resolveClientUserByPrincipal orgID principal) := by
  simp [resolveClientUserByPrincipal, forall_except, Option.forall, Op.reads]

theorem resolve_reads (orgID principal : String) :
    Ensures (exec env) (fun _ => True) (fun _ now => now = world)
      (resolveClientUserByPrincipal orgID principal) world := by
  refine ensures_of_calls ?_ _ world (resolve_calls orgID principal) rfl
  intro choice now op reads same
  cases op with
  | registerMTLSDevice reg | validateMTLSDevice orgID fingerprint serial
  | linkClientUser orgID deviceRowID clientUserID => cases reads
  | _ => exact same

variable (found : world.devices.rows.lookup id = some row) (inactive : row.status ≠ some .active)

include found inactive

theorem registration_refused (sees : String → Bool) (choice : Choice)
    (reg : DeviceRegistration) (same : row.deviceID = reg.deviceID) (full : NoFreeLicence world reg.orgID) :
    ∃ err, registerMTLSDevice sees choice world reg = (.error err, world) := by
  unfold registerMTLSDevice
  cases committed : registration sees choice world reg with
  | error err => exact ⟨err, rfl⟩
  | ok result =>
    obtain ⟨done⟩ := registration_ok committed
    exfalso
    have foundOrg := done.found
    unfold World.organization at foundOrg
    split_ifs at foundOrg
    rcases done.licensed with existing | free
    · obtain ⟨other, otherRow, foundOther, active, sameID⟩ := (existingActive_iff ..).mp existing
      have here := world.devices.deviceIDs other id otherRow row foundOther found
        (sameID.trans same.symm)
      rw [here, found] at foundOther
      cases foundOther
      simp [Device.activeIn, Device.active] at active
      exact inactive active.2
    · exact absurd free (not_lt.mpr (full done.org foundOrg))

theorem validation_refused (sees : String → Bool) (choice : Choice)
    {orgID fingerprint serial : String} (single : NoDouble world id orgID fingerprint serial) :
    ∃ err, validateMTLSDevice sees choice world orgID fingerprint serial = (.error err, world) := by
  have nobody : (world.devices.rows.entries.map fun entry => (entry.1, entry.2)).filter
      (fun entry => Device.validates sees orgID fingerprint serial choice.now entry.2) = [] := by
    rw [List.filter_eq_nil_iff]
    intro entry member validates
    obtain ⟨stored, isStored, rfl⟩ := List.mem_map.mp member
    have foundStored := lookup_eq_some_iff.mpr isStored
    simp [Device.validates] at validates
    obtain ⟨⟨⟨-, active⟩, -⟩, presented⟩ := validates
    by_cases here : stored.1 = id
    · rw [here, found] at foundStored
      rw [← Option.some.inj foundStored] at active
      simp [Device.activeIn, Device.active] at active
      exact inactive active.2
    · rw [single stored.1 stored.2 foundStored here active] at presented
      cases presented
  have noVisit := List.perm_nil.mp (choice.devices.perm [])
  unfold validateMTLSDevice
  split_ifs
  · exact ⟨_, rfl⟩
  · cases choice.failure with
    | some err => exact ⟨_, rfl⟩
    | none =>
      simp only [nobody, noVisit]
      exact ⟨_, rfl⟩

theorem refuses_enrol {req : AgentAuthRequest}
    (identity : MtlsClientIdentity) (full : NoFreeLicence world req.tenantID) :
    Refuses env world (enrol req row.deviceID identity) := by
  intro choice _
  obtain ⟨err, answered⟩ := registration_refused found inactive env.sees choice
    (deviceRegistration req.tenantID row.deviceID req.platform identity) rfl full
  simp [exec, answered]
  exact refused_registration err

theorem refuses_authenticate {http : Http} {body : Option AgentAuthRequest}
    (presents : ∀ now identity, clientCertificateIdentity env now http = some identity →
      identity.commonName = row.deviceID)
    (full : ∀ req, body = some req → NoFreeLicence world req.tenantID) :
    Refuses env world (authenticate env http body) := by
  cases body with
  | none => exact refuses_return
  | some req =>
    refine refuses_check fun _ => ?_
    rw [Refuses, ensures_call]
    intro choice _
    cases presented : clientCertificateIdentity env choice.now http <;> simp only [exec, presented]
    · exact refuses_return
    · refine refuses_check ?_
      grind [refuses_enrol]

theorem refuses_signOn {req : KerberosSSORequest}
    (same : row.deviceID = req.deviceID) (identity : MtlsClientIdentity)
    (ticket : KerberosIdentity) (user : ClientUserRef) (full : NoFreeLicence world req.tenantID) :
    Refuses env world (signOn req identity ticket user) := by
  intro choice _
  obtain ⟨err, answered⟩ := registration_refused found inactive env.sees choice
    (deviceRegistration req.tenantID req.deviceID req.platform identity) same full
  simp [exec, answered]
  exact refused_registration err

theorem refuses_kerberosUser {req : KerberosSSORequest} (same : row.deviceID = req.deviceID)
    (identity : MtlsClientIdentity) (token : String) (full : NoFreeLicence world req.tenantID) :
    Refuses env world (kerberosUser req identity token) := by
  unfold Refuses kerberosUser
  rw [ensures_call]
  intro choice _
  simp only [exec]
  cases choice.ticket with
  | error err => exact refuses_return
  | ok ticket =>
    refine ensures_then (resolve_reads req.tenantID ticket.principal) fun resolved now isNow => ?_
    subst isNow
    cases resolved with
    | error err =>
      cases err with
      | notInDirectory | notProvisioned | failed message => exact refuses_return
    | ok user =>
      dsimp only
      refine refuses_check ?_
      grind [refuses_signOn]

theorem refuses_kerberos {http : Http} {body : Option KerberosSSORequest}
    (presents : ∀ now identity, clientCertificateIdentity env now http = some identity →
      identity.commonName = row.deviceID)
    (full : ∀ req, body = some req → NoFreeLicence world req.tenantID) :
    Refuses env world (kerberosAuthenticate env http body) := by
  refine refuses_check fun _ => ?_
  cases body with
  | none => exact refuses_return
  | some req =>
    refine refuses_check fun _ => ?_
    refine refuses_check fun _ => ?_
    rw [Refuses, ensures_call]
    intro choice _
    cases presented : clientCertificateIdentity env choice.now http <;> simp only [exec, presented]
    · exact refuses_return
    · refine refuses_check ?_
      grind [refuses_kerberosUser]

theorem refuses_dcGrant {http : Http}
    (single : ∀ identity, deviceCertificateIdentity env http = some identity →
      NoDouble world id (tenantHeader http) identity.fingerprint identity.serial) :
    Refuses env world (handle env (.dcGrant http)) := by
  unfold handle
  cases env.grants with
  | none => exact refuses_return
  | some issuer =>
    have aborted : Ensures (exec env) (fun _ => True) (fun context now => context = none ∧ now = world)
        (deviceMTLSAuth env http) world := by
      unfold deviceMTLSAuth
      cases presented : deviceCertificateIdentity env http with
      | none => exact ⟨rfl, rfl⟩
      | some identity =>
        dsimp only
        apply ensures_check
        · intro _
          exact ⟨rfl, rfl⟩
        intro _
        rw [ensures_call]
        intro choice _
        obtain ⟨err, answered⟩ := validation_refused found inactive env.sees choice (single identity presented)
        simp only [exec, answered]
        exact ⟨rfl, rfl⟩
    refine ensures_then aborted ?_
    rintro context now ⟨rfl, rfl⟩
    exact refuses_return

theorem refuses_handle {request : Request}
    (presents : request.Presents env row.deviceID) (held : Held env id world request) :
    Refuses env world (handle env request) := by
  cases request with
  | auth http body => exact refuses_authenticate found inactive presents held
  | kerberos http body => exact refuses_kerberos found inactive presents held
  | dcGrant http => exact refuses_dcGrant found inactive held

end

/-- The requests that present the certificate of a device that is not active, as long as no
licence is left for it and no other device passes for it. -/
theorem suspended_device_stays_out (env : Env) (world : World) (id : String) (row : Device)
    (found : world.devices.rows.lookup id = some row) (inactive : row.status ≠ some .active)
    (requests : List (Request × (Nat → Choice)))
    (presented : ∀ request ∈ requests, request.1.Presents env row.deviceID)
    (held : ∀ visit ∈ visits (serve env) world requests, Held env id visit.1 visit.2.1) :
    (∀ reached ∈ states (serve env) world requests, NotActive reached id) ∧
      ∀ visit ∈ visits (serve env) world requests,
        (reply env visit.1 visit.2).token = none ∧ (reply env visit.1 visit.2).grant = none := by
  have refused : ∀ request ∈ requests, Held env id world request.1 →
      Refused world (reply env world request) (serve env world request) := by
    intro request member heldHere
    exact eval_ensures request.2 (fun _ => trivial)
      (refuses_handle found inactive (presented request member) heldHere)
  -- every state of the run is the first one, so every step is refused there
  have unchanged : ∀ reached ∈ states (serve env) world requests, reached = world := by
    apply states_invariant_of (serve env)
      (fun now request => request ∈ requests ∧ Held env id now request.1) (fun now => now = world)
      ?_ world requests rfl ?_
    · intro now request same allowed
      subst same
      exact (refused request allowed.1 allowed.2).1
    · intro visit member
      exact ⟨input_mem_of_visits member, held visit member⟩
  refine ⟨?_, ?_⟩
  · intro reached member
    rw [unchanged reached member]
    exact ⟨row, found, inactive⟩
  · intro visit member
    have same := unchanged visit.1 (visit_mem_states member)
    have heldHere := held visit member
    rw [same] at heldHere ⊢
    exact (refused visit.2 (input_mem_of_visits member) heldHere).2

/-- The laptop of an organization, which an administrator has blocked. -/
def blockedLaptop (licenses : Nat) : World where
  organizations := (∅ : Table String Organization).insert "acme" (.unused licenses)
  devices := .ofRows
    [("row-1",
      { orgID := "acme"
        deviceID := "laptop-7"
        mtlsCertSerial := some "17"
        mtlsCertFingerprint := some "ab"
        mtlsCertNotAfter := some 100
        status := some .blocked })]
  directory := .empty

def tunnelEnv : Env where
  sees := fun _ => true
  sha256Hex := fun _ => "ab"
  parseLeaf := fun _ => none
  pathUnescape := some
  lower := GoStrings.toLower
  jwtSecret := "secret"
  kerberosConfigured := false
  grants := some ⟨"key", "device-api.apexaegis.app", 20, newConfigDCSegments [("*", ⟨"10.10.1.4", []⟩)]⟩

def laptopHttp : Http where
  peerCertificates := [⟨[], "CN=laptop-7,O=acme", "laptop-7", ["acme"], "17", 100⟩]
  header := fun name => if name = "X-Tenant-ID" then "acme" else ""

def authThenGrant : List (Request × (Nat → Choice)) :=
  [(.auth laptopHttp (some { tenantID := "acme", deviceID := "laptop-7", platform := "windows" }),
      fun _ => {}),
    (.dcGrant laptopHttp, fun _ => {})]

theorem blocked_laptop_refused :
    NotActive (run (serve tunnelEnv) (blockedLaptop 0) authThenGrant) "row-1" := by
  have presented : ∀ request ∈ authThenGrant, request.1.Presents tunnelEnv "laptop-7" := by
    intro request member now identity found
    simp [authThenGrant] at member
    rcases member with rfl | rfl
    · cases found
      rfl
    · cases found
      rfl
  have held : ∀ visit ∈ visits (serve tunnelEnv) (blockedLaptop 0) authThenGrant,
      Held tunnelEnv "row-1" visit.1 visit.2.1 := by
    intro visit member
    simp [authThenGrant, visits] at member
    rcases member with rfl | rfl
    · intro req isReq
      cases isReq
      decide +kernel
    · intro identity found
      cases found
      decide +kernel
  exact (suspended_device_stays_out tunnelEnv (blockedLaptop 0) "row-1" _ rfl (by decide)
    authThenGrant presented held).1 _ run_mem_states

/-- With a licence left the laptop is admitted, active again, and gets its grant. -/
theorem blocked_laptop_admitted :
    NotActive (blockedLaptop 1) "row-1" ∧
      (states (serve tunnelEnv) (blockedLaptop 1) authThenGrant).map
          (fun world => (world.devices.rows.lookup "row-1").bind Device.status) =
        [some .blocked, some .active, some .active] ∧
      (visits (serve tunnelEnv) (blockedLaptop 1) authThenGrant).map
          (fun visit => ((reply tunnelEnv visit.1 visit.2).token.isSome,
            (reply tunnelEnv visit.1 visit.2).grant.isSome)) =
        [(true, false), (false, true)] := by
  refine ⟨⟨_, rfl, by decide⟩, by decide +kernel, by decide +kernel⟩

end ManagementPlane.Devices
