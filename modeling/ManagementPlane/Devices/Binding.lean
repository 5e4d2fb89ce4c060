import ManagementPlane.Devices.Agent

/-!
# The certificate behind a device request

`DeviceMTLSAuth` looks for an active, unexpired device of the tenant whose fingerprint or
whose serial number is the one that the request presents. A serial number is unique for one
issuer only, so a certificate that was never registered passes for any device of the tenant
that happens to have its serial number; and a request without a certificate passes by its
headers alone.
-/

namespace ManagementPlane.Devices

open List hiding lookup_eq_some_iff
open Interleave Tables
open Policy (Time)

/-- The certificate of the TLS connection, or the one that the load balancer forwards. -/
def presentedCertificate (env : Env) (http : Http) : Option Certificate :=
  match http.peerCertificates with
  | cert :: _ => some cert
  | [] => leafCertificate env http

/-- An active device of the tenant whose certificate has not expired. -/
def Device.usable (sees : String → Bool) (orgID : String) (now : Time) (row : Device) : Bool :=
  sees row.orgID && row.activeIn orgID && row.mtlsCertNotAfter.any (now < ·)

/-- The device of a context is a usable one of the tenant, registered with the certificate that
the request presents. -/
def BoundToCertificate (env : Env) (world : World) (now : Time) (http : Http)
    (context : DeviceContext) : Prop :=
  context.orgID = tenantHeader http ∧
    ∃ row cert, world.devices.rows.lookup context.deviceID = some row ∧
      row.usable env.sees (tenantHeader http) now = true ∧
      presentedCertificate env http = some cert ∧
      row.mtlsCertFingerprint = some (env.sha256Hex cert.raw)

/-- Every usable device with the serial number of the presented certificate has its
fingerprint too; without a certificate, no usable device has what the headers say. -/
def SerialsTell (env : Env) (world : World) (now : Time) (http : Http)
    (identity : DeviceMTLSIdentity) : Prop :=
  ∀ id row, world.devices.rows.lookup id = some row →
    row.usable env.sees (tenantHeader http) now = true →
    match presentedCertificate env http with
    | some cert => identity.serial ≠ "" → row.mtlsCertSerial = some identity.serial →
        row.mtlsCertFingerprint = some (env.sha256Hex cert.raw)
    | none => row.presentedBy identity.fingerprint identity.serial = false

section
variable {env : Env} {http : Http} {identity : DeviceMTLSIdentity}

section
variable (hashed : ∀ bytes, env.sha256Hex bytes ≠ "")
  (found : deviceCertificateIdentity env http = some identity)

include hashed found

theorem deviceCertificateIdentity_certificate
    {cert : Certificate} (presented : presentedCertificate env http = some cert) :
    identity.fingerprint = env.sha256Hex cert.raw := by
  unfold deviceCertificateIdentity at found
  unfold presentedCertificate at presented
  cases peers : http.peerCertificates with
  | cons peer rest | nil =>
    grind

theorem deviceCertificateIdentity_fingerprint : identity.fingerprint ≠ "" := by
  cases presented : presentedCertificate env http with
  | some cert =>
    rw [deviceCertificateIdentity_certificate hashed found presented]
    exact hashed cert.raw
  | none =>
    unfold deviceCertificateIdentity at found
    unfold presentedCertificate at presented
    cases peers : http.peerCertificates with
    | cons peer rest =>
      rw [peers] at presented
      cases presented
    | nil =>
      simp only [peers] at found presented
      simp only [presented] at found
      split at found
      · cases found
      · split at found
        · cases found
          exact hashed _
        · cases found
          assumption

end

end

section
variable {sees : String → Bool} {choice : Choice} {world : World}
variable {orgID fingerprint serial id : String}

theorem validates_iff (now : Time) (row : Device) :
    row.validates sees orgID fingerprint serial now = true ↔
      row.usable sees orgID now = true ∧ row.presentedBy fingerprint serial = true := by
  simp [Device.validates, Device.usable]

theorem validateMTLSDevice_ok
    (answered : (validateMTLSDevice sees choice world orgID fingerprint serial).1 = .ok id) :
    ∃ row, world.devices.rows.lookup id = some row ∧
      row.usable sees orgID choice.now = true ∧ row.presentedBy fingerprint serial = true := by
  unfold validateMTLSDevice at answered
  split_ifs at answered
  cases failed : choice.failure with
  | some err =>
    rw [failed] at answered
    cases answered
  | none =>
    simp [failed] at answered
    split at answered
    · cases answered
    · rename_i first row rest visited
      cases answered
      have member : (id, row) ∈ choice.devices.visit
          ((world.devices.rows.entries.map fun entry => (entry.1, entry.2)).filter
            fun entry => Device.validates sees orgID fingerprint serial choice.now entry.2) := by
        rw [visited]
        exact mem_cons_self
      rw [(choice.devices.perm _).mem_iff, mem_filter, mem_map] at member
      obtain ⟨⟨entry, stored, same⟩, validates⟩ := member
      cases same
      exact ⟨entry.2, lookup_eq_some_iff.mpr stored, (validates_iff ..).mp validates⟩

theorem validateMTLSDevice_any {row : Device} {now : Time}
    (found : world.devices.rows.lookup id = some row) (usable : row.usable sees orgID now = true)
    (presented : row.presentedBy fingerprint serial = true) (tenant : orgID ≠ "")
    (identified : fingerprint ≠ "") :
    (validateMTLSDevice sees { now := now, devices := .front fun entry => entry.1 = id } world
      orgID fingerprint serial).1 = .ok id := by
  have member : (id, row) ∈ (world.devices.rows.entries.map fun entry => (entry.1, entry.2)).filter
      fun entry => Device.validates sees orgID fingerprint serial now entry.2 := by
    rw [mem_filter, mem_map]
    exact ⟨⟨⟨id, row⟩, lookup_eq_some_iff.mp found, rfl⟩,
      (validates_iff now row).mpr ⟨usable, presented⟩⟩
  unfold validateMTLSDevice
  rw [if_neg (by simp [tenant, identified])]
  simp only [MapOrder.front]
  generalize (world.devices.rows.entries.map fun entry => (entry.1, entry.2)).filter
      (fun entry => Device.validates sees orgID fingerprint serial now entry.2) = rows at member ⊢
  have first : (id, row) ∈ rows.filter fun entry => decide (entry.1 = id) :=
    mem_filter.mpr ⟨member, decide_eq_true rfl⟩
  cases front : rows.filter fun entry => decide (entry.1 = id) with
  | nil =>
    rw [front] at first
    cases first
  | cons head rest =>
    have isHead : head ∈ rows.filter fun entry => decide (entry.1 = id) := by
      rw [front]
      exact mem_cons_self
    have same : head.1 = id := of_decide_eq_true (mem_filter.mp isHead).2
    simp [same]

end

section
variable {env : Env} {http : Http} {identity : DeviceMTLSIdentity} {choices : Nat → Choice}
variable {world : World} {context : DeviceContext}

theorem deviceMTLSAuth_eval (presented : deviceCertificateIdentity env http = some identity)
    (tenant : tenantHeader http ≠ "") :
    ((deviceMTLSAuth env http).eval (exec env) choices world).1 =
      (validateMTLSDevice env.sees (choices 0) world (tenantHeader http) identity.fingerprint
        identity.serial).1.toOption.map
          fun deviceID => ⟨tenantHeader http, deviceID, extractCN identity.subject⟩ := by
  unfold deviceMTLSAuth
  simp [presented, if_neg tenant]
  rw [eval_call]
  simp [exec]
  cases (validateMTLSDevice env.sees (choices 0) world (tenantHeader http) identity.fingerprint
    identity.serial).1 with
  | error err => rfl
  | ok deviceID => rfl

theorem deviceMTLSAuth_some
    (passed : ((deviceMTLSAuth env http).eval (exec env) choices world).1 = some context) :
    ∃ identity, deviceCertificateIdentity env http = some identity ∧ tenantHeader http ≠ "" ∧
      (validateMTLSDevice env.sees (choices 0) world (tenantHeader http) identity.fingerprint
        identity.serial).1 = .ok context.deviceID ∧ context.orgID = tenantHeader http := by
  cases presented : deviceCertificateIdentity env http with
  | none =>
    unfold deviceMTLSAuth at passed
    rw [presented] at passed
    cases passed
  | some identity =>
    by_cases tenant : tenantHeader http = ""
    · unfold deviceMTLSAuth at passed
      simp [presented, if_pos tenant] at passed
      cases passed
    · rw [deviceMTLSAuth_eval presented tenant, Option.map_eq_some_iff] at passed
      obtain ⟨deviceID, answered, rfl⟩ := passed
      refine ⟨identity, rfl, tenant, ?_, rfl⟩
      cases result : (validateMTLSDevice env.sees (choices 0) world (tenantHeader http)
          identity.fingerprint identity.serial).1 with
      | error err =>
        rw [result] at answered
        cases answered
      | ok answer =>
        rw [result] at answered
        exact congrArg Except.ok (Option.some.inj answered)

end

theorem serialsTell_bound {env : Env} {world : World} {now : Time} {http : Http}
    {identity : DeviceMTLSIdentity} (hashed : ∀ bytes, env.sha256Hex bytes ≠ "")
    (found : deviceCertificateIdentity env http = some identity)
    (tell : SerialsTell env world now http identity) {id : String} {row : Device}
    (foundRow : world.devices.rows.lookup id = some row)
    (usable : row.usable env.sees (tenantHeader http) now = true)
    (presentedBy : row.presentedBy identity.fingerprint identity.serial = true) :
    ∃ cert, presentedCertificate env http = some cert ∧
      row.mtlsCertFingerprint = some (env.sha256Hex cert.raw) := by
  have told := tell id row foundRow usable
  cases presented : presentedCertificate env http with
  | none =>
    grind
  | some cert =>
    rw [presented] at told
    refine ⟨cert, rfl, ?_⟩
    have same := deviceCertificateIdentity_certificate hashed found presented
    simp [Device.presentedBy, same]
      at presentedBy
    rcases presentedBy with byFingerprint | bySerial
    · exact byFingerprint.2
    · exact told bySerial.1 bySerial.2

/-- A request passes as a device only with the device's certificate exactly when, at that time,
serial numbers tell the certificates of the tenant's usable devices apart. -/
theorem device_request_bound_iff (env : Env) (hashed : ∀ bytes, env.sha256Hex bytes ≠ "")
    (world : World) (now : Time) (http : Http) :
    (∀ choices : Nat → Choice, (choices 0).now = now → ∀ context,
        ((deviceMTLSAuth env http).eval (exec env) choices world).1 = some context →
        BoundToCertificate env world now http context) ↔
      ∀ identity, deviceCertificateIdentity env http = some identity → tenantHeader http ≠ "" →
        SerialsTell env world now http identity := by
  constructor
  · intro bound identity found tenant id row foundRow usable
    have fingerprint := deviceCertificateIdentity_fingerprint hashed found
    -- whichever row the statement may answer with is bound to the certificate
    have passes : row.presentedBy identity.fingerprint identity.serial = true →
        ∃ cert, presentedCertificate env http = some cert ∧
          row.mtlsCertFingerprint = some (env.sha256Hex cert.raw) := by
      intro presentedBy
      have answered := validateMTLSDevice_any foundRow usable presentedBy tenant fingerprint
      obtain ⟨-, boundRow, cert, foundBound, -, presented, registered⟩ :=
        bound (fun _ => { now := now, devices := .front fun entry => entry.1 = id }) rfl
          ⟨tenantHeader http, id, extractCN identity.subject⟩
          (by rw [deviceMTLSAuth_eval found tenant, answered]; rfl)
      rw [foundRow] at foundBound
      cases foundBound
      exact ⟨cert, presented, registered⟩
    cases presented : presentedCertificate env http with
    | none =>
      grind
    | some cert =>
      intro serial same
      obtain ⟨other, isCert, registered⟩ := passes (by simp [Device.presentedBy, serial, same])
      grind
  · intro tells choices clock context passed
    obtain ⟨identity, found, tenant, answered, sameOrg⟩ := deviceMTLSAuth_some passed
    obtain ⟨row, foundRow, usable, presentedBy⟩ := validateMTLSDevice_ok answered
    rw [clock] at usable
    obtain ⟨cert, presented, registered⟩ := serialsTell_bound hashed found
      (tells identity found tenant) foundRow usable presentedBy
    exact ⟨sameOrg, row, cert, foundRow, usable, presented, registered⟩

def registeredLaptop : World where
  organizations := ∅
  devices := .ofRows
    [("row-1",
      { orgID := "acme"
        deviceID := "laptop-7"
        mtlsCertSerial := some "17"
        mtlsCertFingerprint := some "ab"
        mtlsCertNotAfter := some 100 })]
  directory := .empty

def twoIssuers : Env where
  sees := fun _ => true
  sha256Hex := fun bytes => if bytes = [7] then "ab" else "cd"
  parseLeaf := fun _ => none
  pathUnescape := some
  lower := GoStrings.toLower
  jwtSecret := "secret"
  kerberosConfigured := false
  grants := none

/-- A request with a certificate that has the serial number 17. -/
def withCertificate (raw : List UInt8) (commonName : String) : Http where
  peerCertificates := [⟨raw, "CN=" ++ commonName ++ ",O=acme", commonName, ["acme"], "17", 100⟩]
  header := fun name => if name = "X-Tenant-ID" then "acme" else ""

theorem laptop_bound :
    BoundToCertificate twoIssuers registeredLaptop 0 (withCertificate [7] "laptop-7")
      ⟨"acme", "row-1", "laptop-7"⟩ := by
  have hashed : ∀ bytes, twoIssuers.sha256Hex bytes ≠ "" := by
    intro bytes
    simp [twoIssuers]
    split_ifs <;> decide
  refine (device_request_bound_iff twoIssuers hashed registeredLaptop 0
    (withCertificate [7] "laptop-7")).mpr ?_ (fun _ => {}) rfl _ (by rfl)
  intro identity found tenant id row foundRow usable serial same
  rw [lookup_eq_some_iff] at foundRow
  have only : registeredLaptop.devices.rows.entries = [⟨"row-1", _⟩] := rfl
  rw [only, mem_singleton] at foundRow
  cases foundRow
  rfl

/-- Another issuer's certificate with the same serial number, for another name. -/
theorem stranger_passes :
    ((deviceMTLSAuth twoIssuers (withCertificate [9] "kiosk")).eval (exec twoIssuers) (fun _ => {})
        registeredLaptop).1 = some ⟨"acme", "row-1", "kiosk"⟩ ∧
      ¬ BoundToCertificate twoIssuers registeredLaptop 0 (withCertificate [9] "kiosk")
        ⟨"acme", "row-1", "kiosk"⟩ := by
  refine ⟨rfl, ?_⟩
  rintro ⟨-, row, cert, found, -, presented, registered⟩
  cases found
  cases presented
  exact absurd registered (by decide)

end ManagementPlane.Devices
