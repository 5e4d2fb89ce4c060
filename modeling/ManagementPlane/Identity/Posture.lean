import ManagementPlane.Lib.Jwt

/-!
# Device posture

What `ExchangeToken` of `internal/identity/broker.go` makes of a validated token: the posture of
the device is copied field by field into the identity, which is then scored and judged. A
compromised device is scored and judged, but `jail_broken` is not among the copied fields.

Only fields that are scored or judged are modelled. An exchange does not fill the domains of
location and data.
-/

namespace ManagementPlane.Identity

open GoJson Jwt

structure DeviceDomain where
  deviceID : String := ""
  managed : Bool := false
  compliant : Bool := false
  diskEncrypted : Bool := false
  firewallActive : Bool := false
  antivirusOK : Bool := false
  jailBroken : Bool := false

structure UnifiedIdentity where
  mfaVerified : Bool
  riskLevel : String := ""
  device : DeviceDomain := {}
  torDetected : Bool := false
  proxyDetected : Bool := false
  trustedNet : Bool := false
  businessHours : Bool
  dlpTriggered : Bool := false

def copyBool (posture : MapClaims) (key : String) (old : Bool) : Bool :=
  match posture key with
  | some (.bool v) => v
  | _ => old

def enrichDevicePosture (device : DeviceDomain) (posture : MapClaims) : DeviceDomain :=
  { device with
    deviceID := ((posture "device_id").bind Json.asString).getD device.deviceID
    managed := copyBool posture "managed" device.managed
    compliant := copyBool posture "compliant" device.compliant
    diskEncrypted := copyBool posture "disk_encrypted" device.diskEncrypted
    firewallActive := copyBool posture "firewall_active" device.firewallActive
    antivirusOK := copyBool posture "antivirus_ok" device.antivirusOK }

section
variable (id : UnifiedIdentity)

/-- The score before it is cut to 100. -/
def riskPoints : Nat :=
  (if id.mfaVerified then 0 else 25) +
  (if id.riskLevel = "high" then 30 else if id.riskLevel = "critical" then 50 else 0) +
  (if id.device.managed then 0 else 15) + (if id.device.compliant then 0 else 10) +
  (if id.device.diskEncrypted then 0 else 10) + (if id.device.firewallActive then 0 else 5) +
  (if id.device.antivirusOK then 0 else 10) + (if id.device.jailBroken then 40 else 0) +
  (if id.torDetected then 40 else 0) + (if id.proxyDetected then 15 else 0) +
  (if id.trustedNet then 0 else 5) + (if id.businessHours then 0 else 5) +
  (if id.dlpTriggered then 20 else 0)

def computeRiskScore : Nat := if 100 < riskPoints id then 100 else riskPoints id

def assessCompliance : String :=
  if id.device.jailBroken || id.torDetected then "non_compliant"
  else if !id.mfaVerified then "non_compliant"
  else if id.device.managed && id.device.compliant && id.device.diskEncrypted &&
      id.device.firewallActive && id.device.antivirusOK then "compliant"
  else if id.device.deviceID ≠ "" then "non_compliant"
  else "unknown"

end

/-- The identity of the session; `sprint` is `fmt.Sprintf("%v")`. -/
def sessionIdentity (sprint : Json → String) (claims : MapClaims) (businessHours : Bool)
    (posture : MapClaims) : UnifiedIdentity where
  mfaVerified :=
    match claims "amr" with
    | some (.arr items) => items.any fun m => sprint m = "mfa"
    | _ => false
  device := enrichDevicePosture {} posture
  businessHours := businessHours

/-- The boolean fields that are scored or judged, under their names in a posture. -/
def readFields : List (String × (DeviceDomain → Bool)) :=
  [("managed", (·.managed)), ("compliant", (·.compliant)), ("disk_encrypted", (·.diskEncrypted)),
    ("firewall_active", (·.firewallActive)), ("antivirus_ok", (·.antivirusOK)),
    ("jail_broken", (·.jailBroken))]

structure Honoured (session : MapClaims → UnifiedIdentity) (posture : MapClaims) : Prop where
  compromised : posture "jail_broken" = some (.bool true) →
    assessCompliance (session posture) = "non_compliant" ∧
    computeRiskScore (session posture) =
      min 100 (40 + riskPoints (session (posture.set "jail_broken" (.bool false))))
  reported : ∀ field ∈ readFields, ∀ v, posture field.1 = some (.bool v) →
    field.2 (session posture).device = v

/-- A posture is honoured exactly when it does not report a compromised device. -/
theorem posture_honoured_iff (sprint : Json → String) (claims : MapClaims) (businessHours : Bool)
    (posture : MapClaims) : Honoured (sessionIdentity sprint claims businessHours) posture ↔
      posture "jail_broken" ≠ some (.bool true) := by
  constructor
  · intro honoured jailBroken
    have copied := honoured.reported ("jail_broken", (·.jailBroken)) (by simp [readFields]) true
      jailBroken
    cases copied
  · intro intact
    refine ⟨fun jailBroken => absurd jailBroken intact, ?_⟩
    intro field member v reported
    have copied : ∀ key, posture key = some (.bool v) → copyBool posture key false = v := by
      intro key found
      rw [copyBool, found]
    simp [readFields] at member
    rcases member with rfl | rfl | rfl | rfl | rfl | rfl
    iterate 5 exact copied _ reported
    cases v with
    | true => exact absurd reported intact
    | false => rfl

def jailBrokenPhone : MapClaims :=
  .ofList [("jail_broken", .bool true), ("managed", .bool true), ("compliant", .bool true),
    ("disk_encrypted", .bool true), ("firewall_active", .bool true), ("antivirus_ok", .bool true)]

theorem jailBroken_compliant :
    let id := sessionIdentity (fun _ => "mfa") (.ofList [("amr", .arr [.str "mfa"])]) true
      jailBrokenPhone
    jailBrokenPhone "jail_broken" = some (.bool true) ∧ assessCompliance id = "compliant" ∧
      computeRiskScore id = 5 := by
  refine ⟨rfl, ?_, ?_⟩
  all_goals decide +kernel

end ManagementPlane.Identity
