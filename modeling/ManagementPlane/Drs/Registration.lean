import ManagementPlane.Directory.Store
import ManagementPlane.Lib.Encoding

/-!
# The device registration service

The device directory and the handlers of `internal/drs` under `/drs/v1`, over the table
`device_directory` of `048_oidc_provider_drs.sql`. An organization has a device id once, and the
table carries the constraint.

A handler reads a row, changes it and writes most of its columns back in a second statement, and
nothing holds the row in between. `exec` performs one statement, one reading of the clock or one
draw of the codes; a choice says whether it fails and what the clock, the id generator and the
random source deliver.
-/

namespace ManagementPlane.Drs

open GoEncoding Interleave Tables
open Directory (tooLong uniqueViolation)
open Policy (Time minute unix)

inductive JoinStatus where
  | pending
  | active
  | disabled
  | deleted
  deriving DecidableEq

inductive JoinType where
  | entraJoined
  | hybridJoined
  | registered
  deriving DecidableEq

def JoinType.text : JoinType → String
  | .entraJoined => "entra_joined"
  | .hybridJoined => "hybrid_joined"
  | .registered => "registered"

structure Posture where
  managed : Bool := false
  compliant : Bool := false
  diskEncrypted : Bool := false
  firewallActive : Bool := false

/-- The columns of a device but its id, as `GetDevice` reads them. -/
structure DeviceRow where
  orgID : String
  deviceID : String
  displayName : String
  operatingSystem : String
  osVersion : String := ""
  joinType : JoinType := .registered
  joinStatus : JoinStatus := .pending
  certSubject : String := ""
  certSerial : String := ""
  certFingerprintSHA256 : String := ""
  certIssuer : String := ""
  tenantID : String := ""
  posture : Posture := {}
  lastPostureCheck : Option Time := none
  updatedAt : Time := 0
  lastSeen : Option Time := none

structure DeviceDirectory extends DeviceRow where
  id : String

/-- `UNIQUE (org_id, device_id)` -/
structure DeviceTable where
  rows : Table String DeviceRow
  devices : ∀ first second row other, rows.lookup first = some row →
    rows.lookup second = some other → row.orgID = other.orgID → row.deviceID = other.deviceID →
    first = second

namespace DeviceTable

def empty : DeviceTable where
  rows := ∅
  devices := by
    intro first second row other found
    cases found

variable (s : DeviceTable)

def find (orgID deviceID : String) : Option (String × DeviceRow) :=
  findRow (fun row => row.orgID = orgID ∧ row.deviceID = deviceID) s.rows

theorem find_some {orgID deviceID id : String} {row : DeviceRow}
    (found : s.find orgID deviceID = some (id, row)) :
    s.rows.lookup id = some row ∧ row.orgID = orgID ∧ row.deviceID = deviceID := by
  obtain ⟨present, holds⟩ := findRow_some found
  exact ⟨present, of_decide_eq_true holds⟩

def add (id : String) (row : DeviceRow) (absent : s.find row.orgID row.deviceID = none) :
    DeviceTable where
  rows := s.rows.insert id row
  devices := by
    intro first second a b foundA foundB sameOrg sameID
    exact unique_insert (R := fun x y => x.orgID = y.orgID ∧ x.deviceID = y.deviceID)
      (fun _ _ same => ⟨same.1.symm, same.2.symm⟩)
      (fun _ _ _ _ found other same => s.devices _ _ _ _ found other same.1 same.2)
      (fun other found _ present =>
        of_decide_eq_false ((findRow_eq_none_iff _ _).mp absent other found present))
      first second a b foundA foundB ⟨sameOrg, sameID⟩

/-- `UPDATE … WHERE id = $1`, of columns that are not part of a key. -/
def amend (id : String) (f : DeviceRow → DeviceRow)
    (keeps : ∀ row, (f row).orgID = row.orgID ∧ (f row).deviceID = row.deviceID) :
    DeviceTable where
  rows := updateRow id f s.rows
  devices := by
    intro first second row other found foundOther sameOrg sameID
    exact unique_updateRow (R := fun x y => x.orgID = y.orgID ∧ x.deviceID = y.deviceID)
      (fun _ _ same => ⟨same.1.symm, same.2.symm⟩)
      (fun x _ same => ⟨(keeps x).1.symm.trans same.1, (keeps x).2.symm.trans same.2⟩)
      (fun _ _ _ _ found other same => s.devices _ _ _ _ found other same.1 same.2)
      first second row other found foundOther ⟨sameOrg, sameID⟩

end DeviceTable

/-- The row that `CreateDevice` inserts: the columns that it names, and the defaults. -/
def DeviceRow.inserted (dev : DeviceRow) (now : Time) : DeviceRow where
  orgID := dev.orgID
  deviceID := dev.deviceID
  displayName := dev.displayName
  operatingSystem := dev.operatingSystem
  osVersion := dev.osVersion
  joinType := dev.joinType
  joinStatus := dev.joinStatus
  tenantID := dev.tenantID
  updatedAt := now

/-- The `SET` of `UpdateDevice`. -/
def DeviceRow.overwritten (row : DeviceRow) (dev : DeviceDirectory) (now : Time) : DeviceRow :=
  { row with
    joinStatus := dev.joinStatus
    certSubject := dev.certSubject
    certSerial := dev.certSerial
    certFingerprintSHA256 := dev.certFingerprintSHA256
    certIssuer := dev.certIssuer
    posture := dev.posture
    updatedAt := now
    lastSeen := some now }

namespace DeviceTable

variable (s : DeviceTable) (now : Time)

def createDevice (newID : String) (dev : DeviceRow) : Except String (String × DeviceTable) :=
  if 64 < dev.orgID.length ∨ 255 < dev.deviceID.length ∨ 255 < dev.displayName.length ∨
      64 < dev.operatingSystem.length ∨ 64 < dev.osVersion.length ∨ 64 < dev.tenantID.length then
    .error tooLong
  else if (s.rows.lookup newID).isSome then .error uniqueViolation
  else if absent : s.find dev.orgID dev.deviceID = none then
    .ok (newID, s.add newID (dev.inserted now) absent)
  else .error uniqueViolation

def getDevice (orgID deviceID : String) : Except String DeviceDirectory :=
  match s.find orgID deviceID with
  | some (id, row) => .ok { row with id := id }
  | none => .error "device not found"

def updateDevice (dev : DeviceDirectory) : Except String DeviceTable :=
  if 512 < dev.certSubject.length ∨ 128 < dev.certSerial.length ∨
      128 < dev.certFingerprintSHA256.length ∨ 256 < dev.certIssuer.length then
    .error tooLong
  else .ok (s.amend dev.id (fun row => row.overwritten dev now) fun _ => ⟨rfl, rfl⟩)

/-- `UPDATE … WHERE org_id = $5 AND device_id = $6` -/
def updateDevicePosture (orgID deviceID : String) (posture : Posture) : DeviceTable :=
  match s.find orgID deviceID with
  | none => s
  | some (id, _) =>
    s.amend id
      (fun row =>
        { row with posture := posture, lastPostureCheck := some now, updatedAt := now })
      fun _ => ⟨rfl, rfl⟩

end DeviceTable

structure Choice where
  failure : Option String := none
  now : Time := 0
  newID : String := ""
  random : Nat → UInt8 := fun _ => 0

def randomBytes (choice : Choice) (start count : Nat) : List UInt8 :=
  (List.range count).map fun i => choice.random (start + i)

def generateCodes (choice : Choice) : String × String :=
  (encodeToString (randomBytes choice 0 32),
    String.ofList (upperHex (randomBytes choice 32 2) ++ '-' :: upperHex (randomBytes choice 34 2)))

inductive Op where
  | generateCodes
  | timeNow
  | createDevice (dev : DeviceRow)
  | getDevice (orgID deviceID : String)
  | updateDevice (dev : DeviceDirectory)
  | updateDevicePosture (orgID deviceID : String) (posture : Posture)

abbrev Op.Ans : Op → Type
  | .generateCodes => Except String (String × String)
  | .timeNow => Time
  | .createDevice _ => Except String String
  | .getDevice _ _ => Except String DeviceDirectory
  | .updateDevice _ => Except String Unit
  | .updateDevicePosture _ _ _ => Except String Unit

def attempt {α : Type} (choice : Choice) (result : Except String α) : Except String α :=
  match choice.failure with
  | some err => .error err
  | none => result

def exec (choice : Choice) (s : DeviceTable) : (op : Op) → op.Ans × DeviceTable
  | .generateCodes => (attempt choice (.ok (Drs.generateCodes choice)), s)
  | .timeNow => (choice.now, s)
  | .createDevice dev =>
    match attempt choice (s.createDevice choice.now choice.newID dev) with
    | .error err => (.error err, s)
    | .ok (id, after) => (.ok id, after)
  | .getDevice orgID deviceID => (attempt choice (s.getDevice orgID deviceID), s)
  | .updateDevice dev =>
    match attempt choice (s.updateDevice choice.now dev) with
    | .error err => (.error err, s)
    | .ok after => (.ok (), after)
  | .updateDevicePosture orgID deviceID posture =>
    match attempt choice (.ok (s.updateDevicePosture choice.now orgID deviceID posture)) with
    | .error err => (.error err, s)
    | .ok after => (.ok (), after)

theorem attempt_ok {α : Type} {choice : Choice} {result : Except String α} {a : α}
    (answered : attempt choice result = .ok a) : result = .ok a := by
  unfold attempt at answered
  split at answered
  · cases answered
  · exact answered

abbrev Handled := Prog Op Op.Ans

abbrev drawCodes : Handled (Except String (String × String)) := perform Op.generateCodes

abbrev timeNow : Handled Time := perform Op.timeNow

abbrev createDevice (dev : DeviceRow) : Handled (Except String String) :=
  perform (Op.createDevice dev)

abbrev getDevice (orgID deviceID : String) : Handled (Except String DeviceDirectory) :=
  perform (Op.getDevice orgID deviceID)

abbrev updateDevice (dev : DeviceDirectory) : Handled (Except String Unit) :=
  perform (Op.updateDevice dev)

abbrev updateDevicePosture (orgID deviceID : String) (posture : Posture) :
    Handled (Except String Unit) :=
  perform (Op.updateDevicePosture orgID deviceID posture)

structure Service where
  caURL : String := ""
  caFP : String := ""
  oidcISS : String := ""
  sha256 : List UInt8 → List UInt8 := id
  formatRFC3339 : Time → String := fun _ => ""

structure RegisterRequest where
  deviceName : String := ""
  operatingSystem : String := ""
  osVersion : String := ""
  csrPEM : String := ""

structure RegisterResponse where
  deviceCode : String
  userCode : String
  verificationURI : String
  interval : Int
  expiresIn : Int

structure PollResponse where
  status : String
  deviceID : String
  token : String
  caURL : String
  caFingerprint : String

structure CompleteResponse where
  deviceJWT : String
  expiresAt : String
  deviceID : String

namespace Service

variable (svc : Service)

def register (orgID : String) (req : RegisterRequest) :
    Handled (Except String RegisterResponse) :=
  if req.deviceName = "" ∨ req.operatingSystem = "" ∨ req.csrPEM = "" then
    pure (.error "device_name, os_type, and csr_pem are required")
  else do
    match ← drawCodes with
    | .error err => pure (.error ("failed to generate codes: " ++ err))
    | .ok (deviceCode, userCode) =>
      match ← createDevice
        { orgID := orgID
          deviceID := userCode
          displayName := req.deviceName
          operatingSystem := req.operatingSystem
          osVersion := req.osVersion
          joinType := .registered
          joinStatus := .pending
          tenantID := orgID } with
      | .error err => pure (.error ("failed to create device: " ++ err))
      | .ok _ =>
        pure (.ok
          { deviceCode := deviceCode
            userCode := userCode
            verificationURI := svc.oidcISS ++ "/device?user_code=" ++ userCode
            interval := 5
            expiresIn := 900 })

def generateDeviceJWT (dev : DeviceDirectory) (now : Time) : String :=
  let encode := fun text : String => encodeToString text.toUTF8.data.toList
  let h := encode "\x7b\"alg\":\"HS256\",\"typ\":\"JWT\"\x7d"
  let p := encode
    ("\x7b\"sub\":\"" ++ dev.deviceID ++ "\",\"iss\":\"" ++ svc.oidcISS ++ "\",\"device_id\":\"" ++
      dev.id ++ "\",\"org_id\":\"" ++ dev.orgID ++ "\",\"join_type\":\"" ++ dev.joinType.text ++
      "\",\"iat\":" ++ toString (unix now) ++ ",\"exp\":" ++
      toString (unix (now + 15 * minute)) ++ "\x7d")
  h ++ "." ++ p ++ "." ++
    encodeToString ((svc.sha256 (h ++ "." ++ p ++ ".drs-secret").toUTF8.data.toList).take 32)

def completeFinalize (orgID deviceID certFingerprint certSerial : String) :
    Handled (Except String CompleteResponse) := do
  match ← getDevice orgID deviceID with
  | .error _ => pure (.error "device not found")
  | .ok dev =>
    let now ← timeNow
    let dev :=
      { dev with
        joinStatus := .active
        certFingerprintSHA256 := certFingerprint
        certSerial := certSerial
        certIssuer := "step-ca"
        updatedAt := now
        lastSeen := some now }
    match ← updateDevice dev with
    | .error err => pure (.error ("failed to update device: " ++ err))
    | .ok () =>
      let issued ← timeNow
      pure (.ok
        { deviceJWT := svc.generateDeviceJWT dev issued
          expiresAt := svc.formatRFC3339 (now + 15 * minute)
          deviceID := dev.id })

def renewCert (orgID deviceID : String) : Handled (Except String PollResponse) := do
  match ← getDevice orgID deviceID with
  | .error _ => pure (.error "device not found")
  | .ok dev =>
    if dev.joinStatus ≠ .active then pure (.error "device is not active")
    else
      match ← drawCodes with
      | .error err => pure (.error ("failed to generate renewal codes: " ++ err))
      | .ok (deviceCode, _) =>
        pure (.ok
          { status := "pending_renewal"
            deviceID := dev.id
            token := deviceCode
            caURL := svc.caURL
            caFingerprint := svc.caFP })

end Service

def deregister (orgID deviceID : String) : Handled (Except String Unit) := do
  match ← getDevice orgID deviceID with
  | .error _ => pure (.error "device not found")
  | .ok dev => updateDevice { dev with joinStatus := .deleted }

/-- The organization in the request context, and the header `X-Org-ID`. -/
structure Caller where
  contextOrg : String := ""
  orgHeader : String := ""

def Caller.orgID (c : Caller) : String := if c.contextOrg = "" then c.orgHeader else c.contextOrg

structure CompleteRequest where
  deviceCode : String := ""
  deviceID : String := ""
  certFingerprint : String := ""
  certSerial : String := ""

/-- A request and its body, where that binds. -/
inductive Request where
  | register (c : Caller) (body : Except String RegisterRequest)
  | complete (c : Caller) (body : Option CompleteRequest)
  | getDevice (c : Caller) (id : String)
  | updatePosture (c : Caller) (id : String) (body : Option Posture)
  | renewCert (c : Caller) (id : String)
  | deregister (c : Caller) (id : String)

inductive Reply where
  | error (status : Nat) (message : String)
  | registered (resp : RegisterResponse)
  | completed (resp : CompleteResponse)
  | device (dev : DeviceDirectory)
  | updated
  | renewal (resp : PollResponse)
  | deregistered

def handle (svc : Service) : Request → Handled Reply
  | .register c body =>
    if c.orgID = "" then pure (.error 400 "org_id is required")
    else
      match body with
      | .error err => pure (.error 400 ("invalid request: " ++ err))
      | .ok req => do
          match ← svc.register c.orgID req with
          | .error err => pure (.error 400 err)
          | .ok resp => pure (.registered resp)
  | .complete _ none => pure (.error 400 "invalid request")
  | .complete c (some req) =>
    if req.deviceID = "" ∨ req.certFingerprint = "" then
      pure (.error 400 "device_id and cert_fingerprint are required")
    else do
      match ← svc.completeFinalize c.orgID req.deviceID req.certFingerprint req.certSerial with
      | .error err => pure (.error 400 err)
      | .ok resp => pure (.completed resp)
  | .getDevice c id => do
      match ← getDevice c.orgID id with
      | .error _ => pure (.error 404 "device not found")
      | .ok dev => pure (.device dev)
  | .updatePosture _ _ none => pure (.error 400 "invalid request")
  | .updatePosture c id (some posture) => do
      match ← updateDevicePosture c.orgID id posture with
      | .error err => pure (.error 500 err)
      | .ok () => pure .updated
  | .renewCert c id => do
      match ← svc.renewCert c.orgID id with
      | .error err => pure (.error 400 err)
      | .ok resp => pure (.renewal resp)
  | .deregister c id => do
      match ← deregister c.orgID id with
      | .error err => pure (.error 400 err)
      | .ok () => pure .deregistered

end ManagementPlane.Drs
