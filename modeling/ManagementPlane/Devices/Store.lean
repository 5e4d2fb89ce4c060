import ManagementPlane.Directory.Store

/-!
# The device store

Devices that registered with a client certificate, the licences that they take up and the
statements of `internal/db/device_store.go` on them. A device id is registered once, in
whichever organization, and a certificate once in an organization; the table carries both
constraints.

Row level security lets a connection read and write the rows of some organizations only;
`sees` says which. A choice says whether an operation fails, at which statement of a
transaction, and what the clock, the id generator and the SPNEGO library deliver.
-/

namespace ManagementPlane.Devices

open GoStrings Interleave Jwt Tables Option
open Directory (foreignKeyViolation tooLong uniqueViolation)
open Policy (Time)

/-! ## Rows -/

inductive Status where
  | active
  | inactive
  | blocked
  | pending
  deriving DecidableEq

def Status.text : Status → String
  | .active => "active"
  | .inactive => "inactive"
  | .blocked => "blocked"
  | .pending => "pending"

inductive OSType where
  | windows
  | macos
  | linux
  | ios
  | android
  | chromeos
  deriving DecidableEq

/-- The constraint on `os_type`. -/
def OSType.check (text : String) : Except String OSType :=
  if text = "windows" then .ok .windows
  else if text = "macos" then .ok .macos
  else if text = "linux" then .ok .linux
  else if text = "ios" then .ok .ios
  else if text = "android" then .ok .android
  else if text = "chromeos" then .ok .chromeos
  else .error "failed to satisfy CHECK constraint (os_type)"

structure Device where
  orgID : String
  deviceID : String
  deviceName : Option String := none
  osType : Option OSType := none
  machineCertThumbprint : Option String := none
  mtlsCertSubject : Option String := none
  mtlsCertSerial : Option String := none
  mtlsCertFingerprint : Option String := none
  mtlsCertNotAfter : Option Time := none
  clientUserID : Option String := none
  lastSeen : Option Time := none
  status : Option Status := some .active
  createdAt : Option Time := none
  updatedAt : Option Time := none

def Device.active (row : Device) : Bool := row.status = some .active

def Device.activeIn (orgID : String) (row : Device) : Bool := row.orgID = orgID && row.active

/-- `idx_devices_mtls_cert_fingerprint` -/
def Device.sameCertificate (first second : Device) : Bool :=
  first.orgID = second.orgID && first.mtlsCertFingerprint.isSome &&
    first.mtlsCertFingerprint = second.mtlsCertFingerprint

structure DeviceTable where
  rows : Table String Device
  deviceIDs : ∀ id other row otherRow, rows.lookup id = some row →
    rows.lookup other = some otherRow → row.deviceID = otherRow.deviceID → id = other
  certificates : ∀ id other row otherRow, rows.lookup id = some row →
    rows.lookup other = some otherRow → row.sameCertificate otherRow = true → id = other

theorem Device.sameCertificate_symm {first second : Device}
    (same : first.sameCertificate second = true) : second.sameCertificate first = true := by
  simp [Device.sameCertificate] at same ⊢
  obtain ⟨⟨sameOrg, present⟩, sameFingerprint⟩ := same
  exact ⟨⟨sameOrg.symm, sameFingerprint ▸ present⟩, sameFingerprint.symm⟩

namespace DeviceTable

def empty : DeviceTable where
  rows := ∅
  deviceIDs := by
    intro id other row otherRow found
    cases found
  certificates := by
    intro id other row otherRow found
    cases found

variable (devices : DeviceTable)

/-- Another row has the device id or the certificate of the row. -/
def taken (id : String) (row : Device) : Bool :=
  devices.rows.entries.any fun entry => entry.1 ≠ id &&
    (entry.2.deviceID = row.deviceID || entry.2.sameCertificate row)

theorem taken_of_lookup (id other : String) (row otherRow : Device)
    (found : devices.rows.lookup other = some otherRow) (another : other ≠ id)
    (same : otherRow.deviceID = row.deviceID ∨ otherRow.sameCertificate row = true) :
    devices.taken id row = true := by
  rw [taken, List.any_eq_true]
  refine ⟨⟨other, otherRow⟩, lookup_eq_some_iff.mp found, ?_⟩
  rcases same with same | same
  all_goals simp [another, same]

/-- Write a row, unless another one has its device id or its certificate. -/
def put (id : String) (row : Device) : Except String DeviceTable :=
  if free : devices.taken id row = true then .error uniqueViolation
  else
    .ok
      { rows := devices.rows.insert id row
        deviceIDs := by
          intro first second firstRow secondRow foundFirst foundSecond same
          exact unique_insert (fun _ _ => Eq.symm) devices.deviceIDs
            (fun other found another present same => free
              (devices.taken_of_lookup id other row found present another (.inl same)))
            first second firstRow secondRow foundFirst foundSecond same
        certificates := by
          intro first second firstRow secondRow foundFirst foundSecond same
          exact unique_insert (fun _ _ => Device.sameCertificate_symm) devices.certificates
            (fun other found another present same => free
              (devices.taken_of_lookup id other row found present another (.inr same)))
            first second firstRow secondRow foundFirst foundSecond same }

theorem rows_put (id : String) (row : Device) (after : DeviceTable)
    (written : devices.put id row = .ok after) : after.rows = devices.rows.insert id row := by
  unfold put at written
  split_ifs at written
  cases written
  rfl

/-- A table with the given rows, as far as they can stand together. -/
def ofRows (rows : List (String × Device)) : DeviceTable :=
  rows.foldl (fun devices entry => (devices.put entry.1 entry.2).toOption.getD devices) .empty

/-- An `UPDATE` that leaves the columns of the constraints alone. -/
def modify (f : String → Device → Device)
    (same : ∀ id row, (f id row).orgID = row.orgID ∧ (f id row).deviceID = row.deviceID ∧
      (f id row).mtlsCertFingerprint = row.mtlsCertFingerprint) : DeviceTable where
  rows := updateAll (fun id row => some (f id row)) devices.rows
  deviceIDs := by
    intro first second firstRow secondRow foundFirst foundSecond sameID
    rw [lookup_updateAll, bind_eq_some_iff] at foundFirst foundSecond
    obtain ⟨before, foundBefore, firstEq⟩ := foundFirst
    obtain ⟨other, foundOther, secondEq⟩ := foundSecond
    cases firstEq
    cases secondEq
    apply devices.deviceIDs first second before other foundBefore foundOther
    rw [← (same first before).2.1, sameID, (same second other).2.1]
  certificates := by
    intro first second firstRow secondRow foundFirst foundSecond sameCert
    rw [lookup_updateAll, bind_eq_some_iff] at foundFirst foundSecond
    obtain ⟨before, foundBefore, firstEq⟩ := foundFirst
    obtain ⟨other, foundOther, secondEq⟩ := foundSecond
    cases firstEq
    cases secondEq
    apply devices.certificates first second before other foundBefore foundOther
    simpa [Device.sameCertificate, (same first before).1, (same second other).1,
      (same first before).2.2, (same second other).2.2] using sameCert

def activeCount (orgID : String) : Nat := rowCount (Device.activeIn orgID) devices.rows

end DeviceTable

/-- An organization keeps `check_licenses_consumed`, which a missing number does not break. -/
structure Organization where
  subscriptionLicenses : Option Int
  licensesConsumed : Option Int
  nonnegative : ∀ consumed ∈ licensesConsumed, 0 ≤ consumed
  bounded : ∀ consumed ∈ licensesConsumed, ∀ licenses ∈ subscriptionLicenses, consumed ≤ licenses

/-- `COALESCE(subscription_licenses, 0)` -/
def Organization.licenses (org : Organization) : Int := org.subscriptionLicenses.getD 0

def Organization.unused (licenses : Nat) : Organization where
  subscriptionLicenses := some licenses
  licensesConsumed := some 0
  nonnegative := by
    intro consumed member
    cases member
    exact le_refl 0
  bounded := by
    intro consumed member licenses' member'
    cases member
    cases member'
    exact Int.natCast_nonneg licenses

def Organization.consume (org : Organization) (count : Nat) : Except String Organization :=
  if fits : ∀ licenses ∈ org.subscriptionLicenses, (count : Int) ≤ licenses then
    .ok
      { subscriptionLicenses := org.subscriptionLicenses
        licensesConsumed := some count
        nonnegative := by
          intro consumed member
          cases member
          exact Int.natCast_nonneg count
        bounded := by
          intro consumed member licenses member'
          cases member
          exact fits licenses member' }
  else .error "failed to satisfy CHECK constraint (check_licenses_consumed)"

structure World where
  organizations : Table String Organization
  devices : DeviceTable
  directory : Directory.World

structure DeviceRegistration where
  id : String := ""
  orgID : String
  deviceID : String
  deviceName : String
  osType : String
  certSubject : String
  certSerial : String
  certFingerprintSHA256 : String
  certNotAfter : Time
  clientUserID : String := ""

inductive RegisterError where
  | licenseLimitReached
  | failed (message : String)

/-- The statements of a registration, each of which may fail. -/
inductive TxStep where
  | begin
  | check
  | register
  | refresh
  | commit

structure KerberosIdentity where
  username : String
  realm : String
  principal : String

structure Choice where
  failure : Option String := none
  fault : TxStep → Option String := fun _ => none
  now : Time := 0
  newID : String := ""
  jwtID : String := ""
  devices : MapOrder (String × Device) := .asStored
  users : MapOrder (String × Directory.ConnectorUser) := .asStored
  ticket : Except String KerberosIdentity := .error "kerberos: spnego validation failed"

def attempt {α : Type} (choice : Choice) (result : Except String α) : Except String α :=
  match choice.failure with
  | some err => .error err
  | none => result

def nilIfEmptyString (value : String) : Option String :=
  if trimSpace value = "" then none else some value

/-- The limits of the `VARCHAR` columns that a registration writes. -/
def DeviceRegistration.overlong (reg : DeviceRegistration) : Bool :=
  255 < reg.deviceID.length || 255 < reg.deviceName.length || 30 < reg.osType.length ||
    64 < reg.certFingerprintSHA256.length

/-- The row of the `INSERT`, when it meets the constraints on its columns. -/
def DeviceRegistration.proposed (reg : DeviceRegistration) (now : Time) (world : World) :
    Except String Device :=
  if reg.overlong then .error tooLong
  else
    match OSType.check reg.osType with
    | .error err => .error err
    | .ok osType =>
      if (nilIfEmptyString reg.clientUserID).any fun id =>
          (world.directory.clientUsers.rows.lookup id).isNone then
        .error foreignKeyViolation
      else
        .ok
          { orgID := reg.orgID
            deviceID := reg.deviceID
            deviceName := some reg.deviceName
            osType := some osType
            machineCertThumbprint := some reg.certFingerprintSHA256
            mtlsCertSubject := some reg.certSubject
            mtlsCertSerial := some reg.certSerial
            mtlsCertFingerprint := some reg.certFingerprintSHA256
            mtlsCertNotAfter := some reg.certNotAfter
            clientUserID := nilIfEmptyString reg.clientUserID
            lastSeen := some now
            status := some .active
            createdAt := some now
            updatedAt := some now }

/-- The `DO UPDATE SET` of a registration. -/
def Device.renew (row excluded : Device) (now : Time) : Device :=
  { row with
    deviceName := excluded.deviceName
    osType := excluded.osType
    machineCertThumbprint := excluded.machineCertThumbprint
    mtlsCertSubject := excluded.mtlsCertSubject
    mtlsCertSerial := excluded.mtlsCertSerial
    mtlsCertFingerprint := excluded.mtlsCertFingerprint
    mtlsCertNotAfter := excluded.mtlsCertNotAfter
    clientUserID := excluded.clientUserID <|> row.clientUserID
    lastSeen := some now
    status := some .active
    updatedAt := some now }

/-- `INSERT INTO system_mgmt.devices … ON CONFLICT (device_id) DO UPDATE … RETURNING id` -/
def DeviceTable.upsert (devices : DeviceTable) (sees : String → Bool) (now : Time) (newID : String)
    (excluded : Device) : Except String (String × DeviceTable) :=
  match findRow (fun row => row.deviceID = excluded.deviceID) devices.rows with
  | some (id, row) =>
    if sees row.orgID then
      (devices.put id (row.renew excluded now)).map fun after => (id, after)
    else .error "new row violates row-level security policy for table devices"
  | none =>
    if (devices.rows.lookup newID).isSome then .error uniqueViolation
    else (devices.put newID excluded).map fun after => (newID, after)

def World.organization (world : World) (sees : String → Bool) (orgID : String) :
    Option Organization :=
  if sees orgID then world.organizations.lookup orgID else none

/-- `EXISTS (SELECT 1 … WHERE d.org_id = org.id AND d.device_id = $2 AND d.status = 'active')` -/
def DeviceTable.existingActive (devices : DeviceTable) (orgID deviceID : String) : Bool :=
  devices.rows.entries.any fun entry => entry.2.activeIn orgID && entry.2.deviceID = deviceID

/-- A statement of the transaction fails, or what it computes counts. -/
def Choice.during {α : Type} (choice : Choice) (step : TxStep) (context : String)
    (result : Except String α) : Except RegisterError α :=
  match choice.fault step with
  | some err => .error (.failed (context ++ err))
  | none => result.mapError fun err => .failed (context ++ err)

/-- `UPDATE system_mgmt.organizations SET licenses_consumed = …` -/
def World.refreshed (world : World) (orgID : String) (org : Organization) (devices : DeviceTable) :
    Except String World :=
  (org.consume (devices.activeCount orgID)).map fun org =>
    { world with
      organizations := world.organizations.insert orgID org
      devices := devices }

/-- The transaction of `RegisterMTLSDevice`, with the tables that it commits. -/
def registration (sees : String → Bool) (choice : Choice) (world : World)
    (reg : DeviceRegistration) : Except RegisterError (DeviceRegistration × World) :=
  if reg.orgID = "" ∨ reg.deviceID = "" ∨ reg.certFingerprintSHA256 = "" then
    .error (.failed "org_id, device_id, and certificate fingerprint are required")
  else do
    choice.during .begin "begin device registration: " (.ok ())
    choice.during .check "check device license availability: " (.ok ())
    match world.organization sees reg.orgID with
    | none => .error (.failed "organization not found")
    | some org =>
      if world.devices.existingActive reg.orgID reg.deviceID = false ∧
          org.licenses ≤ world.devices.activeCount reg.orgID then
        .error .licenseLimitReached
      else do
        let (id, devices) ← choice.during .register "register mtls device: " do
          let excluded ← reg.proposed choice.now world
          world.devices.upsert sees choice.now choice.newID excluded
        let after ← choice.during .refresh "refresh license consumption: "
          (world.refreshed reg.orgID org devices)
        choice.during .commit "commit device registration: " (.ok ())
        return ({ reg with id := id }, after)

def registerMTLSDevice (sees : String → Bool) (choice : Choice) (world : World)
    (reg : DeviceRegistration) : Except RegisterError DeviceRegistration × World :=
  match registration sees choice world reg with
  | .error err => (.error err, world)
  | .ok (registered, after) => (.ok registered, after)

theorem proposed_ok {reg : DeviceRegistration} {now : Time} {world : World} {excluded : Device}
    (proposed : reg.proposed now world = .ok excluded) :
    excluded.orgID = reg.orgID ∧ excluded.deviceID = reg.deviceID ∧
      excluded.status = some .active := by
  unfold DeviceRegistration.proposed at proposed
  cases checked : OSType.check reg.osType with
  | error err =>
    simp [checked] at proposed
    split_ifs at proposed
  | ok osType =>
    simp [checked] at proposed
    split_ifs at proposed
    cases proposed
    exact ⟨rfl, rfl, rfl⟩

/-- The row that a registration writes at a key: a new one, or the one that has the device id
already, in whichever organization it is. -/
def Upserted (devices : DeviceTable) (sees : String → Bool) (now : Time) (excluded : Device)
    (id : String) (row : Device) : Prop :=
  (devices.rows.lookup id = none ∧ row = excluded ∧
      ∀ other otherRow, devices.rows.lookup other = some otherRow →
        otherRow.deviceID ≠ excluded.deviceID) ∨
    ∃ old, devices.rows.lookup id = some old ∧ old.deviceID = excluded.deviceID ∧
      sees old.orgID = true ∧ row = old.renew excluded now

theorem upsert_ok {devices after : DeviceTable} {sees : String → Bool} {now : Time}
    {newID id : String} {excluded : Device}
    (written : devices.upsert sees now newID excluded = .ok (id, after)) :
    ∃ row, after.rows = devices.rows.insert id row ∧
      Upserted devices sees now excluded id row := by
  unfold DeviceTable.upsert at written
  split at written
  · rename_i oldID old found
    obtain ⟨foundOld, sameID⟩ := findRow_some found
    split_ifs at written with visible
    obtain ⟨table, stored, ⟨⟩⟩ := map_ok written
    exact ⟨_, devices.rows_put _ _ _ stored,
      .inr ⟨old, foundOld, of_decide_eq_true sameID, visible, rfl⟩⟩
  · rename_i unknown
    split_ifs at written with used
    obtain ⟨table, stored, ⟨⟩⟩ := map_ok written
    refine ⟨_, devices.rows_put _ _ _ stored, .inl ⟨not_isSome_iff_eq_none.mp used, rfl, ?_⟩⟩
    intro other otherRow foundOther sameID
    exact of_decide_eq_false ((findRow_eq_none_iff ..).mp unknown other otherRow foundOther) sameID

theorem during_ok {α : Type} {choice : Choice} {step : TxStep} {context : String}
    {result : Except String α} {a : α} (ran : choice.during step context result = .ok a) :
    result = .ok a := by
  unfold Choice.during at ran
  split at ran
  · cases ran
  · exact mapError_ok ran

/-- A registration that commits: the checks that it passed and what it wrote. -/
structure Registered (sees : String → Bool) (choice : Choice) (world : World)
    (reg registered : DeviceRegistration) (after : World) where
  org : Organization
  excluded : Device
  row : Device
  devices : DeviceTable
  refreshed : Organization
  found : world.organization sees reg.orgID = some org
  licensed : world.devices.existingActive reg.orgID reg.deviceID = true ∨
    (world.devices.activeCount reg.orgID : Int) < org.licenses
  proposed : reg.proposed choice.now world = .ok excluded
  rows : devices.rows = world.devices.rows.insert registered.id row
  upserted : Upserted world.devices sees choice.now excluded registered.id row
  consumed : org.consume (devices.activeCount reg.orgID) = .ok refreshed
  isAfter : after =
    { world with
      organizations := world.organizations.insert reg.orgID refreshed
      devices := devices }

theorem registration_ok {sees : String → Bool} {choice : Choice} {world after : World}
    {reg registered : DeviceRegistration}
    (committed : registration sees choice world reg = .ok (registered, after)) :
    Nonempty (Registered sees choice world reg registered after) := by
  unfold registration at committed
  split_ifs at committed
  obtain ⟨_, -, committed⟩ := bind_ok committed
  obtain ⟨_, -, committed⟩ := bind_ok committed
  cases found : world.organization sees reg.orgID with
  | none =>
    rw [found] at committed
    cases committed
  | some org =>
    simp [found] at committed
    split_ifs at committed with full
    obtain ⟨⟨id, devices⟩, written, committed⟩ := bind_ok committed
    obtain ⟨now, consumed, committed⟩ := bind_ok committed
    obtain ⟨_, -, ⟨⟩⟩ := bind_ok committed
    obtain ⟨excluded, proposed, written⟩ := bind_ok (during_ok written)
    obtain ⟨row, rows, upserted⟩ := upsert_ok written
    obtain ⟨refreshed, consumed, isAfter⟩ := map_ok (during_ok consumed)
    have licensed : world.devices.existingActive reg.orgID reg.deviceID = true ∨
        (world.devices.activeCount reg.orgID : Int) < org.licenses := by
      cases known : world.devices.existingActive reg.orgID reg.deviceID with
      | true => exact .inl rfl
      | false => exact .inr (not_le.mp fun short => full ⟨known, short⟩)
    exact ⟨⟨org, excluded, row, devices, refreshed, found, licensed, proposed, rows, upserted,
      consumed, isAfter.symm⟩⟩

end ManagementPlane.Devices
