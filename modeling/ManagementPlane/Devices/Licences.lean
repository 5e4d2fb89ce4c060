import ManagementPlane.Devices.Store

/-!
# Licences

A registration counts the active devices of its own organization and refreshes that
organization's `licenses_consumed`, but its `INSERT` conflicts on a device id that may be
registered in another organization, whose row is then rewritten and activated. As long as
every registration is for a device id of its own organization, the licences bound the active
devices of every organization and no registration touches a row of another one.
-/

namespace ManagementPlane.Devices

open Runs Tables

def register (sees : String → Bool) (world : World) (request : Choice × DeviceRegistration) : World :=
  (registerMTLSDevice sees request.1 world request.2).2

structure WithinLicences (world : World) : Prop where
  bounded : ∀ orgID org, world.organizations.lookup orgID = some org →
    (world.devices.activeCount orgID : Int) ≤ org.licenses
  consumed : ∀ orgID org, world.organizations.lookup orgID = some org →
    org.licensesConsumed = some (world.devices.activeCount orgID : Int)

/-- The device id is not registered in another organization that the connection sees. -/
def OwnDevice (sees : String → Bool) (world : World) (reg : DeviceRegistration) : Prop :=
  ∀ id row, world.devices.rows.lookup id = some row → row.deviceID = reg.deviceID →
    sees row.orgID = true → row.orgID = reg.orgID

def KeepsOthers (orgID : String) (before after : World) : Prop :=
  ∀ id row, before.devices.rows.lookup id = some row → row.orgID ≠ orgID →
    after.devices.rows.lookup id = some row

instance (sees : String → Bool) (world : World) (reg : DeviceRegistration) :
    Decidable (OwnDevice sees world reg) := by
  unfold OwnDevice
  infer_instance

instance (world : World) : Decidable (WithinLicences world) :=
  decidable_of_iff
    (∀ orgID org, world.organizations.lookup orgID = some org →
      (world.devices.activeCount orgID : Int) ≤ org.licenses ∧
        org.licensesConsumed = some (world.devices.activeCount orgID : Int))
    ⟨fun within =>
      { bounded := fun orgID org found => (within orgID org found).1
        consumed := fun orgID org found => (within orgID org found).2 },
      fun within orgID org found =>
        ⟨within.bounded orgID org found, within.consumed orgID org found⟩⟩

section
variable {sees : String → Bool} {choice : Choice} {world after : World}
variable {reg registered : DeviceRegistration}

theorem existingActive_iff (devices : DeviceTable) (orgID deviceID : String) :
    devices.existingActive orgID deviceID = true ↔ ∃ id row,
      devices.rows.lookup id = some row ∧ row.activeIn orgID = true ∧ row.deviceID = deviceID := by
  simp only [DeviceTable.existingActive, List.any_eq_true, Bool.and_eq_true, decide_eq_true_eq,
    lookup_eq_some_iff]
  simp

theorem consume_ok {org refreshed : Organization} {count : Nat}
    (consumed : org.consume count = .ok refreshed) :
    refreshed.subscriptionLicenses = org.subscriptionLicenses ∧
      refreshed.licensesConsumed = some (count : Int) := by
  unfold Organization.consume at consumed
  split_ifs at consumed
  cases consumed
  exact ⟨rfl, rfl⟩

section
variable (done : Registered sees choice world reg registered after) (own : OwnDevice sees world reg)

include done own

theorem Registered.row_active : done.row.orgID = reg.orgID ∧ done.row.status = some .active := by
  obtain ⟨sameOrg, sameID, active⟩ := proposed_ok done.proposed
  rcases done.upserted with ⟨-, isNew, -⟩ | ⟨old, found, known, visible, renewed⟩
  · rw [isNew]
    exact ⟨sameOrg, active⟩
  · rw [renewed]
    exact ⟨own _ old found (known.trans sameID) visible, rfl⟩

theorem Registered.old_active (orgID : String) :
    (world.devices.rows.lookup registered.id).any (Device.activeIn orgID) =
      (decide (orgID = reg.orgID) && world.devices.existingActive reg.orgID reg.deviceID) := by
  obtain ⟨-, sameID, -⟩ := proposed_ok done.proposed
  rcases done.upserted with ⟨absent, -, unknown⟩ | ⟨old, found, known, visible, -⟩
  · have inactive : world.devices.existingActive reg.orgID reg.deviceID = false := by
      rw [Bool.eq_false_iff]
      grind [existingActive_iff]
    rw [absent, inactive, Bool.and_false, Option.any_none]
  · have itsOrg := own _ old found (known.trans sameID) visible
    have same : world.devices.existingActive reg.orgID reg.deviceID = old.active := by
      rw [Bool.eq_iff_iff, existingActive_iff]
      constructor
      · rintro ⟨id, row, foundRow, active, itsID⟩
        have here : id = registered.id := world.devices.deviceIDs id registered.id row old foundRow
          found (itsID.trans (known.trans sameID).symm)
        rw [here, found] at foundRow
        cases foundRow
        simp [Device.activeIn] at active
        exact active.2
      · intro active
        exact ⟨_, old, found, by simp [Device.activeIn, itsOrg, active], known.trans sameID⟩
    rw [found, same, Option.any_some, Device.activeIn, itsOrg]
    simp [eq_comm]

theorem Registered.activeCount (orgID : String) :
    after.devices.activeCount orgID = world.devices.activeCount orgID +
      if orgID = reg.orgID ∧ world.devices.existingActive reg.orgID reg.deviceID = false then 1
      else 0 := by
  have counted := rowCount_insert (Device.activeIn orgID) world.devices.rows registered.id done.row
  rw [← done.rows, done.old_active own orgID] at counted
  obtain ⟨itsOrg, active⟩ := done.row_active own
  have rowActive : done.row.activeIn orgID = decide (orgID = reg.orgID) := by
    simp [Device.activeIn, Device.active, itsOrg, active, eq_comm]
  rw [rowActive] at counted
  rw [done.isAfter]
  simp [DeviceTable.activeCount]
  grind

theorem Registered.keepsOthers : KeepsOthers reg.orgID world after := by
  obtain ⟨-, sameID, -⟩ := proposed_ok done.proposed
  intro id row found another
  have elsewhere : id ≠ registered.id := by
    intro here
    rcases done.upserted with ⟨absent, -, -⟩ | ⟨old, foundOld, known, visible, -⟩
    · rw [here, absent] at found
      cases found
    · rw [here, foundOld] at found
      cases found
      exact another (own _ row foundOld (known.trans sameID) visible)
  rw [done.isAfter]
  simp [done.rows]
  rw [lookup_insert_if, if_neg elsewhere, found]

theorem Registered.withinLicences (within : WithinLicences world) : WithinLicences after := by
  obtain ⟨sameLicences, counted⟩ := consume_ok done.consumed
  have foundOrg : world.organizations.lookup reg.orgID = some done.org := by
    have found := done.found
    unfold World.organization at found
    split_ifs at found
    exact found
  have organizations := congrArg World.organizations done.isAfter
  have devices := congrArg World.devices done.isAfter
  refine ⟨?_, ?_⟩
  · intro orgID org found
    rw [organizations, lookup_insert_if] at found
    rw [done.activeCount own orgID]
    split_ifs at found with here
    · cases found
      have before := within.bounded reg.orgID done.org foundOrg
      have licensed := done.licensed
      rw [here, Organization.licenses, sameLicences]
      change _ ≤ done.org.licenses
      grind
    · simp [here]
      exact within.bounded orgID org found
  · intro orgID org found
    rw [organizations, lookup_insert_if] at found
    split_ifs at found with here
    · cases found
      rw [counted, here, devices]
    · rw [done.activeCount own orgID]
      simp [here]
      exact within.consumed orgID org found

end

theorem register_cases (sees : String → Bool) (world : World)
    (request : Choice × DeviceRegistration) :
    register sees world request = world ∨
      ∃ registered, Nonempty (Registered sees request.1 world request.2 registered
        (register sees world request)) := by
  unfold register registerMTLSDevice
  cases committed : registration sees request.1 world request.2 with
  | error err => exact .inl rfl
  | ok result => exact .inr ⟨result.1, registration_ok committed⟩

end

theorem registrations_within_licences (sees : String → Bool) (world : World)
    (start : WithinLicences world) (requests : List (Choice × DeviceRegistration))
    (own : ∀ visit ∈ visits (register sees) world requests, OwnDevice sees visit.1 visit.2.2) :
    (∀ reached ∈ states (register sees) world requests, WithinLicences reached) ∧
      ∀ visit ∈ visits (register sees) world requests,
        KeepsOthers visit.2.2.orgID visit.1 (register sees visit.1 visit.2) := by
  refine ⟨?_, ?_⟩
  · apply states_invariant_of (register sees) (fun now request => OwnDevice sees now request.2)
      WithinLicences ?_ world requests start own
    intro now request within ownNow
    rcases register_cases sees now request with same | ⟨registered, ⟨done⟩⟩
    · rwa [same]
    · exact done.withinLicences ownNow within
  · intro visit member
    rcases register_cases sees visit.1 visit.2 with same | ⟨registered, ⟨done⟩⟩
    · rw [same]
      intro id row found another
      exact found
    · exact done.keepsOthers (own visit member)

def twoTenants : World where
  organizations := ((∅ : Table String Organization).insert "acme" (.unused 1)).insert "bolt"
    (.unused 1)
  devices := .empty
  directory := .empty

def laptop (orgID deviceID : String) : DeviceRegistration where
  orgID := orgID
  deviceID := deviceID
  deviceName := deviceID
  osType := "windows"
  certSubject := "CN=" ++ deviceID ++ ",O=" ++ orgID
  certSerial := "17"
  certFingerprintSHA256 := "ab"
  certNotAfter := 100

def threeLaptops : List (Choice × DeviceRegistration) :=
  [({ newID := "row-1" }, laptop "acme" "laptop-7"),
    ({ newID := "row-2" }, laptop "bolt" "laptop-8"),
    ({ newID := "row-3" }, laptop "bolt" "laptop-9")]

/-- The third laptop finds no licence left. -/
theorem each_tenant_registers :
    WithinLicences (run (register fun _ => true) twoTenants threeLaptops) ∧
      (run (register fun _ => true) twoTenants threeLaptops).devices.activeCount "bolt" = 1 :=
  ⟨(registrations_within_licences (fun _ => true) twoTenants (by decide) threeLaptops
    (by decide)).1 _ run_mem_states, by decide⟩

/-- The licence of the first organization is taken, and it has a device that is not active. -/
def desktopInUse : World :=
  { register (fun _ => true) twoTenants ({ newID := "row-1" }, laptop "acme" "desktop-1") with
    devices := .ofRows
      [("row-1", { orgID := "acme", deviceID := "desktop-1" }),
        ("row-2", { orgID := "acme", deviceID := "laptop-7", status := some .blocked })] }

theorem laptop_taken_over :
    WithinLicences desktopInUse ∧
      ¬ WithinLicences (register (fun _ => true) desktopInUse
        ({ newID := "row-3" }, laptop "bolt" "laptop-7")) ∧
      ¬ KeepsOthers "bolt" desktopInUse (register (fun _ => true) desktopInUse
        ({ newID := "row-3" }, laptop "bolt" "laptop-7")) := by
  refine ⟨by decide, by decide, ?_⟩
  intro kept
  have same := kept "row-2" { orgID := "acme", deviceID := "laptop-7", status := some .blocked } rfl
    (by decide)
  cases same

end ManagementPlane.Devices
