import ManagementPlane.Sso.Store

/-!
# The directory tables

Administrators, client users, groups and their members, which SCIM clients, directory
connectors and logins share, with the connectors' snapshots: the tables of
`internal/db/scim_store.go`, `internal/db/provisioning_store.go` and
`internal/db/directory_store.go`.

Administrators and client users are accounts with unique addresses and links. A statement
that would break a constraint fails, and a deleted row takes its memberships along. The
statements are those of the source, without row level security.
-/

namespace ManagementPlane.Sso.Accounts

open Tables

variable {Details : Type} (accounts : Accounts Details)

def addressTaken (id email : String) : Bool :=
  accounts.rows.entries.any fun entry => entry.1 ≠ id && entry.2.email = email

def linkTaken (id : String) (row : Account Details) : Bool :=
  accounts.rows.entries.any fun entry => entry.1 ≠ id && entry.2.oauthProvider.isSome &&
    entry.2.oauthSubject.isSome && entry.2.oauthProvider = row.oauthProvider &&
    entry.2.oauthSubject = row.oauthSubject

theorem addressTaken_of_lookup (id other email : String) (row : Account Details)
    (found : accounts.rows.lookup other = some row) (another : other ≠ id)
    (same : row.email = email) : accounts.addressTaken id email = true := by
  rw [addressTaken, List.any_eq_true]
  grind [lookup_eq_some_iff]

theorem linkTaken_of_lookup (id other provider subject : String) (row otherRow : Account Details)
    (found : accounts.rows.lookup other = some otherRow) (another : other ≠ id)
    (linked : row.linkedTo provider subject = true)
    (otherLinked : otherRow.linkedTo provider subject = true) :
    accounts.linkTaken id row = true := by
  simp [Account.linkedTo] at linked otherLinked
  rw [linkTaken, List.any_eq_true]
  grind [lookup_eq_some_iff]

/-- Write a row, unless another account has its address or its link. -/
def put (id : String) (row : Account Details) : Except String (Accounts Details) :=
  if free : accounts.addressTaken id row.email = true ∨ accounts.linkTaken id row = true then
    .error "duplicate key value violates unique constraint"
  else
    .ok
      { rows := accounts.rows.insert id row
        emails := by
          intro first second firstRow secondRow foundFirst foundSecond same
          exact unique_insert (fun _ _ => Eq.symm) accounts.emails
            (fun other found another present same => free (.inl
              (accounts.addressTaken_of_lookup id other _ found present another same)))
            first second firstRow secondRow foundFirst foundSecond same
        links := by
          intro first second firstRow secondRow provider subject foundFirst foundSecond linked
            otherLinked
          exact unique_insert
            (R := fun x y => x.linkedTo provider subject = true ∧ y.linkedTo provider subject = true)
            (fun _ _ => And.symm)
            (fun _ _ _ _ found other both =>
              accounts.links _ _ _ _ provider subject found other both.1 both.2)
            (fun other found another present both => free (.inr
              (accounts.linkTaken_of_lookup id other provider subject row found present another
                both.2 both.1)))
            first second firstRow secondRow foundFirst foundSecond ⟨linked, otherLinked⟩ }

/-- `INSERT INTO … RETURNING id` -/
def add (id : String) (row : Account Details) : Except String (Accounts Details) :=
  if (accounts.rows.lookup id).isSome then .error "duplicate key value violates unique constraint"
  else accounts.put id row

/-- `UPDATE … WHERE id = $1`, with the row that it leaves. -/
def amend (id : String) (f : Account Details → Account Details) :
    Except String (Option (Account Details) × Accounts Details) :=
  match accounts.rows.lookup id with
  | none => .ok (none, accounts)
  | some row => (accounts.put id (f row)).map fun after => (some (f row), after)

/-- `DELETE FROM … WHERE id = $1` -/
def remove (id : String) : Accounts Details where
  rows := accounts.rows.erase id
  emails := by
    intro first second firstRow secondRow foundFirst foundSecond same
    rw [lookup_erase_if] at foundFirst foundSecond
    split_ifs at foundFirst foundSecond
    exact accounts.emails first second firstRow secondRow foundFirst foundSecond same
  links := by
    intro first second firstRow secondRow provider subject foundFirst foundSecond linked otherLinked
    rw [lookup_erase_if] at foundFirst foundSecond
    split_ifs at foundFirst foundSecond
    exact accounts.links first second firstRow secondRow provider subject foundFirst foundSecond
      linked otherLinked

/-- A table with the given rows, as far as they can stand together. -/
def ofRows (rows : List (String × Account Details)) : Accounts Details :=
  rows.foldl (fun accounts entry => (accounts.add entry.1 entry.2).toOption.getD accounts) .empty

variable (id other : String)

theorem lookup_put (row : Account Details) (after : Accounts Details)
    (written : accounts.put id row = .ok after) :
    after.rows.lookup other = if other = id then some row else accounts.rows.lookup other := by
  unfold put at written
  grind [lookup_insert_if]

theorem lookup_add (row : Account Details) (after : Accounts Details)
    (written : accounts.add id row = .ok after) :
    accounts.rows.lookup id = none ∧
      after.rows.lookup other = if other = id then some row else accounts.rows.lookup other := by
  unfold add at written
  split_ifs at written with used
  exact ⟨Option.not_isSome_iff_eq_none.mp used, accounts.lookup_put id other row after written⟩

theorem lookup_amend (f : Account Details → Account Details) (result : Option (Account Details))
    (after : Accounts Details) (written : accounts.amend id f = .ok (result, after)) :
    result = (accounts.rows.lookup id).map f ∧
      after.rows.lookup other =
        if other = id then (accounts.rows.lookup other).map f else accounts.rows.lookup other := by
  unfold amend at written
  cases found : accounts.rows.lookup id with
  | none =>
    grind
  | some row =>
    rw [found] at written
    cases stored : accounts.put id (f row) with
    | error err =>
      simp [stored] at written
      cases written
    | ok now =>
      simp [stored] at written
      cases written
      refine ⟨rfl, ?_⟩
      rw [accounts.lookup_put id other (f row) _ stored]
      split_ifs with here
      · rw [here, found]
        rfl
      · rfl

theorem lookup_remove :
    (accounts.remove id).rows.lookup other =
      if other = id then none else accounts.rows.lookup other :=
  lookup_erase_if ..

end ManagementPlane.Sso.Accounts

namespace ManagementPlane.Directory

open GoJson Tables
open Policy (Time)
open Sso (Account Accounts)

/-- The columns of a client user besides those of every account. -/
structure Profile where
  department : Option String := none
  title : Option String := none
  scimExternalID : Option String := none
  idpID : Option String := none
  statusReason : Option String := none
  statusSource : Option String := none
  statusUpdatedBy : Option String := none
  createdAt : Time
  updatedAt : Time

structure AdminProfile where
  scimExternalID : Option String
  createdAt : Time
  updatedAt : Time

structure Group where
  orgID : String
  displayName : String
  externalID : Option String := none
  idpID : Option String := none
  source : String
  importEnabled : Bool := false
  createdAt : Time
  updatedAt : Time

structure Provider where
  orgID : String
  scimTokenHash : Option String
  scimEnabled : Bool

structure ConnectorGroup where
  name : Option String
  samAccountName : Option String
  syncEnabled : Bool

structure ConnectorUser where
  upn : Option String := none
  samAccountName : Option String := none
  displayName : Option String := none
  email : Option String := none
  enabled : Option Bool := none
  groupSIDs : Option Json := none

/-- A membership is a pair of a user and a group; snapshots are keyed by connector and SID. -/
structure World where
  organizations : List String
  providers : Table String Provider
  admins : Accounts AdminProfile
  clientUsers : Accounts Profile
  groups : Table String Group
  adminGroups : List (String × String)
  clientGroups : List (String × String)
  connectorGroups : Table (String × String) ConnectorGroup
  connectorUsers : Table (String × String) ConnectorUser

def World.empty : World where
  organizations := []
  providers := ∅
  admins := .empty
  clientUsers := .empty
  groups := ∅
  adminGroups := []
  clientGroups := []
  connectorGroups := ∅
  connectorUsers := ∅

structure SCIMUser where
  id : String := ""
  orgID : String := ""
  email : String
  name : String
  department : String := ""
  title : String := ""
  status : String
  statusReason : String := ""
  statusSource : String := ""
  statusUpdatedBy : String := ""
  scimExternalID : String
  idpID : String := ""
  oauthProvider : String := ""
  oauthSubject : String := ""
  createdAt : Option Time := none
  updatedAt : Option Time := none

structure SCIMGroup where
  id : String := ""
  orgID : String := ""
  displayName : String
  externalID : String
  idpID : String := ""
  source : String := ""
  members : List String := []
  createdAt : Option Time := none
  updatedAt : Option Time := none

structure SnapUser where
  sid : String
  upn : String
  sam : String
  display : String
  email : String
  enabled : Bool
  groupSIDs : List String

def nilIfEmpty (s : String) : Option String := if s = "" then none else some s

def clientRecord (id : String) (row : Account Profile) : SCIMUser where
  id := id
  orgID := row.orgID
  email := row.email
  name := row.name
  department := row.details.department.getD ""
  title := row.details.title.getD ""
  status := row.status
  statusReason := row.details.statusReason.getD ""
  statusSource := row.details.statusSource.getD ""
  statusUpdatedBy := row.details.statusUpdatedBy.getD ""
  scimExternalID := row.details.scimExternalID.getD ""
  idpID := row.details.idpID.getD ""
  oauthProvider := row.oauthProvider.getD ""
  oauthSubject := row.oauthSubject.getD ""
  createdAt := some row.details.createdAt
  updatedAt := some row.details.updatedAt

def adminRecord (id : String) (row : Account AdminProfile) : SCIMUser where
  id := id
  orgID := row.orgID
  email := row.email
  name := row.name
  status := row.status
  scimExternalID := row.details.scimExternalID.getD ""
  createdAt := some row.details.createdAt
  updatedAt := some row.details.updatedAt

def groupRecord (id : String) (row : Group) : SCIMGroup where
  id := id
  orgID := row.orgID
  displayName := row.displayName
  externalID := row.externalID.getD ""
  idpID := row.idpID.getD ""
  source := row.source
  createdAt := some row.createdAt
  updatedAt := some row.updatedAt

def snapUser (sid : String) (row : ConnectorUser) : SnapUser where
  sid := sid
  upn := row.upn.getD ""
  sam := row.samAccountName.getD ""
  display := row.displayName.getD ""
  email := row.email.getD ""
  enabled := row.enabled.getD false
  groupSIDs := (row.groupSIDs.bind unmarshalStrings).getD []

end ManagementPlane.Directory
