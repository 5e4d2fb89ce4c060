import ManagementPlane.Directory.Tables

/-!
# Statements on the directory tables

Every SQL statement of the stores is an operation, and a transaction is one operation too.
Queries leave the tables alone; a statement that fails changes nothing. A choice says
whether an operation fails, what the clock and the id generator deliver, and in which order
rows without an `ORDER BY` arrive.
-/

namespace ManagementPlane.Directory

open GoJson Interleave Tables
open Policy (Time)
open Sso (Account Accounts)

/-- What the database and Go's standard library decide: case folding, `ILIKE` and the hash
of a SCIM token. -/
structure Env where
  lower : String → String
  ilike : String → String → Bool
  hashSCIMToken : String → String

def demoEnv : Env where
  lower := GoStrings.toLower
  ilike := GoStrings.contains
  hashSCIMToken := id

structure Choice where
  failure : Option String := none
  now : Time := 0
  newID : String := ""
  users : MapOrder SCIMUser := .asStored
  groups : MapOrder SCIMGroup := .asStored
  pairs : MapOrder (String × String) := .asStored
  snapshot : MapOrder SnapUser := .asStored

def attempt {α : Type} (choice : Choice) (result : Except String α) : Except String α :=
  match choice.failure with
  | some err => .error err
  | none => result

def uniqueViolation : String := "duplicate key value violates unique constraint"

def foreignKeyViolation : String := "insert violates foreign key constraint"

def tooLong : String := "value too long for type character varying"

def provisionSource : String := "ad-connector"

/-! ## Queries -/

inductive Query where
  | validateSCIMToken (hash : String)
  | getAdminUser (id : String)
  | countAdminUsers (filter : String)
  | pageAdminUsers (filter : String) (limit offset : Nat)
  | getClientUser (id : String)
  | countClientUsers (orgID filter : String)
  | pageClientUsers (orgID filter : String) (limit offset : Nat)
  | getGroup (id : String)
  | groupMembers (id : String)
  | countGroups (filter : String)
  | pageGroups (filter : String) (limit offset : Nat)
  | adminUserExists (id orgID : String)
  | clientUserExists (id orgID : String)
  | findLinkedClientUser (provider subject : String)
  | findClientUserByEmail (email : String)
  | findProvisionedClientUser (provider subject email orgID : String)
  | firstOrganization
  | connectorGroups (connectorID : String)
  | bridgedGroup (orgID sid : String)
  | importedGroups (orgID : String)
  | loadSnapshot (connectorID : String)
  | findDirectoryUser (orgID sid : String)
  | activeDirectoryUsers (orgID : String)

abbrev Query.Result : Query → Type
  | .validateSCIMToken _ => Option String
  | .getAdminUser _ => Option SCIMUser
  | .countAdminUsers _ => Nat
  | .pageAdminUsers .. => List SCIMUser
  | .getClientUser _ => Option SCIMUser
  | .countClientUsers .. => Nat
  | .pageClientUsers .. => List SCIMUser
  | .getGroup _ => Option SCIMGroup
  | .groupMembers _ => List String
  | .countGroups _ => Nat
  | .pageGroups .. => List SCIMGroup
  | .adminUserExists .. => Bool
  | .clientUserExists .. => Bool
  | .findLinkedClientUser .. => Option SCIMUser
  | .findClientUserByEmail _ => Option SCIMUser
  | .findProvisionedClientUser .. => Option SCIMUser
  | .firstOrganization => Option String
  | .connectorGroups _ => List (String × String)
  | .bridgedGroup .. => Option String
  | .importedGroups _ => List (String × String)
  | .loadSnapshot _ => List SnapUser
  | .findDirectoryUser .. => Option (String × String)
  | .activeDirectoryUsers _ => List (String × String)

section
variable (env : Env) (choice : Choice) (world : World)

def matchingAdmins (filter : String) : List SCIMUser :=
  (world.admins.rows.entries.map fun entry => adminRecord entry.1 entry.2).filter fun u =>
    filter = "" || env.ilike u.email ("%" ++ filter ++ "%") ||
      env.ilike u.name ("%" ++ filter ++ "%")

def matchingClients (orgID filter : String) : List SCIMUser :=
  (world.clientUsers.rows.entries.map fun entry => clientRecord entry.1 entry.2).filter fun u =>
    u.orgID = orgID && (filter = "" || env.ilike u.email ("%" ++ filter ++ "%") ||
      env.ilike u.name ("%" ++ filter ++ "%"))

def matchingGroups (filter : String) : List SCIMGroup :=
  (world.groups.entries.map fun entry => groupRecord entry.1 entry.2).filter fun g =>
    filter = "" || env.ilike g.displayName ("%" ++ filter ++ "%")

/-- `ORDER BY created_at DESC LIMIT … OFFSET …` -/
def page {α : Type} (order : MapOrder α) (createdAt : α → Option Time) (rows : List α)
    (limit offset : Nat) : List α :=
  ((sortBy order (fun row => -((createdAt row).getD 0)) rows).drop offset).take limit

def membersOf (groupID : String) : List String :=
  ((world.adminGroups ++ world.clientGroups).filter fun entry => entry.2 = groupID).map Prod.fst

def findClientUser (matched : Account Profile → Bool) : Option SCIMUser :=
  (findRow matched world.clientUsers.rows).map fun found => clientRecord found.1 found.2

def clientsWhere (matched : Account Profile → Bool) : List SCIMUser :=
  (world.clientUsers.rows.entries.filter fun entry => matched entry.2).map fun entry =>
    clientRecord entry.1 entry.2

/-- A row of the organization, one with the link before one with the address; of several rows
with the address any. -/
def provisionedClientUser (provider subject email orgID : String) : Option SCIMUser :=
  (choice.users.visit (clientsWhere world fun row =>
    row.orgID = orgID && row.linkedTo provider subject)).head?.or
  (choice.users.visit (clientsWhere world fun row =>
    row.orgID = orgID && env.lower row.email = env.lower email)).head?

/-- The name of a connector group, or the account name, or the SID. -/
def bridgeName (sid : String) (row : ConnectorGroup) : String :=
  ((row.name.filter (· ≠ "")).or (row.samAccountName.filter (· ≠ ""))).getD sid

def syncedGroups (connectorID : String) : List (String × String) :=
  (world.connectorGroups.entries.filter fun entry =>
    entry.1.1 = connectorID && entry.2.syncEnabled).map fun entry =>
      (entry.1.2, bridgeName entry.1.2 entry.2)

def importedGroups (orgID : String) : List (String × String) :=
  world.groups.entries.filterMap fun entry =>
    if entry.2.orgID = orgID && entry.2.source = "ldap" && entry.2.importEnabled then
      entry.2.externalID.map fun sid => (sid, entry.1)
    else none

/-- The directory groups of the organization with a SID: id and name. -/
def bridgedGroups (orgID sid : String) : List (String × String) :=
  (world.groups.entries.filter fun entry => entry.2.orgID = orgID && entry.2.source = "ldap" &&
    entry.2.externalID = some sid).map fun entry => (entry.1, entry.2.displayName)

def snapshotOf (connectorID : String) : List SnapUser :=
  (world.connectorUsers.entries.filter fun entry => entry.1.1 = connectorID).map fun entry =>
    snapUser entry.1.2 entry.2

/-- A client user that a connector has provisioned into the organization. -/
def fromDirectory (orgID : String) (row : Account Profile) : Bool :=
  row.orgID = orgID && row.oauthProvider = some provisionSource

/-- The client users that a connector has provisioned under a SID: id and status. -/
def directoryUsers (orgID sid : String) : List (String × String) :=
  (world.clientUsers.rows.entries.filter fun entry =>
    fromDirectory orgID entry.2 && entry.2.details.scimExternalID = some sid).map fun entry =>
      (entry.1, entry.2.status)

def activeDirectoryUsers (orgID : String) : List (String × String) :=
  (world.clientUsers.rows.entries.filter fun entry =>
    fromDirectory orgID entry.2 && entry.2.status = "active").map fun entry =>
      (entry.1, entry.2.details.scimExternalID.getD "")

def Query.run : (q : Query) → q.Result
  | .validateSCIMToken hash =>
    (findRow (fun provider => provider.scimTokenHash = some hash && provider.scimEnabled)
      world.providers).map fun found => found.2.orgID
  | .getAdminUser id => (world.admins.rows.lookup id).map (adminRecord id)
  | .countAdminUsers filter => (matchingAdmins env world filter).length
  | .pageAdminUsers filter limit offset =>
    page choice.users SCIMUser.createdAt (matchingAdmins env world filter) limit offset
  | .getClientUser id => (world.clientUsers.rows.lookup id).map (clientRecord id)
  | .countClientUsers orgID filter => (matchingClients env world orgID filter).length
  | .pageClientUsers orgID filter limit offset =>
    page choice.users SCIMUser.createdAt (matchingClients env world orgID filter) limit offset
  | .getGroup id => (world.groups.lookup id).map (groupRecord id)
  | .groupMembers id => membersOf world id
  | .countGroups filter => (matchingGroups env world filter).length
  | .pageGroups filter limit offset =>
    page choice.groups SCIMGroup.createdAt (matchingGroups env world filter) limit offset
  | .adminUserExists id orgID =>
    ((world.admins.rows.lookup id).map fun row => decide (row.orgID = orgID)).getD false
  | .clientUserExists id orgID =>
    ((world.clientUsers.rows.lookup id).map fun row => decide (row.orgID = orgID)).getD false
  | .findLinkedClientUser provider subject =>
    findClientUser world fun row => row.linkedTo provider subject
  | .findClientUserByEmail email => findClientUser world fun row => row.email = email
  | .findProvisionedClientUser provider subject email orgID =>
    provisionedClientUser env choice world provider subject email orgID
  | .firstOrganization => world.organizations.head?
  | .connectorGroups connectorID => choice.pairs.visit (syncedGroups world connectorID)
  | .bridgedGroup orgID sid =>
    (choice.pairs.visit (bridgedGroups world orgID sid)).head?.map Prod.fst
  | .importedGroups orgID => choice.pairs.visit (Directory.importedGroups world orgID)
  | .loadSnapshot connectorID => choice.snapshot.visit (snapshotOf world connectorID)
  | .findDirectoryUser orgID sid =>
    (choice.pairs.visit (directoryUsers world orgID sid)).head?
  | .activeDirectoryUsers orgID => choice.pairs.visit (Directory.activeDirectoryUsers world orgID)

end

/-! ## Statements -/

inductive Statement where
  | insertAdminUser (u : SCIMUser)
  | updateAdminUser (id : String) (u : SCIMUser)
  | deleteAdminUser (id : String)
  | insertClientUser (u : SCIMUser)
  | updateClientUser (id : String) (u : SCIMUser)
  | deleteClientUser (id : String)
  | insertGroup (g : SCIMGroup)
  | updateGroup (id : String) (g : SCIMGroup)
  | deleteGroup (id : String)
  | setGroupMembers (groupID : String) (adminIDs clientIDs : List String)
  | touchClientUser (id : String)
  | linkClientUser (id provider subject : String)
  | registerClientUser (orgID email name provider subject : String)
  | renameGroup (id name : String)
  | insertBridgedGroup (orgID name sid : String)
  | pruneGroups (orgID : String)
  | updateDirectoryUser (id name email : String)
  | insertDirectoryUser (orgID email name sid connectorID : String)
  | suspendDirectoryUser (id : String)
  | clearClientGroups (id : String)
  | replaceMembers (groupID : String) (memberIDs : List String)
  | reactivateClientUser (orgID id actorID reason : String)

abbrev Statement.Result : Statement → Type
  | .insertAdminUser _ => SCIMUser
  | .updateAdminUser .. => Option SCIMUser
  | .deleteAdminUser _ => Bool
  | .insertClientUser _ => SCIMUser
  | .updateClientUser .. => Option SCIMUser
  | .deleteClientUser _ => Bool
  | .insertGroup _ => SCIMGroup
  | .updateGroup .. => Option SCIMGroup
  | .deleteGroup _ => Bool
  | .registerClientUser .. => SCIMUser
  | .pruneGroups _ => Nat
  | .insertDirectoryUser .. => String
  | .reactivateClientUser .. => Option SCIMUser
  | _ => Unit

section
variable (now : Time) (newID : String) (world : World)

def clientFits (u : SCIMUser) : Bool :=
  u.email.length ≤ 320 && u.name.length ≤ 255 && u.department.length ≤ 255 &&
    u.title.length ≤ 255 && u.oauthProvider.length ≤ 30 && u.oauthSubject.length ≤ 255 &&
    u.scimExternalID.length ≤ 255 && u.idpID.length ≤ 64 &&
    (u.status = "active" || u.status = "suspended" || u.status = "disabled") &&
    u.statusSource.length ≤ 40 && u.statusUpdatedBy.length ≤ 255

def adminFits (u : SCIMUser) : Bool :=
  u.email.length ≤ 320 && u.name.length ≤ 255 && u.scimExternalID.length ≤ 255 &&
    (u.status = "active" || u.status = "suspended" || u.status = "invited")

def insertAdminUser (u : SCIMUser) : Except String (SCIMUser × World) := do
  if u.orgID ∉ world.organizations then throw foreignKeyViolation
  if !adminFits u then throw tooLong
  let row : Account AdminProfile :=
    { orgID := u.orgID
      email := u.email
      name := u.name
      status := u.status
      oauthProvider := none
      oauthSubject := none
      lastLoginAt := none
      details := ⟨some u.scimExternalID, now, now⟩ }
  let admins ← world.admins.add newID row
  return (adminRecord newID row, { world with admins := admins })

def updateAdminUser (id : String) (u : SCIMUser) : Except String (Option SCIMUser × World) := do
  if !adminFits u then throw tooLong
  let (row, admins) ← world.admins.amend id fun row =>
    { row with
      name := u.name
      email := u.email
      status := u.status
      details := { row.details with scimExternalID := some u.scimExternalID, updatedAt := now } }
  return (row.map (adminRecord id), { world with admins := admins })

def deleteAdminUser (id : String) : Bool × World :=
  ((world.admins.rows.lookup id).isSome,
    { world with
      admins := world.admins.remove id
      adminGroups := world.adminGroups.filter fun entry => entry.1 ≠ id })

def insertClientUser (u : SCIMUser) : Except String (SCIMUser × World) := do
  if u.orgID ∉ world.organizations then throw foreignKeyViolation
  if !clientFits u then throw tooLong
  let row : Account Profile :=
    { orgID := u.orgID
      email := u.email
      name := u.name
      status := u.status
      oauthProvider := nilIfEmpty u.oauthProvider
      oauthSubject := nilIfEmpty u.oauthSubject
      lastLoginAt := none
      details :=
        { department := nilIfEmpty u.department
          title := nilIfEmpty u.title
          scimExternalID := nilIfEmpty u.scimExternalID
          idpID := nilIfEmpty u.idpID
          statusReason := nilIfEmpty u.statusReason
          statusSource := nilIfEmpty u.statusSource
          statusUpdatedBy := nilIfEmpty u.statusUpdatedBy
          createdAt := now
          updatedAt := now } }
  let clientUsers ← world.clientUsers.add newID row
  return (clientRecord newID row, { world with clientUsers := clientUsers })

/-- The columns that SCIM manages; the organization and the link stay. -/
def scimUpdate (u : SCIMUser) (row : Account Profile) : Account Profile :=
  { row with
    name := u.name
    email := u.email
    status := u.status
    details :=
      { row.details with
        department := nilIfEmpty u.department
        title := nilIfEmpty u.title
        scimExternalID := nilIfEmpty u.scimExternalID
        statusReason := nilIfEmpty u.statusReason
        statusSource := nilIfEmpty u.statusSource
        statusUpdatedBy := nilIfEmpty u.statusUpdatedBy
        updatedAt := now } }

def updateClientUser (id : String) (u : SCIMUser) : Except String (Option SCIMUser × World) := do
  if !clientFits u then throw tooLong
  let (row, clientUsers) ← world.clientUsers.amend id (scimUpdate now u)
  return (row.map (clientRecord id), { world with clientUsers := clientUsers })

def deleteClientUser (id : String) : Bool × World :=
  ((world.clientUsers.rows.lookup id).isSome,
    { world with
      clientUsers := world.clientUsers.remove id
      clientGroups := world.clientGroups.filter fun entry => entry.1 ≠ id })

def nameTaken (id orgID displayName : String) : Bool :=
  world.groups.entries.any fun entry =>
    entry.1 ≠ id && entry.2.orgID = orgID && entry.2.displayName = displayName

def groupFits (displayName : String) (externalID : Option String) : Bool :=
  displayName.length ≤ 255 && ((externalID.map String.length).getD 0) ≤ 255

def insertGroupRow (row : Group) : Except String World := do
  if row.orgID ∉ world.organizations then throw foreignKeyViolation
  if !groupFits row.displayName row.externalID then throw tooLong
  if (world.groups.lookup newID).isSome || nameTaken world newID row.orgID row.displayName then
    throw uniqueViolation
  return { world with groups := world.groups.insert newID row }

def insertGroup (g : SCIMGroup) : Except String (SCIMGroup × World) := do
  let row : Group :=
    { orgID := g.orgID
      displayName := g.displayName
      externalID := nilIfEmpty g.externalID
      idpID := nilIfEmpty g.idpID
      source := g.source
      createdAt := now
      updatedAt := now }
  let after ← insertGroupRow newID world row
  return (groupRecord newID row, after)

/-- `UPDATE system_mgmt.groups … WHERE id = $1`, with the row that it leaves. -/
def amendGroup (id : String) (f : Group → Group) : Except String (Option Group × World) :=
  match world.groups.lookup id with
  | none => .ok (none, world)
  | some row =>
    if !groupFits (f row).displayName (f row).externalID then .error tooLong
    else if nameTaken world id (f row).orgID (f row).displayName then .error uniqueViolation
    else .ok (some (f row), { world with groups := world.groups.insert id (f row) })

def updateGroup (id : String) (g : SCIMGroup) : Except String (Option SCIMGroup × World) := do
  let (row, after) ← amendGroup world id fun row =>
    { row with
      displayName := g.displayName
      externalID := nilIfEmpty g.externalID
      updatedAt := now }
  return (row.map (groupRecord id), after)

def dropGroups (drops : String → Group → Bool) : World :=
  let gone := fun id => ((world.groups.lookup id).map (drops id)).getD false
  { world with
    groups := updateAll (fun id row => if drops id row then none else some row) world.groups
    adminGroups := world.adminGroups.filter fun entry => !gone entry.2
    clientGroups := world.clientGroups.filter fun entry => !gone entry.2 }

def deleteGroup (id : String) : Bool × World :=
  ((world.groups.lookup id).isSome, dropGroups world fun other _ => other = id)

/-- `INSERT … ON CONFLICT DO NOTHING` of one membership after the other. -/
def addMembers (groupID : String) (members : List String) (rows : List (String × String)) :
    List (String × String) :=
  members.foldl (fun rows id => if (id, groupID) ∈ rows then rows else rows ++ [(id, groupID)]) rows

def setGroupMembers (groupID : String) (adminIDs clientIDs : List String) : Except String World :=
  if (adminIDs ≠ [] ∨ clientIDs ≠ []) ∧ (world.groups.lookup groupID).isNone then
    .error foreignKeyViolation
  else if adminIDs.any fun id => (world.admins.rows.lookup id).isNone then
    .error foreignKeyViolation
  else if clientIDs.any fun id => (world.clientUsers.rows.lookup id).isNone then
    .error foreignKeyViolation
  else
    .ok
      { world with
        adminGroups := addMembers groupID adminIDs
          (world.adminGroups.filter fun entry => entry.2 ≠ groupID)
        clientGroups := addMembers groupID clientIDs
          (world.clientGroups.filter fun entry => entry.2 ≠ groupID) }

def insertBridgedGroup (orgID name sid : String) : Except String World :=
  insertGroupRow newID world
    { orgID := orgID
      displayName := name
      externalID := some sid
      source := "ldap"
      createdAt := now
      updatedAt := now }

def syncedSIDs : List String :=
  (world.connectorGroups.entries.filter fun entry => entry.2.syncEnabled).map fun entry => entry.1.2

/-- A directory group that no connector lets through; `NOT IN` an empty list holds of NULL. -/
def prunes (orgID : String) (row : Group) : Bool :=
  row.orgID = orgID && row.source = "ldap" &&
    (syncedSIDs world = [] || (row.externalID.map fun sid => decide (sid ∉ syncedSIDs world)).getD false)

def pruneGroups (orgID : String) : Nat × World :=
  ((world.groups.entries.filter fun entry => prunes world orgID entry.2).length,
    dropGroups world fun _ row => prunes world orgID row)

def onboardedReason : String := "Member of an imported directory group"

def offboardedReason : String :=
  "Offboarded — no longer a member of an imported directory group"

def connectorStatus (status reason : String) (row : Account Profile) : Account Profile :=
  { row with
    status := status
    details :=
      { row.details with
        statusSource := some "connector"
        statusReason := some reason
        updatedAt := now } }

def amendClientUser (id : String) (f : Account Profile → Account Profile) : Except String World := do
  let (_, clientUsers) ← world.clientUsers.amend id f
  return { world with clientUsers := clientUsers }

def updateDirectoryUser (id name email : String) : Except String World := do
  if !(name.length ≤ 255 && email.length ≤ 320) then throw tooLong
  amendClientUser world id fun row =>
    connectorStatus now "active" onboardedReason { row with name := name, email := email }

def insertDirectoryUser (orgID email name sid connectorID : String) :
    Except String (String × World) := do
  if orgID ∉ world.organizations then throw foreignKeyViolation
  if !(name.length ≤ 255 && email.length ≤ 320 && sid.length ≤ 255 && connectorID.length ≤ 64) then
    throw tooLong
  let clientUsers ← world.clientUsers.add newID
    { orgID := orgID
      email := email
      name := name
      status := "active"
      oauthProvider := some provisionSource
      oauthSubject := some sid
      lastLoginAt := none
      details :=
        { scimExternalID := some sid
          idpID := some connectorID
          statusSource := some "connector"
          createdAt := now
          updatedAt := now } }
  return (newID, { world with clientUsers := clientUsers })

/-- A client user that a login creates, with the default columns. -/
def registerClientUser (orgID email name provider subject : String) :
    Except String (SCIMUser × World) := do
  if orgID ∉ world.organizations then throw foreignKeyViolation
  let details : Profile := { statusSource := some "scim", createdAt := now, updatedAt := now }
  let clientUsers ← world.clientUsers.register (fun _ => true) newID orgID email name provider
    subject details now
  let created : SCIMUser :=
    { id := newID
      orgID := orgID
      email := email
      name := name
      status := "active"
      statusSource := "scim"
      scimExternalID := ""
      oauthProvider := provider
      oauthSubject := subject
      createdAt := some now
      updatedAt := some now }
  return (created, { world with clientUsers := clientUsers })

def replaceMembers (groupID : String) (memberIDs : List String) : Except String World :=
  if memberIDs ≠ [] ∧ (world.groups.lookup groupID).isNone then .error foreignKeyViolation
  else if memberIDs.any fun id => (world.clientUsers.rows.lookup id).isNone then
    .error foreignKeyViolation
  else
    .ok
      { world with
        clientGroups := addMembers groupID memberIDs
          (world.clientGroups.filter fun entry => entry.2 ≠ groupID) }

/-- `UPDATE … WHERE id = $1 AND org_id = $2` -/
def reactivateClientUser (orgID id actorID reason : String) :
    Except String (Option SCIMUser × World) :=
  if ((world.clientUsers.rows.lookup id).map fun row => decide (row.orgID = orgID)) ≠ some true then
    .ok (none, world)
  else do
    if !(actorID.length ≤ 255) then throw tooLong
    let (row, clientUsers) ← world.clientUsers.amend id fun row =>
      { row with
        status := "active"
        details :=
          { row.details with
            statusReason := some reason
            statusSource := some "admin_override"
            statusUpdatedBy := nilIfEmpty actorID
            updatedAt := now } }
    return (row.map (clientRecord id), { world with clientUsers := clientUsers })

def Statement.run : (s : Statement) → Except String (s.Result × World)
  | .insertAdminUser u => Directory.insertAdminUser now newID world u
  | .updateAdminUser id u => Directory.updateAdminUser now world id u
  | .deleteAdminUser id => .ok (Directory.deleteAdminUser world id)
  | .insertClientUser u => Directory.insertClientUser now newID world u
  | .updateClientUser id u => Directory.updateClientUser now world id u
  | .deleteClientUser id => .ok (Directory.deleteClientUser world id)
  | .insertGroup g => Directory.insertGroup now newID world g
  | .updateGroup id g => Directory.updateGroup now world id g
  | .deleteGroup id => .ok (Directory.deleteGroup world id)
  | .setGroupMembers groupID adminIDs clientIDs =>
    (Directory.setGroupMembers world groupID adminIDs clientIDs).map fun after => ((), after)
  | .touchClientUser id =>
    (world.clientUsers.touch (fun _ => true) id now).map fun clientUsers =>
      ((), { world with clientUsers := clientUsers })
  | .linkClientUser id provider subject =>
    (world.clientUsers.link (fun _ => true) id provider subject now).map fun clientUsers =>
      ((), { world with clientUsers := clientUsers })
  | .registerClientUser orgID email name provider subject =>
    Directory.registerClientUser now newID world orgID email name provider subject
  | .renameGroup id name =>
    (amendGroup world id fun row => { row with displayName := name, updatedAt := now }).map
      fun result => ((), result.2)
  | .insertBridgedGroup orgID name sid =>
    (Directory.insertBridgedGroup now newID world orgID name sid).map fun after => ((), after)
  | .pruneGroups orgID => .ok (Directory.pruneGroups world orgID)
  | .updateDirectoryUser id name email =>
    (Directory.updateDirectoryUser now world id name email).map fun after => ((), after)
  | .insertDirectoryUser orgID email name sid connectorID =>
    Directory.insertDirectoryUser now newID world orgID email name sid connectorID
  | .suspendDirectoryUser id =>
    (amendClientUser world id (connectorStatus now "suspended" offboardedReason)).map fun after =>
      ((), after)
  | .clearClientGroups id =>
    .ok ((), { world with clientGroups := world.clientGroups.filter fun entry => entry.1 ≠ id })
  | .replaceMembers groupID memberIDs =>
    (Directory.replaceMembers world groupID memberIDs).map fun after => ((), after)
  | .reactivateClientUser orgID id actorID reason =>
    Directory.reactivateClientUser now world orgID id actorID reason

end

inductive Op where
  | query (q : Query)
  | statement (s : Statement)

abbrev Op.Ans : Op → Type
  | .query q => Except String q.Result
  | .statement s => Except String s.Result

def exec (env : Env) (choice : Choice) (world : World) : (op : Op) → op.Ans × World
  | .query q => (attempt choice (.ok (q.run env choice world)), world)
  | .statement s =>
    match attempt choice (s.run choice.now choice.newID world) with
    | .error err => (.error err, world)
    | .ok (result, after) => (.ok result, after)

theorem attempt_ok {α : Type} {choice : Choice} {result : Except String α} {a : α}
    (answered : attempt choice result = .ok a) : result = .ok a := by
  unfold attempt at answered
  split at answered
  · cases answered
  · exact answered

theorem query_ok {env : Env} {choice : Choice} {world : World} {q : Query} {result : q.Result}
    (answered : (exec env choice world (.query q)).1 = .ok result) :
    result = q.run env choice world :=
  (Except.ok.inj (attempt_ok answered)).symm

theorem statement_cases (env : Env) (choice : Choice) (world : World) (s : Statement) :
    (∃ err, exec env choice world (.statement s) = (.error err, world)) ∨
      ∃ result after, s.run choice.now choice.newID world = .ok (result, after) ∧
        exec env choice world (.statement s) = (.ok result, after) := by
  simp [exec]
  cases tried : attempt choice (s.run choice.now choice.newID world) with
  | error err => exact .inl ⟨err, rfl⟩
  | ok written =>
    obtain ⟨result, after⟩ := written
    exact .inr ⟨result, after, attempt_ok tried, rfl⟩

abbrev Handled := Prog Op Op.Ans

abbrev ask (q : Query) : Handled (Except String q.Result) := perform (Op.query q)

abbrev run (s : Statement) : Handled (Except String s.Result) := perform (Op.statement s)

end ManagementPlane.Directory
