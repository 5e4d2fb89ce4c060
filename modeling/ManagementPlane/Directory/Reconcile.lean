import ManagementPlane.Directory.Effects

/-!
# Directory reconciliation and logins

`ProvisioningStore.Reconcile` of `internal/db/provisioning_store.go` with
`DirectoryStore.BridgeGroups` of `internal/db/directory_store.go`, and the two methods of
`internal/db/scim_store.go` that find the client user of a login, as programs over the
statements of the directory. Status events are left out.

Go's loop over the map of imported groups visits it in any order; here it follows the order of
the rows that fill the map, which the query delivers in any order.
-/

namespace ManagementPlane.Directory

open GoStrings Interleave Tables

structure BridgeResult where
  created : Nat := 0
  linked : Nat := 0
  skipped : Nat := 0
  removed : Nat := 0

namespace DirectoryStore

/-- The group of a SID is renamed or inserted; only a failed lookup is an error. -/
def bridgeGroup (orgID : String) (res : BridgeResult) (g : String × String) :
    Handled (Except String BridgeResult) := do
  match ← ask (.bridgedGroup orgID g.1) with
  | .error err => return .error ("lookup bridged group: " ++ err)
  | .ok (some existingID) =>
    let _ ← run (.renameGroup existingID g.2)
    return .ok { res with linked := res.linked + 1 }
  | .ok none =>
    match ← run (.insertBridgedGroup orgID g.2 g.1) with
    | .error _ => return .ok { res with skipped := res.skipped + 1 }
    | .ok _ => return .ok { res with created := res.created + 1 }

def bridgeAll (orgID : String) (res : BridgeResult) :
    List (String × String) → Handled (Except String BridgeResult)
  | [] => return .ok res
  | g :: rest => do
      match ← bridgeGroup orgID res g with
      | .error err => return .error err
      | .ok res => bridgeAll orgID res rest

def bridgeGroups (connectorID orgID : String) : Handled (Except String BridgeResult) := do
  match ← ask (.connectorGroups connectorID) with
  | .error err => return .error ("read connector groups: " ++ err)
  | .ok groups =>
    match ← bridgeAll orgID {} groups with
    | .error err => return .error err
    | .ok res =>
      match ← run (.pruneGroups orgID) with
      | .error _ => return .ok res
      | .ok removed => return .ok { res with removed := removed }

end DirectoryStore

structure ReconcileResult where
  bridged : BridgeResult
  importedGroups : Nat
  onboarded : Nat
  offboarded : Nat
  active : Nat

def firstNonEmpty (vals : List String) : String :=
  (vals.find? fun v => trimSpace v ≠ "").getD ""

def pickEmail (email upn sam domain : String) : String :=
  if contains email "@" then toLower (trimSpace email)
  else if contains upn "@" then toLower (trimSpace upn)
  else if sam ≠ "" ∧ domain ≠ "" then toLower (sam ++ "@" ++ domain)
  else toLower (trimSpace upn)

abbrev EnabledGroups := Table String String

def enabledGroups (rows : List (String × String)) : EnabledGroups :=
  rows.foldl (fun groups row => groups.insert row.1 row.2) ∅

def intersectsGroups (sids : List String) (enabled : EnabledGroups) : Bool :=
  sids.any fun sid => (enabled.lookup sid).isSome

def belongs (enabled : EnabledGroups) (u : SnapUser) : Bool :=
  u.enabled && intersectsGroups u.groupSIDs enabled

/-- What onboarding has gathered: the client user of each SID, and the SIDs that belong. -/
structure Onboarding where
  clientIDs : Table String String := ∅
  inOrg : List String := []
  onboarded : Nat := 0

namespace ProvisioningStore

def upsertClientUser (orgID connectorID domain : String) (u : SnapUser) :
    Handled (Except String (String × Bool)) := do
  let name := firstNonEmpty [u.display, u.sam, u.upn, u.sid]
  let addr := pickEmail u.email u.upn u.sam domain
  if addr = "" then return .error ("no usable email/upn for " ++ u.sid)
  else
    match ← ask (.findDirectoryUser orgID u.sid) with
    | .error err => return .error err
    | .ok (some (id, status)) =>
      match ← run (.updateDirectoryUser id name addr) with
      | .error err => return .error ("update client user: " ++ err)
      | .ok _ => return .ok (id, status ≠ "active")
    | .ok none =>
      match ← run (.insertDirectoryUser orgID addr name u.sid connectorID) with
      | .error err => return .error ("create client user (" ++ addr ++ "): " ++ err)
      | .ok newID => return .ok (newID, true)

/-- The users of the snapshot that belong are onboarded one by one; one that fails is skipped. -/
def onboard (orgID connectorID domain : String) (enabled : EnabledGroups) :
    List SnapUser → Onboarding → Handled Onboarding
  | [], gathered => return gathered
  | u :: rest, gathered => do
      if ¬ belongs enabled u then onboard orgID connectorID domain enabled rest gathered
      else
        match ← upsertClientUser orgID connectorID domain u with
        | .error _ =>
          onboard orgID connectorID domain enabled rest
            { gathered with inOrg := u.sid :: gathered.inOrg }
        | .ok (id, changed) =>
          onboard orgID connectorID domain enabled rest
            { clientIDs := gathered.clientIDs.insert u.sid id
              inOrg := u.sid :: gathered.inOrg
              onboarded := if changed then gathered.onboarded + 1 else gathered.onboarded }

def suspendAll : List (String × String) → Handled (Except String Unit)
  | [] => return .ok ()
  | r :: rest => do
      match ← run (.suspendDirectoryUser r.1) with
      | .error err => return .error ("suspend " ++ r.1 ++ ": " ++ err)
      | .ok _ =>
        let _ ← run (.clearClientGroups r.1)
        suspendAll rest

def offboardMissing (orgID : String) (inOrg : List String) : Handled (Except String Nat) := do
  match ← ask (.activeDirectoryUsers orgID) with
  | .error err => return .error ("load ad users: " ++ err)
  | .ok rows =>
    let toSuspend := rows.filter fun r => r.2 ∉ inOrg
    match ← suspendAll toSuspend with
    | .error err => return .error err
    | .ok _ => return .ok toSuspend.length

def memberIDs (users : List SnapUser) (clientIDs : Table String String) (gsid : String) :
    List String :=
  users.filterMap fun u => if gsid ∈ u.groupSIDs then clientIDs.lookup u.sid else none

def setMemberships (users : List SnapUser) (clientIDs : Table String String) :
    List (Sigma fun _ : String => String) → Handled (Except String Unit)
  | [] => return .ok ()
  | entry :: rest => do
      match ← run (.replaceMembers entry.2 (memberIDs users clientIDs entry.1)) with
      | .error err => return .error err
      | .ok _ => setMemberships users clientIDs rest

def reconcileUsers (connectorID orgID domain : String) (bridged : BridgeResult) :
    Handled (Except String ReconcileResult) := do
  match ← ask (.importedGroups orgID) with
  | .error err => return .error ("load imported groups: " ++ err)
  | .ok rows =>
    let enabled := enabledGroups rows
    match ← ask (.loadSnapshot connectorID) with
    | .error err => return .error ("load connector users: " ++ err)
    | .ok users =>
      let gathered ← onboard orgID connectorID domain enabled users {}
      match ← offboardMissing orgID gathered.inOrg with
      | .error err => return .error err
      | .ok offboarded =>
        let _ ← setMemberships users gathered.clientIDs enabled.entries
        return .ok
          { bridged := bridged
            importedGroups := enabled.entries.length
            onboarded := gathered.onboarded
            offboarded := offboarded
            active := gathered.clientIDs.entries.length }

def reconcile (connectorID orgID domain : String) : Handled (Except String ReconcileResult) := do
  match ← DirectoryStore.bridgeGroups connectorID orgID with
  | .error err => return .error ("bridge: " ++ err)
  | .ok bridged => reconcileUsers connectorID orgID domain bridged

end ProvisioningStore

namespace SCIMStore

/-- A new client user, in the organization or else in the first one. -/
def autoProvisionClientUser (provider subject email name orgID : String) :
    Handled (Except String (SCIMUser × Bool)) := do
  let resolvedOrgID ← (if orgID ≠ "" then pure orgID else do
    match ← ask .firstOrganization with
    | .ok (some first) => return first
    | _ => return "" : Handled String)
  if resolvedOrgID = "" then return .error "no organization found for auto-provisioning"
  else
    match ← run (.registerClientUser resolvedOrgID email name provider subject) with
    | .error err => return .error ("auto-provision client user failed: " ++ err)
    | .ok u => return .ok (u, true)

def linkByEmailOrCreateClientUser (provider subject email name orgID : String) :
    Handled (Except String (SCIMUser × Bool)) := do
  match ← ask (.findClientUserByEmail email) with
  | .ok (some u) =>
    let _ ← run (.linkClientUser u.id provider subject)
    return .ok ({ u with oauthProvider := provider, oauthSubject := subject }, false)
  | _ => autoProvisionClientUser provider subject email name orgID

/-- A login by link, by e-mail address or with a new client user, and whether it is new. -/
def findOrCreateClientUser (provider subject email name orgID : String) :
    Handled (Except String (SCIMUser × Bool)) := do
  match ← ask (.findLinkedClientUser provider subject) with
  | .ok (some u) =>
    let _ ← run (.touchClientUser u.id)
    return .ok (u, false)
  | _ => linkByEmailOrCreateClientUser provider subject email name orgID

def findAndLinkProvisionedClientUser (provider subject email orgID : String) :
    Handled (Except String SCIMUser) := do
  match ← ask (.findProvisionedClientUser provider subject email orgID) with
  | .error err => return .error ("find provisioned client user: " ++ err)
  | .ok none => return .error "user is not provisioned for the ApexAegis user portal"
  | .ok (some u) =>
    if u.oauthProvider ≠ provider ∨ u.oauthSubject ≠ subject then
      match ← run (.linkClientUser u.id provider subject) with
      | .error err => return .error ("link provisioned client user: " ++ err)
      | .ok _ => return .ok { u with oauthProvider := provider, oauthSubject := subject }
    else
      let _ ← run (.touchClientUser u.id)
      return .ok u

end SCIMStore

end ManagementPlane.Directory
