import ManagementPlane.Directory.Patch
import ManagementPlane.Directory.Store

/-!
# The SCIM API

The handlers of `internal/api/handlers/scim_handler.go` behind `SCIMAuth` of
`internal/api/middleware/auth.go`, with the methods of `internal/db/scim_store.go` that they
call, as programs over the statements of the directory. A request whose body does not bind
has none; the numbers of a list request are what `strconv.Atoi` makes of them.
-/

namespace ManagementPlane.Directory

open GoStrings Interleave
open Policy (Time)

/-! ## The store -/

namespace SCIMStore

def wrap {α : Type} (context : String) : Except String α → Except String α
  | .ok a => .ok a
  | .error err => .error (context ++ ": " ++ err)

def found {α : Type} (missing : String) : Except String (Option α) → Except String α
  | .ok (some a) => .ok a
  | .ok none => .error missing
  | .error err => .error err

def deleted (context missing : String) : Except String Bool → Except String Unit
  | .ok true => .ok ()
  | .ok false => .error missing
  | .error err => .error (context ++ ": " ++ err)

def pageLimit (count : Int) : Nat := if count < 1 ∨ 200 < count then 100 else count.toNat

def pageOffset (startIndex : Int) : Nat := if startIndex < 1 then 0 else (startIndex - 1).toNat

def createAdminUser (u : SCIMUser) : Handled (Except String SCIMUser) := do
  return wrap "scim create admin user" (← run (.insertAdminUser u))

def getAdminUser (id : String) : Handled (Except String (Option SCIMUser)) := do
  return wrap "scim get admin user" (← ask (.getAdminUser id))

def updateAdminUser (id : String) (u : SCIMUser) : Handled (Except String SCIMUser) := do
  return found "admin user not found" (wrap "scim update admin user" (← run (.updateAdminUser id u)))

def deleteAdminUser (id : String) : Handled (Except String Unit) := do
  return deleted "scim delete admin user" "admin user not found" (← run (.deleteAdminUser id))

def listAdminUsers (filter : String) (startIndex count : Int) :
    Handled (Except String (List SCIMUser × Nat)) := do
  match ← ask (.countAdminUsers filter) with
  | .error err => return .error ("scim list admin count: " ++ err)
  | .ok total =>
    match ← ask (.pageAdminUsers filter (pageLimit count) (pageOffset startIndex)) with
    | .error err => return .error ("scim list admin users: " ++ err)
    | .ok users => return .ok (users, total)

def createClientUser (u : SCIMUser) : Handled (Except String SCIMUser) := do
  return wrap "scim create client user"
    (← run (.insertClientUser (normalizeClientUserStatusFields u)))

def getClientUser (id : String) : Handled (Except String (Option SCIMUser)) := do
  return wrap "scim get client user" (← ask (.getClientUser id))

def updateClientUser (id : String) (u : SCIMUser) : Handled (Except String SCIMUser) := do
  match ← getClientUser id with
  | .error err => return .error err
  | .ok none => return .error "client user not found"
  | .ok (some _) =>
    return found "client user not found" (wrap "scim update client user"
      (← run (.updateClientUser id (normalizeClientUserStatusFields u))))

def deleteClientUser (id : String) : Handled (Except String Unit) := do
  return deleted "scim delete client user" "client user not found" (← run (.deleteClientUser id))

/-- An administrator lifts a suspension, but not one of the identity provider. -/
def reactivateClientUser (orgID id actorID reason : String) :
    Handled (Except String SCIMUser) := do
  match ← getClientUser id with
  | .error err => return .error err
  | .ok none => return .error "client user not found"
  | .ok (some existing) =>
    if existing.orgID ≠ orgID then return .error "client user not found"
    else if existing.status = "active" then return .ok existing
    else if existing.statusSource = "idp_policy" then
      return .error ("cannot locally reactivate an IdP policy suspension; " ++
        "reactivate the user in Okta and resync SCIM")
    else
      let reason :=
        if reason = "" then "Administrator reactivated user after verification" else reason
      return found "client user not found" (wrap "reactivate client user"
        (← run (.reactivateClientUser orgID id actorID reason)))

def listClientUsers (orgID filter : String) (startIndex count : Int) :
    Handled (Except String (List SCIMUser × Nat)) := do
  match ← ask (.countClientUsers orgID filter) with
  | .error err => return .error ("scim list client count: " ++ err)
  | .ok total =>
    match ← ask (.pageClientUsers orgID filter (pageLimit count) (pageOffset startIndex)) with
    | .error err => return .error ("scim list client users: " ++ err)
    | .ok users => return .ok (users, total)

def getGroupMembers (groupID : String) : Handled (Except String (List String)) := do
  return wrap "get group members" (← ask (.groupMembers groupID))

def withMembers (g : SCIMGroup) : Handled (Except String SCIMGroup) := do
  match ← getGroupMembers g.id with
  | .error err => return .error err
  | .ok members => return .ok { g with members := members }

def createGroup (g : SCIMGroup) : Handled (Except String SCIMGroup) := do
  return wrap "scim create group" (← run (.insertGroup g))

def getGroup (id : String) : Handled (Except String (Option SCIMGroup)) := do
  match ← ask (.getGroup id) with
  | .error err => return .error ("scim get group: " ++ err)
  | .ok none => return .ok none
  | .ok (some g) =>
    match ← withMembers g with
    | .error err => return .error err
    | .ok group => return .ok (some group)

def updateGroup (id : String) (g : SCIMGroup) : Handled (Except String SCIMGroup) := do
  match ← run (.updateGroup id g) with
  | .error err => return .error ("scim update group: " ++ err)
  | .ok none => return .error "group not found"
  | .ok (some updated) => withMembers updated

def deleteGroup (id : String) : Handled (Except String Unit) := do
  return deleted "scim delete group" "group not found" (← run (.deleteGroup id))

def membersOfAll : List SCIMGroup → Handled (Except String (List SCIMGroup))
  | [] => return .ok []
  | g :: rest => do
      match ← withMembers g with
      | .error err => return .error err
      | .ok group =>
        match ← membersOfAll rest with
        | .error err => return .error err
        | .ok groups => return .ok (group :: groups)

def listGroups (filter : String) (startIndex count : Int) :
    Handled (Except String (List SCIMGroup × Nat)) := do
  match ← ask (.countGroups filter) with
  | .error err => return .error ("scim list groups count: " ++ err)
  | .ok total =>
    match ← ask (.pageGroups filter (pageLimit count) (pageOffset startIndex)) with
    | .error err => return .error ("scim list groups: " ++ err)
    | .ok rows =>
      match ← membersOfAll rows with
      | .error err => return .error err
      | .ok groups => return .ok (groups, total)

/-- The ids split into administrators and client users of the organization; `seen` are the
ids that were looked at before. -/
def classify (orgID : String) (seen adminIDs clientIDs : List String) :
    List String → Handled (Except String (List String × List String))
  | [] => return .ok (adminIDs, clientIDs)
  | id :: rest => do
      if id = "" ∨ id ∈ seen then classify orgID seen adminIDs clientIDs rest
      else
        match ← ask (.adminUserExists id orgID) with
        | .error err => return .error ("classify admin group member: " ++ err)
        | .ok true => classify orgID (id :: seen) (adminIDs ++ [id]) clientIDs rest
        | .ok false =>
          match ← ask (.clientUserExists id orgID) with
          | .error err => return .error ("classify client group member: " ++ err)
          | .ok false =>
            return .error ("group member " ++ id ++ " was not found in this tenant")
          | .ok true => classify orgID (id :: seen) adminIDs (clientIDs ++ [id]) rest

def classifyGroupMemberIDs (orgID : String) (memberIDs : List String) :
    Handled (Except String (List String × List String)) :=
  classify orgID [] [] [] memberIDs

def setGroupMembers (groupID : String) (adminIDs clientIDs : List String) :
    Handled (Except String Unit) :=
  run (.setGroupMembers groupID adminIDs clientIDs)

def validateSCIMToken (env : Env) (token : String) : Handled (Except String String) := do
  return found "invalid SCIM bearer token"
    (wrap "scim token validation" (← ask (.validateSCIMToken (env.hashSCIMToken token))))

end SCIMStore

structure ListParams where
  filter : String := ""
  startIndex : Int := 1
  count : Int := 100

/-- The value of a filter such as `userName eq "…"`, or the filter itself. -/
def ListParams.parsedFilter (params : ListParams) : String :=
  match afterFirst " eq ".toList params.filter.toList with
  | some value => trim (String.ofList value) ['"', '\'', ' ']
  | none => params.filter

inductive Call where
  | serviceProviderConfig
  | schemas
  | resourceTypes
  | listAdminUsers (params : ListParams)
  | createAdminUser (body : Option ScimUserRequest)
  | getAdminUser (id : String)
  | updateAdminUser (id : String) (body : Option ScimUserRequest)
  | patchAdminUser (id : String) (body : Option (List PatchOperation))
  | deleteAdminUser (id : String)
  | listClientUsers (params : ListParams)
  | createClientUser (body : Option ScimUserRequest)
  | getClientUser (id : String)
  | updateClientUser (id : String) (body : Option ScimUserRequest)
  | patchClientUser (id : String) (body : Option (List PatchOperation))
  | deleteClientUser (id : String)
  | listGroups (params : ListParams)
  | createGroup (body : Option ScimGroupRequest)
  | getGroup (id : String)
  | updateGroup (id : String) (body : Option ScimGroupRequest)
  | patchGroup (id : String) (body : Option (List PatchOperation))
  | deleteGroup (id : String)

/-- Where a request came in: over TLS or not, and under which host. -/
structure Origin where
  tls : Bool
  host : String

structure Request where
  authorization : String
  origin : Origin
  call : Call

structure UserResource where
  id : String
  externalID : String
  userName : String
  formatted : String
  active : Bool
  department : Option String
  title : Option String
  location : String
  created : Option Time
  lastModified : Option Time

structure GroupResource where
  id : String
  externalID : String
  displayName : String
  members : List String
  location : String
  created : Option Time
  lastModified : Option Time

structure ListResponse (Resource : Type) where
  totalResults : Nat
  startIndex : Int
  itemsPerPage : Int
  resources : List Resource

/-- The documents about the service are the same for everyone and stand for themselves. -/
inductive Reply where
  | error (status : Nat) (detail : String)
  | document (call : Call)
  | adminUser (status : Nat) (resource : UserResource)
  | adminUsers (response : ListResponse UserResource)
  | user (status : Nat) (resource : UserResource)
  | users (response : ListResponse UserResource)
  | group (status : Nat) (resource : GroupResource)
  | groups (response : ListResponse GroupResource)
  | noContent

def scimLocation (origin : Origin) (resourceType id : String) : String :=
  (if origin.tls then "https" else "http") ++ "://" ++ origin.host ++ "/scim/v2/" ++ resourceType ++
    "/" ++ id

def adminUserToSCIM (origin : Origin) (u : SCIMUser) : UserResource where
  id := u.id
  externalID := u.scimExternalID
  userName := u.email
  formatted := u.name
  active := u.status = "active"
  department := none
  title := none
  location := scimLocation origin "AdminUsers" u.id
  created := u.createdAt
  lastModified := u.updatedAt

def clientUserToSCIM (origin : Origin) (u : SCIMUser) : UserResource where
  id := u.id
  externalID := u.scimExternalID
  userName := u.email
  formatted := u.name
  active := u.status = "active"
  department := nilIfEmpty u.department
  title := nilIfEmpty u.title
  location := scimLocation origin "Users" u.id
  created := u.createdAt
  lastModified := u.updatedAt

def groupToSCIM (origin : Origin) (g : SCIMGroup) : GroupResource where
  id := g.id
  externalID := g.externalID
  displayName := g.displayName
  members := g.members
  location := scimLocation origin "Groups" g.id
  created := g.createdAt
  lastModified := g.updatedAt

/-! ## The handlers -/

namespace SCIMHandler

def invalidBody : Reply := .error 400 "invalid SCIM request body"

def invalidPatch : Reply := .error 400 "invalid SCIM PatchOp request body"

def answer {α : Type} (status : Nat) (reply : α → Reply) : Except String α → Reply
  | .ok a => reply a
  | .error err => .error status err

def answerFound {α : Type} (missing : String) (reply : α → Reply) :
    Except String (Option α) → Reply
  | .ok (some a) => reply a
  | _ => .error 404 missing

section
variable (orgID : String) (origin : Origin)

def listAdminUsers (params : ListParams) : Handled Reply := do
  return answer 500
    (fun listed : List SCIMUser × Nat => .adminUsers
      ⟨listed.2, params.startIndex, params.count, listed.1.map (adminUserToSCIM origin)⟩)
    (← SCIMStore.listAdminUsers params.parsedFilter params.startIndex params.count)

def createAdminUser (body : Option ScimUserRequest) : Handled Reply := do
  let some req := body | return invalidBody
  return answer 409 (fun u => .adminUser 201 (adminUserToSCIM origin u))
    (← SCIMStore.createAdminUser (requestedAdminUser orgID req))

def getAdminUser (id : String) : Handled Reply := do
  return answerFound "Admin user not found" (fun u => .adminUser 200 (adminUserToSCIM origin u))
    (← SCIMStore.getAdminUser id)

def updateAdminUser (id : String) (body : Option ScimUserRequest) : Handled Reply := do
  let some req := body | return invalidBody
  return answer 404 (fun u => .adminUser 200 (adminUserToSCIM origin u))
    (← SCIMStore.updateAdminUser id (requestedAdminUser "" req))

def patchAdminUser (id : String) (body : Option (List PatchOperation)) : Handled Reply := do
  let some operations := body | return invalidPatch
  let .ok (some user) ← SCIMStore.getAdminUser id | return .error 404 "User not found"
  match operations.foldlM applyUserPatch user with
  | .error err => return .error 400 err
  | .ok patched =>
    return answer 400 (fun u => .adminUser 200 (adminUserToSCIM origin u))
      (← SCIMStore.updateAdminUser user.id patched)

def deleteAdminUser (id : String) : Handled Reply := do
  return answer 404 (fun _ => .noContent) (← SCIMStore.deleteAdminUser id)

def listClientUsers (params : ListParams) : Handled Reply := do
  return answer 500
    (fun listed : List SCIMUser × Nat => .users
      ⟨listed.2, params.startIndex, params.count, listed.1.map (clientUserToSCIM origin)⟩)
    (← SCIMStore.listClientUsers orgID params.parsedFilter params.startIndex params.count)

def createClientUser (body : Option ScimUserRequest) : Handled Reply := do
  let some req := body | return invalidBody
  return answer 409 (fun u => .user 201 (clientUserToSCIM origin u))
    (← SCIMStore.createClientUser (requestedClientUser orgID req))

def getClientUser (id : String) : Handled Reply := do
  return answerFound "User not found" (fun u => .user 200 (clientUserToSCIM origin u))
    (← SCIMStore.getClientUser id)

def updateClientUser (id : String) (body : Option ScimUserRequest) : Handled Reply := do
  let some req := body | return invalidBody
  return answer 404 (fun u => .user 200 (clientUserToSCIM origin u))
    (← SCIMStore.updateClientUser id (requestedClientUser "" req))

def patchClientUser (id : String) (body : Option (List PatchOperation)) : Handled Reply := do
  let some operations := body | return invalidPatch
  let .ok (some user) ← SCIMStore.getClientUser id | return .error 404 "User not found"
  match operations.foldlM applyUserPatch user with
  | .error err => return .error 400 err
  | .ok patched =>
    return answer 400 (fun u => .user 200 (clientUserToSCIM origin u))
      (← SCIMStore.updateClientUser user.id patched)

def deleteClientUser (id : String) : Handled Reply := do
  return answer 404 (fun _ => .noContent) (← SCIMStore.deleteClientUser id)

def listGroups (params : ListParams) : Handled Reply := do
  return answer 500
    (fun listed : List SCIMGroup × Nat => .groups
      ⟨listed.2, params.startIndex, params.count, listed.1.map (groupToSCIM origin)⟩)
    (← SCIMStore.listGroups params.parsedFilter params.startIndex params.count)

/-- The members are stored, and the reply shows the list of the request. -/
def storeMembers (status : Nat) (g : SCIMGroup) (classified : List String × List String)
    (members : List String) : Handled Reply := do
  return answer 400 (fun _ => .group status (groupToSCIM origin { g with members := members }))
    (← SCIMStore.setGroupMembers g.id classified.1 classified.2)

def createGroup (body : Option ScimGroupRequest) : Handled Reply := do
  let some req := body | return invalidBody
  let members := req.members.getD []
  match ← SCIMStore.classifyGroupMemberIDs orgID members with
  | .error err => return .error 400 err
  | .ok classified =>
    match ← SCIMStore.createGroup
      { orgID := orgID
        displayName := req.displayName
        externalID := req.externalID
        source := "scim" } with
    | .error err => return .error 409 err
    | .ok created =>
      if members = [] then return .group 201 (groupToSCIM origin created)
      else storeMembers origin 201 created classified members

def getGroup (id : String) : Handled Reply := do
  return answerFound "Group not found" (fun g => .group 200 (groupToSCIM origin g))
    (← SCIMStore.getGroup id)

def updateGroup (id : String) (body : Option ScimGroupRequest) : Handled Reply := do
  let some req := body | return invalidBody
  let .ok (some existing) ← SCIMStore.getGroup id | return .error 404 "Group not found"
  match ← SCIMStore.classifyGroupMemberIDs existing.orgID (req.members.getD []) with
  | .error err => return .error 400 err
  | .ok classified =>
    match ← SCIMStore.updateGroup id
      { displayName := req.displayName, externalID := req.externalID } with
    | .error err => return .error 404 err
    | .ok updated =>
      match req.members with
      | none => return .group 200 (groupToSCIM origin updated)
      | some members => storeMembers origin 200 updated classified members

def patchGroup (id : String) (body : Option (List PatchOperation)) : Handled Reply := do
  let some operations := body | return invalidPatch
  let .ok (some group) ← SCIMStore.getGroup id | return .error 404 "Group not found"
  match operations.foldlM applyGroupPatch ⟨group.displayName, group.members⟩ with
  | .error err => return .error 400 err
  | .ok draft =>
    match ← SCIMStore.classifyGroupMemberIDs group.orgID draft.members with
    | .error err => return .error 400 err
    | .ok classified =>
      match ← SCIMStore.updateGroup group.id { group with displayName := draft.displayName } with
      | .error err => return .error 400 err
      | .ok updated =>
        return answer 400
          (fun _ => .group 200 (groupToSCIM origin { updated with members := draft.members }))
          (← SCIMStore.setGroupMembers group.id classified.1 classified.2)

def deleteGroup (id : String) : Handled Reply := do
  return answer 404 (fun _ => .noContent) (← SCIMStore.deleteGroup id)

/-- The routes under `/scim/v2` of `cmd/server/main.go`. -/
def route : Call → Handled Reply
  | .listAdminUsers params => listAdminUsers origin params
  | .createAdminUser body => createAdminUser orgID origin body
  | .getAdminUser id => getAdminUser origin id
  | .updateAdminUser id body => updateAdminUser origin id body
  | .patchAdminUser id body => patchAdminUser origin id body
  | .deleteAdminUser id => deleteAdminUser id
  | .listClientUsers params => listClientUsers orgID origin params
  | .createClientUser body => createClientUser orgID origin body
  | .getClientUser id => getClientUser origin id
  | .updateClientUser id body => updateClientUser origin id body
  | .patchClientUser id body => patchClientUser origin id body
  | .deleteClientUser id => deleteClientUser id
  | .listGroups params => listGroups origin params
  | .createGroup body => createGroup orgID origin body
  | .getGroup id => getGroup origin id
  | .updateGroup id body => updateGroup origin id body
  | .patchGroup id body => patchGroup origin id body
  | .deleteGroup id => deleteGroup id
  | call => return .document call

end

end SCIMHandler

def bearerPrefix : String := "Bearer "

/-- `SCIMAuth` in front of the routes. -/
def scim (env : Env) (request : Request) : Handled Reply := do
  if ¬ hasPrefix request.authorization bearerPrefix then return .error 401 "Bearer token required"
  else
    match ← SCIMStore.validateSCIMToken env (trimPrefix request.authorization bearerPrefix) with
    | .error _ => return .error 401 "Invalid SCIM bearer token"
    | .ok orgID => SCIMHandler.route orgID request.origin request.call

end ManagementPlane.Directory
