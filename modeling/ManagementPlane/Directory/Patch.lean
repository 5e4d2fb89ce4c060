import ManagementPlane.Directory.Tables

/-!
# SCIM request bodies

The bodies of `internal/api/handlers/scim_handler.go` and what its PATCH operations do to a
record. The members of a JSON object stand in the order in which Go's loop over the decoded
map visits them, which is any order; of a repeated key the last occurrence counts.
-/

namespace ManagementPlane.Directory

open GoJson GoStrings

structure ScimName where
  formatted : String := ""
  givenName : String := ""
  familyName : String := ""

structure ScimAttr where
  value : String := ""
  type : String := ""
  primary : Bool := false

structure ScimUserRequest where
  externalID : String := ""
  userName : String := ""
  active : Option Bool := none
  name : ScimName := {}
  emails : List ScimAttr := []
  department : String := ""
  title : String := ""

/-- The members are their values; a missing list is not an empty one. -/
structure ScimGroupRequest where
  externalID : String := ""
  displayName : String := ""
  members : Option (List String) := none

structure PatchOperation where
  op : String := ""
  path : String := ""
  value : Option Json := none

def scimEmail (req : ScimUserRequest) : String :=
  match req.emails.find? fun e => e.primary || e.type = "work" with
  | some e => e.value
  | none => (req.emails.head?.map ScimAttr.value).getD req.userName

def scimDisplayName (req : ScimUserRequest) : String :=
  if req.name.formatted ≠ "" then req.name.formatted
  else
    let joined := trimSpace (req.name.givenName ++ " " ++ req.name.familyName)
    if joined ≠ "" then joined else req.userName

def scimActiveToStatus (active : Option Bool) : String :=
  if active.getD true then "active" else "suspended"

def activeReason : String := "SCIM active=true from identity provider"

def inactiveReason : String := "SCIM active=false from identity provider"

/-- A missing `active` attribute counts as true. -/
def setSCIMUserStatusMetadata (user : SCIMUser) (active : Option Bool) : SCIMUser :=
  { user with
    statusUpdatedBy := "scim"
    statusSource := if active.getD true then "scim" else "idp_policy"
    statusReason := if active.getD true then activeReason else inactiveReason }

/-- The record of a request that creates or replaces an admin user. -/
def requestedAdminUser (orgID : String) (req : ScimUserRequest) : SCIMUser :=
  setSCIMUserStatusMetadata
    { orgID := orgID
      email := scimEmail req
      name := scimDisplayName req
      status := scimActiveToStatus req.active
      scimExternalID := req.externalID }
    req.active

/-- The record of a request that creates or replaces a client user. -/
def requestedClientUser (orgID : String) (req : ScimUserRequest) : SCIMUser :=
  setSCIMUserStatusMetadata
    { orgID := orgID
      email := scimEmail req
      name := scimDisplayName req
      department := req.department
      title := req.title
      status := scimActiveToStatus req.active
      scimExternalID := req.externalID }
    req.active

def normalizeClientUserStatusFields (u : SCIMUser) : SCIMUser :=
  let status := if u.status = "" then "active" else u.status
  { u with
    status := status
    statusSource := if u.statusSource = "" then "scim" else u.statusSource
    statusReason :=
      if u.statusReason ≠ "" then u.statusReason
      else if status = "suspended" then inactiveReason
      else activeReason
    statusUpdatedBy := if u.statusUpdatedBy = "" then "scim" else u.statusUpdatedBy }

def decodeName : Json → Option ScimName :=
  decodeStruct fun fields => do
    return {
      formatted := ← stringField "formatted" fields
      givenName := ← stringField "givenName" fields
      familyName := ← stringField "familyName" fields }

def decodeAttr : Json → Option ScimAttr :=
  decodeStruct fun fields => do
    return {
      value := ← stringField "value" fields
      type := ← stringField "type" fields
      primary := ← boolField "primary" fields }

def patchString (value : Option Json) : Option String :=
  (value.bind decodeString).map trimSpace

def requireText (value : Option Json) (message : String) : Except String String :=
  match patchString value with
  | some text => if text = "" then .error message else .ok text
  | none => .error message

def requireString (value : Option Json) (message : String) : Except String String :=
  match patchString value with
  | some text => .ok text
  | none => .error message

def removeUserField (path : String) (user : SCIMUser) : Except String SCIMUser :=
  match path with
  | "department" => .ok { user with department := "" }
  | "title" => .ok { user with title := "" }
  | "externalid" => .ok { user with scimExternalID := "" }
  | _ => .error "unsupported user remove patch path"

def setUserField (path : String) (value : Option Json) (user : SCIMUser) :
    Except String SCIMUser :=
  match path with
  | "active" =>
    match value.bind decodeBool with
    | none => .error "active patch value must be a boolean"
    | some active =>
      .ok (setSCIMUserStatusMetadata
        { user with status := scimActiveToStatus (some active) } (some active))
  | "username" => do
      let text ← requireText value "userName patch value must be a non-empty string"
      return { user with email := text }
  | "displayname" | "name.formatted" => do
      let text ← requireText value "name patch value must be a non-empty string"
      return { user with name := text }
  | "name" =>
    match value.bind decodeName with
    | none => .error "name patch value must be an object"
    | some name =>
      .ok { user with name := scimDisplayName { name := name, userName := user.email } }
  | "emails" =>
    match value.bind (decodeSlice decodeAttr) with
    | none => .error "emails patch value must be an array"
    | some emails =>
      .ok { user with email := scimEmail { emails := emails, userName := user.email } }
  | "emails[type eq \"work\"].value" | "emails[type eq \"work\"]" => do
      let text ← requireText value "work email patch value must be a non-empty string"
      return { user with email := text }
  | "department" => do
      let text ← requireString value "department patch value must be a string"
      return { user with department := text }
  | "title" => do
      let text ← requireString value "title patch value must be a string"
      return { user with title := text }
  | "externalid" => do
      let text ← requireString value "externalId patch value must be a string"
      return { user with scimExternalID := text }
  | _ => .error "unsupported user patch path"

def patchUserField (op path : String) (value : Option Json) (user : SCIMUser) :
    Except String SCIMUser :=
  if op = "remove" then removeUserField path user else setUserField path value user

def patchPath (path : String) : String := toLower (trimSpace path)

mutual

/-- An operation under a path with a value; an empty path applies every member of an object. -/
def patchUserValue (op path : String) : Json → SCIMUser → Except String SCIMUser
  | .obj fields, user =>
    if patchPath path = "" then patchUserFields op fields user
    else patchUserField op (patchPath path) (some (.obj fields)) user
  | .null, user =>
    if patchPath path = "" then .ok user
    else patchUserField op (patchPath path) (some .null) user
  | .bool value, user =>
    if patchPath path = "" then .error "pathless user patch value must be an object"
    else patchUserField op (patchPath path) (some (.bool value)) user
  | .num literal, user =>
    if patchPath path = "" then .error "pathless user patch value must be an object"
    else patchUserField op (patchPath path) (some (.num literal)) user
  | .str value, user =>
    if patchPath path = "" then .error "pathless user patch value must be an object"
    else patchUserField op (patchPath path) (some (.str value)) user
  | .arr items, user =>
    if patchPath path = "" then .error "pathless user patch value must be an object"
    else patchUserField op (patchPath path) (some (.arr items)) user

def patchUserFields (op : String) : List (String × Json) → SCIMUser → Except String SCIMUser
  | [], user => .ok user
  | (key, raw) :: rest, user =>
    if rest.any fun other => other.1 = key then patchUserFields op rest user
    else
      match patchUserValue op key raw user with
      | .error err => .error err
      | .ok patched => patchUserFields op rest patched

end

def applyUserPatch (user : SCIMUser) (operation : PatchOperation) : Except String SCIMUser :=
  let op := toLower (trimSpace operation.op)
  if op ≠ "add" ∧ op ≠ "replace" ∧ op ≠ "remove" then .error "unsupported user patch operation"
  else
    match operation.value with
    | some value => patchUserValue op operation.path value user
    | none =>
      if patchPath operation.path = "" then .error "pathless user patch value must be an object"
      else patchUserField op (patchPath operation.path) none user

def decodeMember : Json → Option String :=
  decodeStruct fun fields => do
    let value ← stringField "value" fields
    let _ ← stringField "display" fields
    let _ ← stringField "$type" fields
    return value

def patchMembers (value : Option Json) : Except String (List String) :=
  match (value.bind (decodeSlice decodeMember)).or ((value.bind decodeMember).map fun id => [id]) with
  | none => .error "members patch value must be an array or member object"
  | some ids =>
    if ids.any fun id => trimSpace id = "" then
      .error "member value must be a non-empty user ID"
    else .ok ids

def appendUnique (existing values : List String) : List String :=
  (existing ++ values).foldl
    (fun result value => if value ≠ "" ∧ value ∉ result then result ++ [value] else result) []

def removeValues (existing values : List String) : List String :=
  existing.filter fun value => value ∉ values

def isRegexSpace (c : Char) : Bool :=
  c = ' ' || c = '\t' || c = '\n' || c = '\r' || c.toNat = 12

def afterFold (start : String) (text : List Char) : Option (List Char) :=
  if (text.take start.toList.length).map foldChar = start.toList.map foldChar then
    some (text.drop start.toList.length)
  else none

def afterSpaces (text : List Char) : Option (List Char) :=
  if (text.takeWhile isRegexSpace) = [] then none else some (text.dropWhile isRegexSpace)

/-- The value of a path `members[value eq "…"]`, or nothing. -/
def memberPathValue (path : String) : String :=
  let value := do
    let rest ← afterFold "members[value" (trimSpace path).toList
    let rest ← afterSpaces rest
    let rest ← afterFold "eq" rest
    let rest ← afterSpaces rest
    let rest ← afterFold "\"" rest
    let value := rest.takeWhile (· ≠ '"')
    if value ≠ [] ∧ rest.dropWhile (· ≠ '"') = ['"', ']'] then some (String.ofList value) else none
  value.getD ""

def displayNameMessage : String := "displayName patch value must be a non-empty string"

/-- A group under change: its name and its members. -/
structure GroupDraft where
  displayName : String
  members : List String

def patchMemberList (op : String) (values members : List String) : Except String (List String) :=
  match op with
  | "add" => .ok (appendUnique members values)
  | "remove" => .ok (removeValues members values)
  | "replace" => .ok values
  | _ => .error "unsupported group members patch operation"

def applyGroupPatch (draft : GroupDraft) (operation : PatchOperation) : Except String GroupDraft :=
  let op := toLower (trimSpace operation.op)
  let path := trimSpace operation.path
  if equalFold path "displayName" then do
    let name ← requireText operation.value displayNameMessage
    return { draft with displayName := name }
  else if equalFold path "members" then do
    let values ← patchMembers operation.value
    let members ← patchMemberList op values draft.members
    return { draft with members := members }
  else if memberPathValue path ≠ "" then
    if op ≠ "remove" then .error "filtered members patch only supports remove"
    else .ok { draft with members := removeValues draft.members [memberPathValue path] }
  else if path = "" then do
    let value : Json ←
      match operation.value with
      | some (.obj fields) => .ok (.obj fields)
      | some .null => .ok .null
      | _ => .error "pathless group patch value must be an object"
    let named ←
      match value.field "displayName" with
      | none => .ok draft
      | some raw => do
          let name ← requireText (some raw) displayNameMessage
          pure { draft with displayName := name }
    match value.field "members" with
    | none => return named
    | some raw => do
        let values ← patchMembers (some raw)
        return { named with members := if op = "add" then appendUnique named.members values else values }
  else .error "unsupported group patch path"

end ManagementPlane.Directory
