import ManagementPlane.Sso.Store

/-!
# The SSO callback

`SSOHandler.Callback` of `internal/api/handlers/sso_handler.go`, with the methods of
`internal/db/auth_store.go` and `internal/db/scim_store.go` that it calls, as programs over
the operations of the stores. What the identity provider answers, and whether its ID
token verifies, is up to the choice of the operation.
-/

namespace ManagementPlane.Sso

open GoJson Interleave Jwt Policy Tables

abbrev Handled := Prog Op Op.Ans

namespace db

abbrev findLinkedUser (provider subject : String) : Handled (Except String AuthUser) :=
  perform (Op.findLinkedUser provider subject)
abbrev findUserByEmail (email : String) : Handled (Except String AuthUser) :=
  perform (Op.findUserByEmail email)
abbrev touchUser (id : String) : Handled (Except String Unit) := perform (Op.touchUser id)
abbrev linkUser (id provider subject : String) : Handled (Except String Unit) :=
  perform (Op.linkUser id provider subject)
abbrev firstOrganization : Handled (Except String String) := perform Op.firstOrganization
abbrev insertUser (orgID email name provider subject : String) : Handled (Except String String) :=
  perform (Op.insertUser orgID email name provider subject)
abbrev findProvisionedClientUser (provider subject email orgID : String) :
    Handled (Except String (Option SCIMUser)) :=
  perform (Op.findProvisionedClientUser provider subject email orgID)
abbrev touchClientUser (id : String) : Handled (Except String Unit) :=
  perform (Op.touchClientUser id)
abbrev linkClientUser (id provider subject : String) : Handled (Except String Unit) :=
  perform (Op.linkClientUser id provider subject)
abbrev insertSession (session : Session) : Handled (Except String Unit) :=
  perform (Op.insertSession session)

end db

abbrev timeNow : Handled Time := perform Op.now
abbrev takePending (state : String) : Handled (Option PendingAuth) := perform (Op.takePending state)
abbrev getIdP (id : String) : Handled (Option IdPConfig) := perform (Op.getIdP id)
abbrev exchangeCode (idp : IdPConfig) (tokenEndpoint code redirectURI : String) :
    Handled (Except String String) :=
  perform (Op.exchangeCode idp tokenEndpoint code redirectURI)
abbrev validateOIDCToken (idp : IdPConfig) (idToken : String) : Handled (Except String MapClaims) :=
  perform (Op.validateOIDCToken idp idToken)
abbrev signedString (claims : MapClaims) : Handled (Except String (Signed MapClaims)) :=
  perform (Op.sign claims)
abbrev randomToken : Handled (Except String String) := perform Op.generateToken

structure CallbackRequest where
  code : String
  state : String
  clientIP : String := ""
  userAgent : String := ""

inductive Reply where
  | failed (status : Nat) (error : String)
  | suspended (statusSource statusReason : String)
  | tokens (accessToken : Signed MapClaims) (refreshToken : String) (expiresIn : Int)
      (user : AuthUser)
  | portal (accessToken : Signed MapClaims) (expiresIn : Int) (user : SCIMUser)

def Reply.accessToken : Reply → Option (Signed MapClaims)
  | .tokens accessToken _ _ _ => some accessToken
  | .portal accessToken _ _ => some accessToken
  | _ => none

def claimStr (claims : MapClaims) (key : String) : String :=
  ((claims key).bind Json.asString).getD ""

def claimOr (claims : MapClaims) (key other : String) : String :=
  if claimStr claims key = "" then claimStr claims other else claimStr claims key

def accessTokenClaims (u : AuthUser) (now : Time) : MapClaims :=
  MapClaims.ofList
    [("sub", .str u.id), ("email", .str u.email), ("name", .str u.name), ("role", .str u.role),
      ("org_id", .str u.orgID), ("iat", .num (toString (unix now))),
      ("exp", .num (toString (unix (now + 15 * minute)))),
      ("iss", .str "apexaegis-management-plane")]

def portalTokenClaims (u : SCIMUser) (now : Time) : MapClaims :=
  MapClaims.ofList
    [("sub", .str u.id), ("email", .str u.email), ("name", .str u.name),
      ("role", .str "client_user"), ("aud", .str "apexaegis-user-portal"),
      ("org_id", .str u.orgID), ("iat", .num (toString (unix now))),
      ("exp", .num (toString (unix (now + 15 * minute)))),
      ("iss", .str "apexaegis-management-plane")]

def generateAccessToken (u : AuthUser) : Handled (Except String (Signed MapClaims)) := do
  let now ← timeNow
  signedString (accessTokenClaims u now)

def generateRefreshToken (userID ipAddr userAgent : String) : Handled (Except String String) := do
  match ← randomToken with
  | .error err => return .error err
  | .ok token =>
    let now ← timeNow
    match ← db.insertSession
      { userID := userID
        refreshToken := token
        ipAddress := ipAddr
        userAgent := userAgent
        expiresAt := now + 7 * 24 * 60 * minute } with
    | .error err => return .error err
    | .ok _ => return .ok token

def issueTokens (u : AuthUser) (ipAddr userAgent : String) : Handled (Except String Reply) := do
  let .ok accessToken ← generateAccessToken u | return .error "token generation failed"
  let .ok refreshToken ← generateRefreshToken u.id ipAddr userAgent
    | return .error "session creation failed"
  return .ok (.tokens accessToken refreshToken 900 u)

def issuePortalToken (u : SCIMUser) : Handled (Except String Reply) := do
  let now ← timeNow
  let .ok signed ← signedString (portalTokenClaims u now)
    | return .error "token generation failed"
  return .ok (.portal signed 900 u)

def resolveOrgID (orgID : String) : Handled String := do
  if orgID ≠ "" then return orgID
  match ← db.firstOrganization with
  | .ok first => return first
  | .error _ => return ""

def autoProvisionUser (provider subject email name orgID : String) :
    Handled (Except String (AuthUser × Bool)) := do
  let resolvedOrgID ← resolveOrgID orgID
  if resolvedOrgID = "" then return .error "no organization found for auto-provisioning"
  match ← db.insertUser resolvedOrgID email name provider subject with
  | .error err => return .error ("auto-provision failed: " ++ err)
  | .ok newID =>
    -- the status of the new user is left empty
    return .ok
      ({ id := newID, orgID := resolvedOrgID, email := email, name := name, role := "read_only" },
        true)

def findOrCreateOAuthUser (provider subject email name orgID : String) (autoProvision : Bool) :
    Handled (Except String (AuthUser × Bool)) := do
  match ← db.findLinkedUser provider subject with
  | .ok u =>
    let _ ← db.touchUser u.id
    return .ok (u, false)
  | .error _ =>
    match ← db.findUserByEmail email with
    | .ok u =>
      let _ ← db.linkUser u.id provider subject
      return .ok (u, false)
    | .error _ =>
      if !autoProvision then
        return .error "user not found and auto-provisioning is disabled"
      autoProvisionUser provider subject email name orgID

def findAndLinkProvisionedClientUser (provider subject email orgID : String) :
    Handled (Except String SCIMUser) := do
  match ← db.findProvisionedClientUser provider subject email orgID with
  | .error err => return .error ("find provisioned client user: " ++ err)
  | .ok none => return .error "user is not provisioned for the ApexAegis user portal"
  | .ok (some u) =>
    if u.oauthProvider ≠ provider ∨ u.oauthSubject ≠ subject then
      match ← db.linkClientUser u.id provider subject with
      | .error err => return .error ("link provisioned client user: " ++ err)
      | .ok _ => return .ok { u with oauthProvider := provider, oauthSubject := subject }
    let _ ← db.touchClientUser u.id
    return .ok u

def resolveTokenEndpoint (idp : IdPConfig) : String :=
  if idp.tokenEndpoint ≠ "" then idp.tokenEndpoint else idp.issuerURL ++ "/v1/token"

variable (env : Env)

/-- The end of the callback for the portal and the desktop client. -/
def portalLogin (idp : IdPConfig) (subject email : String) : Handled Reply := do
  if !env.hasSCIM then return .failed 500 "user portal authentication is unavailable"
  match ← findAndLinkProvisionedClientUser idp.providerType subject email idp.orgID with
  | .error err => return .failed 403 err
  | .ok user =>
    if user.status ≠ "active" then return .suspended user.statusSource user.statusReason
    match ← issuePortalToken user with
    | .error _ => return .failed 500 "token issuance failed"
    | .ok result => return result

def issueIfActive (req : CallbackRequest) (user : AuthUser) : Handled Reply := do
  if user.status ≠ "active" then return .failed 403 "account is suspended"
  match ← issueTokens user req.clientIP req.userAgent with
  | .error _ => return .failed 500 "token issuance failed"
  | .ok result => return result

def administratorLogin (req : CallbackRequest) (idp : IdPConfig) (subject email name : String) :
    Handled Reply := do
  match ← findOrCreateOAuthUser idp.providerType subject email name idp.orgID idp.scimEnabled with
  | .error err => return .failed 403 err
  | .ok (user, _) => issueIfActive req user

def callback (req : CallbackRequest) : Handled Reply := do
  if req.code = "" ∨ req.state = "" then return .failed 400 "code and state are required"
  let some pending ← takePending req.state
    | return .failed 400 "invalid or expired state parameter"
  let now ← timeNow
  if 10 * minute < now - pending.createdAt then return .failed 400 "authorization state expired"
  let some idp ← getIdP pending.idpID
    | return .failed 400 "identity provider not available"
  if !idp.enabled then return .failed 400 "identity provider not available"
  let .ok idToken ←
      exchangeCode idp (resolveTokenEndpoint idp) req.code pending.callbackURI
    | return .failed 401 "token exchange failed"
  let .ok claims ← validateOIDCToken idp idToken
    | return .failed 401 "token validation failed"
  let email := claimOr claims "email" "preferred_username"
  let name := claimOr claims "name" "preferred_username"
  let subject := claimStr claims "sub"
  if subject = "" ∨ email = "" then
    return .failed 401 "ID token missing required claims (sub, email)"
  if pending.audience = "user_portal" ∨ pending.audience = "desktop" then
    portalLogin env idp subject email
  else administratorLogin req idp subject email name

end ManagementPlane.Sso
