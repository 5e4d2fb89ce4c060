import ManagementPlane.Devices.Agent
import ManagementPlane.Sso.Handler

/-!
# Guards of the administrative API

`JWTAuth` and `RequireWriteAccess` of `internal/api/middleware/auth.go`, which stand one
behind the other on the administrative routes. Every kind of token is signed with one
secret and validated by one function, and reading methods pass the second guard with any
role: the tokens of portal users and of agents read what they may not write.
-/

namespace ManagementPlane.Middleware

open GoJson GoStrings Jwt
open Policy (Time)

structure Request where
  method : String
  header : String → String

/-- The values that the guards leave in the context of a request. -/
structure Context where
  userID : String := ""
  userOrgID : String := ""
  orgID : String := ""
  role : String := ""
  email : String := ""
  scopedTenant : String := ""

def bearerPrefix : String := "Bearer "

section
variable (lib : Library) (jwtSecret : String) (now : Int) (request : Request)

def validateAccessToken (token : String) : Except String MapClaims :=
  match lib.decode token with
  | .malformed err _ => .error err
  | .decoded .hmac _ =>
    match parse lib (fun _ => jwtSecret) now token with
    | .failed err _ => .error err
    | .valid claims => .ok claims
  | .decoded _ _ => .error "unexpected signing method"

def textClaim (claims : MapClaims) (key : String) : String :=
  ((claims key).bind Json.asString).getD ""

def claimsContext (claims : MapClaims) : Context where
  userID := textClaim claims "sub"
  userOrgID := textClaim claims "org_id"
  orgID := textClaim claims "org_id"
  role := textClaim claims "role"
  email := textClaim claims "email"

def scopeTenant (context : Context) : Context :=
  let scope := trimSpace (request.header "X-Scope-Tenant-ID")
  if scope ≠ "" ∧ context.role = "super_admin" then
    { context with orgID := scope, userOrgID := scope, scopedTenant := scope }
  else context

def jwtAuth : Except Nat Context :=
  let auth := request.header "Authorization"
  if hasPrefix auth bearerPrefix then
    match validateAccessToken lib jwtSecret now (trimPrefix auth bearerPrefix) with
    | .error _ => .error 401
    | .ok claims => .ok (scopeTenant request (claimsContext claims))
  else .error 401

def readingMethods : List String := ["GET", "HEAD", "OPTIONS"]

def writingRoles : List String := ["super_admin", "org_admin", "security_admin"]

def requireWriteAccess (context : Context) : Except Nat Context :=
  if request.method ∈ readingMethods then .ok context
  else if trimSpace context.role ∈ writingRoles then .ok context
  else .error 403

def adminGuards : Except Nat Context :=
  match jwtAuth lib jwtSecret now request with
  | .error status => .error status
  | .ok context => requireWriteAccess request context

end

/-- The claims of a portal token and of an agent token. -/
inductive OtherKind : MapClaims → Prop where
  | portal (u : Sso.SCIMUser) (issued : Time) : OtherKind (Sso.portalTokenClaims u issued)
  | agent (orgID deviceID fingerprint serial : String) (groups : List String)
      (domain : Devices.AgentTokenDomain) (issued : Time) :
      OtherKind (Devices.agentTokenClaims orgID deviceID fingerprint serial groups domain issued)

/-- The text of a token that the management plane signs for the claims. -/
def Minted (lib : Library) (jwtSecret : String) (claims : MapClaims) (token : String) : Prop :=
  lib.decode token = .decoded .hmac claims ∧ lib.hmacError jwtSecret token = none

theorem role_agentTokenClaims (orgID deviceID fingerprint serial : String) (groups : List String)
    (domain : Devices.AgentTokenDomain) (issued : Time) :
    Devices.agentTokenClaims orgID deviceID fingerprint serial groups domain issued "role" =
      some (.str "agent") := by
  unfold Devices.agentTokenClaims
  split_ifs <;> simp [MapClaims.set, MapClaims.ofList]

theorem OtherKind.role {claims : MapClaims} (kind : OtherKind claims) :
    textClaim claims "role" = "client_user" ∨ textClaim claims "role" = "agent" := by
  cases kind with
  | portal u issued => exact .inl rfl
  | agent orgID deviceID fingerprint serial groups domain issued =>
    right
    rw [textClaim, role_agentTokenClaims]
    rfl

section
variable {lib : Library} {jwtSecret token : String} {claims : MapClaims} {now : Int}

theorem validateAccessToken_minted (minted : Minted lib jwtSecret claims token) :
    validateAccessToken lib jwtSecret now token = match lib.claimsError claims now with
      | some err => .error err
      | none => .ok claims := by
  unfold validateAccessToken
  simp [minted.1, parse, signatureError, minted.2]
  grind

theorem jwtAuth_minted (minted : Minted lib jwtSecret claims token) {request : Request}
    (carries : request.header "Authorization" = bearerPrefix ++ token) :
    jwtAuth lib jwtSecret now request = match lib.claimsError claims now with
      | some _ => .error 401
      | none => .ok (scopeTenant request (claimsContext claims)) := by
  unfold jwtAuth
  grind [hasPrefix_append, trimPrefix_append, validateAccessToken_minted]

theorem scopeTenant_role (request : Request) (context : Context) :
    (scopeTenant request context).role = context.role := by
  unfold scopeTenant
  simp only
  split_ifs <;> rfl

end

/-- A portal or agent token is refused by the administrative guards exactly when the method is a
writing one or the token is not valid any more. -/
theorem other_tokens_refused_iff (lib : Library) (jwtSecret token : String) (claims : MapClaims)
    (kind : OtherKind claims) (minted : Minted lib jwtSecret claims token) (now : Int)
    (request : Request) (carries : request.header "Authorization" = bearerPrefix ++ token) :
    (∃ status, adminGuards lib jwtSecret now request = .error status) ↔
      request.method ∉ readingMethods ∨ (lib.claimsError claims now).isSome := by
  unfold adminGuards
  rw [jwtAuth_minted minted carries]
  cases lib.claimsError claims now with
  | some err => simp
  | none =>
    have role : trimSpace (scopeTenant request (claimsContext claims)).role ∉ writingRoles := by
      rw [scopeTenant_role]
      change trimSpace (textClaim claims "role") ∉ writingRoles
      rcases kind.role with portal | agent
      · rw [portal]
        decide
      · rw [agent]
        decide
    simp [requireWriteAccess, if_neg role]
    split_ifs with reads
    all_goals simp [reads]

def agentClaims : MapClaims :=
  Devices.agentTokenClaims "acme" "row-1" "ab" "17" [] ⟨false, ""⟩ 0

def oneToken : Library where
  decode := fun token => if token = "agent-token" then .decoded .hmac agentClaims
    else .malformed "token is malformed" none
  hmacError := fun key _ => if key = "secret" then none else some "signature is invalid"
  keyTypeError := "key is of invalid type"
  claimsError := fun _ _ => none

def agentRequest (method : String) : Request where
  method := method
  header := fun name => if name = "Authorization" then "Bearer agent-token" else ""

theorem agent_token_may_not_delete :
    ∃ status, adminGuards oneToken "secret" 0 (agentRequest "DELETE") = .error status :=
  (other_tokens_refused_iff oneToken "secret" "agent-token" agentClaims (.agent ..) ⟨rfl, rfl⟩ 0
    (agentRequest "DELETE") rfl).mpr (.inl (by decide))

theorem agent_token_may_read :
    OtherKind agentClaims ∧ Minted oneToken "secret" agentClaims "agent-token" ∧
      (adminGuards oneToken "secret" 0 (agentRequest "GET")).toOption.map Context.role =
        some "agent" :=
  ⟨.agent .., ⟨rfl, rfl⟩, by rfl⟩

end ManagementPlane.Middleware
