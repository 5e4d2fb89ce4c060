import ManagementPlane.Lib.Jwt
import ManagementPlane.Policy.Types

/-!
# Token exchange

`RFC8693Service.Exchange` of `internal/identity/token_exchange.go`. It rejects the
subject token only when `jwt.Parse` fails and returns no token at all, so a token
that decodes but does not verify is exchanged like a verified one.

A session token is a signed set of claims; its text is left out.
-/

namespace ManagementPlane.Identity

open GoJson GoStrings Jwt Policy

structure ExchangeRequest where
  subjectToken : String
  subjectTokenType : String := ""
  requestedAudience : String := ""
  scope : String := ""
  tenantID : String := ""

structure SessionClaims where
  sub : String
  email : String
  orgID : String
  role : String
  groups : List String
  iat : Int
  exp : Int
  iss : String
  jti : String
  aud : Option String

structure ExchangeResponse where
  accessToken : Signed SessionClaims
  tokenType : String
  expiresIn : Int
  issuedTokenType : String
  scope : String

def extractStringClaim (claims : MapClaims) (key : String) : String :=
  ((claims key).bind Json.asString).getD ""

def extractGroups (claims : MapClaims) : List String :=
  match claims "groups" with
  | some (.arr items) => items.filterMap Json.asString
  | _ => []

def groupRole (group : String) : Option String :=
  let gl := toLower group
  if contains gl "admin" then some "org_admin"
  else if contains gl "security" || contains gl "soc" then some "security_admin"
  else none

def mapExternalRole (externalRole : String) (groups : List String) : String :=
  let role := toLower externalRole
  if role ∈ ["super_admin", "global_admin", "globaladmin"] then "super_admin"
  else if role ∈ ["admin", "org_admin", "securityadmin"] then "org_admin"
  else if role ∈ ["security_admin", "soc_analyst"] then "security_admin"
  else if role ∈ ["operator", "noc"] then "operator"
  else if role ∈ ["client_user", "user"] then "client_user"
  else (groups.findSome? groupRole).getD "client_user"

section
variable (lib : Library) (tokenSecret : String)

def keyFunc : Method → String
  | .hmac => tokenSecret
  | _ => "skip-validation"

def generateSessionToken (userID email orgID role : String) (groups : List String)
    (audience : String) (now : Time) (jti : String) : Signed SessionClaims where
  key := tokenSecret
  claims :=
    { sub := userID
      email := email
      orgID := orgID
      role := role
      groups := groups
      iat := unix now
      exp := unix (now + 15 * minute)
      iss := "apexaegis-idp"
      jti := jti
      aud := if audience ≠ "" then some audience else none }

/-- The organisation falls back to the one the request names, then to a default. -/
def sessionOrg (req : ExchangeRequest) (claims : MapClaims) : String :=
  let orgID := extractStringClaim claims "org_id"
  let named := if orgID = "" ∧ req.tenantID ≠ "" then req.tenantID else orgID
  if named = "" then "default" else named

def issue (req : ExchangeRequest) (claims : MapClaims) (now : Time) (jti : String) :
    ExchangeResponse :=
  let groups := extractGroups claims
  { accessToken :=
      generateSessionToken tokenSecret (extractStringClaim claims "sub")
        (extractStringClaim claims "email") (sessionOrg req claims)
        (mapExternalRole (extractStringClaim claims "role") groups) groups
        req.requestedAudience now jti
    tokenType := "Bearer"
    expiresIn := 900
    issuedTokenType := "urn:ietf:params:oauth:token-type:access_token"
    scope := req.scope }

/-- `parseNow` is the clock of the parser, `now` that of the issued token. -/
def exchange (req : ExchangeRequest) (parseNow now : Time) (jti : String) :
    Except String ExchangeResponse :=
  if req.subjectToken = "" then .error "subject_token is required"
  else
    match parse lib (keyFunc tokenSecret) parseNow req.subjectToken with
    | .failed err none => .error ("invalid subject_token: " ++ err)
    | .failed _ (some none) => .error "invalid token claims"
    | .failed _ (some (some claims)) => .ok (issue tokenSecret req claims now jti)
    | .valid claims => .ok (issue tokenSecret req claims now jti)

variable (req : ExchangeRequest)

theorem exchange_ok_iff (parseNow now : Time) (jti : String) (response : ExchangeResponse) :
    exchange lib tokenSecret req parseNow now jti = .ok response ↔
      req.subjectToken ≠ "" ∧ ∃ claims, (lib.decode req.subjectToken).Carries claims ∧
        response = issue tokenSecret req claims now jti := by
  have carried := parse_carries lib (keyFunc tokenSecret) parseNow req.subjectToken
  rw [exchange]
  by_cases empty : req.subjectToken = ""
  · simp [empty]
  · grind

def FromToken (claims : MapClaims) (session : SessionClaims) : Prop :=
  session.sub = extractStringClaim claims "sub" ∧
  session.orgID = extractStringClaim claims "org_id" ∧
  session.role = mapExternalRole (extractStringClaim claims "role") (extractGroups claims) ∧
  session.groups = extractGroups claims

theorem sessionOrg_eq_iff (claims : MapClaims) :
    sessionOrg req claims = extractStringClaim claims "org_id" ↔
      extractStringClaim claims "org_id" ≠ "" := by
  simp [sessionOrg]
  grind

theorem fromToken_issue_iff (claims : MapClaims) (now : Time) (jti : String) :
    FromToken claims (issue tokenSecret req claims now jti).accessToken.claims ↔
      extractStringClaim claims "org_id" ≠ "" := by
  rw [← sessionOrg_eq_iff req claims]
  constructor
  · intro fromToken
    exact fromToken.2.1
  · intro organisation
    exact ⟨rfl, organisation, rfl, rfl⟩

def Accepted (now : Time) (token : String) (claims : MapClaims) : Prop :=
  parse lib (keyFunc tokenSecret) now token = .valid claims

/-- Nothing is issued without an accepted token exactly when the token is empty, leaves
no claims behind or is accepted. What is issued moreover comes from the token exactly
when the accepted token also names an organisation. -/
theorem exchange_sound_iff (req : ExchangeRequest) (parseNow now : Time) (jti : String) :
    ((∀ response, exchange lib tokenSecret req parseNow now jti = .ok response →
        ∃ claims, Accepted lib tokenSecret parseNow req.subjectToken claims) ↔
      req.subjectToken = "" ∨ (∀ claims, ¬ (lib.decode req.subjectToken).Carries claims) ∨
        ∃ claims, Accepted lib tokenSecret parseNow req.subjectToken claims) ∧
    ((∀ response, exchange lib tokenSecret req parseNow now jti = .ok response →
        ∃ claims, Accepted lib tokenSecret parseNow req.subjectToken claims ∧
          FromToken claims response.accessToken.claims) ↔
      req.subjectToken = "" ∨ (∀ claims, ¬ (lib.decode req.subjectToken).Carries claims) ∨
        ∃ claims, Accepted lib tokenSecret parseNow req.subjectToken claims ∧
          extractStringClaim claims "org_id" ≠ "") := by
  by_cases empty : req.subjectToken = ""
  · simp [exchange_ok_iff, empty]
  by_cases carries : ∃ claims, (lib.decode req.subjectToken).Carries claims
  · obtain ⟨claims, carriesClaims⟩ := carries
    have issued := (exchange_ok_iff lib tokenSecret req parseNow now jti _).mpr
        ⟨empty, claims, carriesClaims, rfl⟩
    have some_claims : ¬ ∀ claims, ¬ (lib.decode req.subjectToken).Carries claims :=
      fun none => none claims carriesClaims
    simp [issued, empty, some_claims]
    apply exists_congr
    intro acceptedClaims
    apply and_congr_right
    intro accepted
    have same := carries_unique carriesClaims
      ((parse_carries lib (keyFunc tokenSecret) _ _ _).mp (.inl accepted))
    rw [same]
    exact fromToken_issue_iff tokenSecret req acceptedClaims now jti
  · have no_claims : ∀ claims, ¬ (lib.decode req.subjectToken).Carries claims :=
      fun claims carriesClaims => carries ⟨claims, carriesClaims⟩
    grind [exchange_ok_iff]

end

/-- A token for `{"sub":"mallory","role":"super_admin"}` that nobody has signed. -/
def forgedToken : String :=
  "eyJhbGciOiJIUzI1NiIsInR5cCI6IkpXVCJ9." ++
    "eyJzdWIiOiJtYWxsb3J5Iiwicm9sZSI6InN1cGVyX2FkbWluIn0.AA"

def forgingLibrary : Library where
  decode token :=
    if token = forgedToken then
      .decoded .hmac (MapClaims.ofList [("sub", .str "mallory"), ("role", .str "super_admin")])
    else .malformed "token is malformed" none
  hmacError _ _ := some "signature is invalid"
  keyTypeError := "key is of invalid type"
  claimsError _ _ := none

theorem forged_token_exchanged :
    ∃ response, exchange forgingLibrary "secret" { subjectToken := forgedToken } 0 0 "" =
        .ok response ∧
      response.accessToken.claims.role = "super_admin" ∧
      ¬ ∃ claims, Accepted forgingLibrary "secret" 0 forgedToken claims := by
  refine ⟨_, rfl, by decide, ?_⟩
  rintro ⟨claims, accepted⟩
  have verified := (parse_valid_iff forgingLibrary (keyFunc "secret") 0 _ claims).mp accepted
  cases verified.2.1

end ManagementPlane.Identity
