import ManagementPlane.Oidc.Handler

/-!
# What the endpoints do before each operation

`Guard` lists, for every operation that matters, what the request that performs it
has done before; `Post` does so for a reply with tokens. Both speak only of the
operations of that one request, so they hold on every path through its handler,
whatever the other requests do to the store.
-/

namespace ManagementPlane.Oidc

open Interleave Jwt

/-- What a token request of a user presents. -/
inductive Grant where
  | authorizationCode (code : String)
  | refreshToken (token : String)
  | deviceCode (deviceCode : String)
  deriving DecidableEq

def Request.grant : Request → Option Grant
  | .token req =>
    if req.grantType = "authorization_code" then some (.authorizationCode req.code)
    else if req.grantType = "refresh_token" then some (.refreshToken req.refreshToken)
    else if req.grantType = "device_code" then some (.deviceCode req.deviceCode)
    else none
  | _ => none

/-- The request has read what it presents, and `user` is the one it names. -/
def Granted (past : List Event) : Grant → String → Prop
  | .authorizationCode code, user =>
    ∃ authCode, ⟨.getAuthCode code, .ok authCode⟩ ∈ past ∧ authCode.userID = user
  | .refreshToken token, user =>
    ∃ tokenRecord, ⟨.getToken token, .ok tokenRecord⟩ ∈ past ∧
      tokenRecord.tokenType = .refresh ∧ tokenRecord.userID = user
  | .deviceCode deviceCode, user =>
    ∃ dc, ⟨.getDeviceCode deviceCode, .ok dc⟩ ∈ past ∧ dc.userAuthorized = true ∧
      dc.userID = user

/-- Whatever the request presents, it has read it and `user` is named there. -/
def Grants (request : Request) (past : List Event) (user : String) : Prop :=
  ∀ grant, request.grant = some grant → Granted past grant user

def ReadUnused (past : List Event) (code : String) : Prop :=
  ∃ authCode, ⟨.getAuthCode code, .ok authCode⟩ ∈ past ∧ authCode.used = false

def Consumed (past : List Event) (code : String) : Prop :=
  ∃ consumed, ⟨.consumeAuthCode code, consumed⟩ ∈ past

def Authenticated (past : List Event) (user : String) : Prop :=
  ∃ email password info, ⟨.authenticateUser email password, .ok info⟩ ∈ past ∧
    info.userID = user

def Guard (request : Request) (past : List Event) : Op → Prop
  | .consumeAuthCode code => ReadUnused past code
  | .saveAuthCode code => ⟨.generateAuthCode, .ok code.code⟩ ∈ past ∧ Authenticated past code.userID
  | .completeDeviceCode _ userID _ => Authenticated past userID
  | .issueIDToken _ sub _ _ _ _ => Grants request past sub
  | .issueAccessToken _ sub _ _ extraClaims =>
    extraClaims "sub" = none ∧ Grants request past sub
  | .saveToken token =>
    (token.tokenType = .refresh → request.grant ≠ none) ∧ Grants request past token.userID
  | _ => True

structure IssuedFor (past : List Event) (user : String) (idToken accessToken : Signed MapClaims) :
    Prop where
  id : ∃ clientID iss aud scopes extraClaims,
    ⟨.issueIDToken clientID user iss aud scopes extraClaims, .ok idToken⟩ ∈ past
  access : ∃ clientID iss scopes extraClaims,
    ⟨.issueAccessToken clientID user iss scopes extraClaims, .ok accessToken⟩ ∈ past

def RefreshSaved (past : List Event) (user refreshToken : String) : Prop :=
  ∃ token saved, ⟨.saveToken token, saved⟩ ∈ past ∧ token.tokenID = refreshToken ∧
    token.tokenType = .refresh ∧ token.userID = user

structure Answered (request : Request) (past : List Event) (response : TokenResponse) : Prop where
  spent : ∀ code, request.grant = some (.authorizationCode code) →
    ReadUnused past code ∧ Consumed past code
  issued : ∀ grant, request.grant = some grant → ∃ user idToken refreshToken,
    response.idToken = some idToken ∧ response.refreshToken = some refreshToken ∧
      IssuedFor past user idToken response.accessToken ∧ RefreshSaved past user refreshToken

def Post (request : Request) (past : List Event) : Reply → Prop
  | .tokens response => Answered request past response
  | _ => True

section
variable {past now : List Event} (later : past ⊆ now)

include later

theorem Granted.mono (grant : Grant) (user : String) (granted : Granted past grant user) :
    Granted now grant user := by
  cases grant with
  | authorizationCode code =>
    obtain ⟨authCode, read, named⟩ := granted
    exact ⟨authCode, later read, named⟩
  | refreshToken token =>
    obtain ⟨tokenRecord, read, kind, named⟩ := granted
    exact ⟨tokenRecord, later read, kind, named⟩
  | deviceCode deviceCode =>
    obtain ⟨dc, read, authorized, named⟩ := granted
    exact ⟨dc, later read, authorized, named⟩

theorem Authenticated.mono (user : String) (authenticated : Authenticated past user) :
    Authenticated now user := by
  obtain ⟨email, password, info, member, named⟩ := authenticated
  exact ⟨email, password, info, later member, named⟩

end

variable (env : Env)

attribute [local simp] Guard Post Grants Granted ReadUnused Consumed Authenticated RefreshSaved
attribute [local simp] Reply.badRequest Reply.unauthorized Reply.serverError
attribute [local simp] issueTokens saveAccess saveRefresh forall_except exists_or or_and_right

@[local simp]
theorem answered_iff (request : Request) (past : List Event) (response : TokenResponse) :
    Answered request past response ↔
      (∀ code, request.grant = some (.authorizationCode code) →
        ReadUnused past code ∧ Consumed past code) ∧
      ∀ grant, request.grant = some grant → ∃ user idToken refreshToken,
        response.idToken = some idToken ∧ response.refreshToken = some refreshToken ∧
          IssuedFor past user idToken response.accessToken ∧ RefreshSaved past user refreshToken :=
  ⟨fun answered => ⟨answered.1, answered.2⟩, fun both => ⟨both.1, both.2⟩⟩

@[local simp]
theorem issuedFor_iff (past : List Event) (user : String) (idToken accessToken : Signed MapClaims) :
    IssuedFor past user idToken accessToken ↔
      (∃ clientID iss aud scopes extraClaims,
        ⟨.issueIDToken clientID user iss aud scopes extraClaims, .ok idToken⟩ ∈ past) ∧
      ∃ clientID iss scopes extraClaims,
        ⟨.issueAccessToken clientID user iss scopes extraClaims, .ok accessToken⟩ ∈ past :=
  ⟨fun issued => ⟨issued.1, issued.2⟩, fun both => ⟨both.1, both.2⟩⟩

@[local simp]
theorem extraClaims_sub (orgID : String) : extraClaims orgID "sub" = none := rfl

variable {request : Request} {req : TokenRequest}

theorem keeps_handleRefreshToken
    (presents : request.grant = some (.refreshToken req.refreshToken)) :
    Keeps (Guard request) (Post request) (handleRefreshToken env req) [] := by
  simp +contextual [handleRefreshToken, presents, -bind_pure_comp]

theorem keeps_handleAuthorizationCode
    (presents : request.grant = some (.authorizationCode req.code)) :
    Keeps (Guard request) (Post request) (handleAuthorizationCode env req) [] := by
  refine keeps_check trivial fun _ => ⟨trivial, ?_⟩
  rintro (err | client)
  · exact trivial
  refine keeps_check trivial fun _ => keeps_check trivial fun _ => ⟨trivial, ?_⟩
  rintro (err | authCode)
  · exact trivial
  refine keeps_check trivial fun unused => ?_
  have isUnused : authCode.used = false := by simpa using unused
  simp [presents, isUnused, -bind_pure_comp]

theorem keeps_handleDeviceCodeToken (presents : request.grant = some (.deviceCode req.deviceCode)) :
    Keeps (Guard request) (Post request) (handleDeviceCodeToken env req) [] := by
  simp +contextual [handleDeviceCodeToken, presents, -bind_pure_comp]

theorem keeps_handleClientCredentials (req : TokenRequest) (presents : request.grant = none) :
    Keeps (Guard request) (Post request) (handleClientCredentials env req) [] := by
  simp +contextual [handleClientCredentials, presents, -bind_pure_comp]

theorem keeps_handle (request : Request) :
    Keeps (Guard request) (Post request) (handle env request) [] := by
  cases request with
  | authorize req => simp [handle, authorize]
  | authorizeLogin stateToken email password =>
    simp [handle, authorizeLogin]
    cases env.decodeString stateToken with
    | none => simp
    | some decoded =>
      dsimp only
      cases env.unmarshalMap decoded <;> simp
  | token req =>
    refine keeps_branch (fun code => keeps_handleAuthorizationCode env ?_) fun noCode => ?_
    · simp [Request.grant, code]
    refine keeps_branch (fun refresh => keeps_handleRefreshToken env ?_) fun noRefresh => ?_
    · simp [Request.grant, refresh]
    refine keeps_branch (fun device => keeps_handleDeviceCodeToken env ?_) fun noDevice => ?_
    · simp [Request.grant, device]
    refine keeps_branch (fun _ => keeps_handleClientCredentials env req ?_) fun _ => trivial
    simp [Request.grant, noCode, noRefresh, noDevice]
  | deviceCode clientID scope => simp [handle, deviceCode]
  | deviceVerify userCode email password => simp [handle, deviceVerify]
  | revoke token => simp [handle, revoke, -bind_pure_comp]

end ManagementPlane.Oidc
