import ManagementPlane.Oidc.SingleUse

/-!
# No tokens without a user

A code belongs to the flow of the login that saved it, a device code to its own flow,
and a refresh token to the flow of the grant that issued it. Whatever a grant issues
names a user who authenticated in its flow, unless an authorization code request reads
the row of a device code that is still pending: both kinds of codes share a table, and
`handleAuthorizationCode` does not ask whether the row has a user.
-/

namespace ManagementPlane.Oidc

open GoEncoding GoStrings Interleave Jwt Runs Tables List

inductive Flow where
  | code (code : String)
  | device (deviceCode : String)
  | token (tokenID : String)
  deriving DecidableEq

def rowFlow (key : String) : Flow :=
  if hasPrefix key "dc:" then .device (trimPrefix key "dc:") else .code key

def Grant.flow : Grant → Flow
  | .authorizationCode code => rowFlow code
  | .refreshToken token => .token token
  | .deviceCode device => .device device

inductive AuthenticatedIn (trace : List (Nat × Event)) : Flow → String → Prop
  | login (i : Nat) (code : AuthCode) (authenticated : Authenticated (past trace i) code.userID)
      (saved : (i, ⟨.saveAuthCode code, .ok ()⟩) ∈ trace) :
      AuthenticatedIn trace (.code code.code) code.userID
  | device (i : Nat) (deviceCode userID orgID : String)
      (authenticated : Authenticated (past trace i) userID)
      (completed : (i, ⟨.completeDeviceCode deviceCode userID orgID, .ok ()⟩) ∈ trace) :
      AuthenticatedIn trace (.device deviceCode) userID
  | refresh (i : Nat) (grant : Grant) (token : TokenRecord)
      (granted : Granted (past trace i) grant token.userID)
      (saved : (i, ⟨.saveToken token, .ok ()⟩) ∈ trace) (kind : token.tokenType = .refresh)
      (authenticated : AuthenticatedIn trace grant.flow token.userID) :
      AuthenticatedIn trace (.token token.tokenID) token.userID

def Op.subject : Op → Option String
  | .issueIDToken _ sub _ _ _ _ => some sub
  | .issueAccessToken _ sub _ _ _ => some sub
  | .saveToken token => some token.userID
  | _ => none

/-- Every token that a request issues for a grant, stores or answers with names a user
who has authenticated in the flow of the grant. -/
structure TokensCarryUser (server : Server) : Prop where
  issued : ∀ i thread grant event user, server.threads[i]? = some thread →
    thread.request.grant = some grant → (i, event) ∈ server.trace →
    event.op.subject = some user → AuthenticatedIn server.trace grant.flow user
  answered : ∀ i request response grant,
    server.threads[i]? = some ⟨request, .done (.tokens response)⟩ → request.grant = some grant →
    ∃ user idToken refreshToken, AuthenticatedIn server.trace grant.flow user ∧
      response.idToken = some idToken ∧ idToken.claims "sub" = some (.str user) ∧
      response.accessToken.claims "sub" = some (.str user) ∧
      response.refreshToken = some refreshToken ∧
      RefreshSaved (past server.trace i) user refreshToken

def PendingDevice (s : OIDCDRSStore) (key : String) : Prop :=
  match s.authCodes.lookup key with
  | some row => hasPrefix key "dc:" = true ∧ row.userID.getD "" = ""
  | none => False

instance (s : OIDCDRSStore) (key : String) : Decidable (PendingDevice s key) := by
  unfold PendingDevice
  split <;> infer_instance

def KeepsFlowsApart (server : Server) : Action → Prop
  | .spawn _ => True
  | .step i _ =>
    match server.threads[i]? with
    | some ⟨_, .call (.getAuthCode code) _⟩ => ¬ PendingDevice server.world code
    | _ => True

instance (server : Server) (action : Action) : Decidable (KeepsFlowsApart server action) := by
  unfold KeepsFlowsApart
  rcases action with _ | ⟨i, _⟩
  · infer_instance
  · dsimp only
    rcases server.threads[i]? with _ | ⟨_, _ | ⟨op, _⟩⟩
    · infer_instance
    · infer_instance
    · rcases op with ⟨⟩ <;> infer_instance

theorem rowFlow_device (deviceCode : String) :
    rowFlow (deviceCodeKey deviceCode) = .device deviceCode := by
  simp [rowFlow, deviceCodeKey, hasPrefix_append, trimPrefix_append]

theorem rowFlow_generated (choice : Choice) :
    rowFlow (generateAuthCode choice) = .code (generateAuthCode choice) := by
  have plain : hasPrefix (generateAuthCode choice) "dc:" = false :=
    hasPrefix_eq_false _ _ ':' (by decide) (not_mem_encodeToString ':' _ (by decide))
  simp [rowFlow, plain]

theorem AuthenticatedIn.mono {trace more : List (Nat × Event)} {flow : Flow} {user : String}
    (authenticated : AuthenticatedIn trace flow user) :
    AuthenticatedIn (trace ++ more) flow user := by
  induction authenticated with
  | login i code login saved =>
    exact .login i code (login.mono (past_subset trace more i)) (mem_append_left _ saved)
  | device i deviceCode userID orgID login completed =>
    exact .device i deviceCode userID orgID (login.mono (past_subset trace more i))
      (mem_append_left _ completed)
  | refresh i grant token granted saved kind _ ih =>
    exact .refresh i grant token (granted.mono (past_subset trace more i))
      (mem_append_left _ saved) kind ih

theorem AuthenticatedIn.exists_login (trace : List (Nat × Event)) (flow : Flow) (user : String)
    (authenticated : AuthenticatedIn trace flow user) :
    ∃ i email password info, (i, ⟨.authenticateUser email password, .ok info⟩) ∈ trace := by
  induction authenticated with
  | login i code login _ | device i deviceCode userID orgID login _ =>
    obtain ⟨email, password, info, member, _⟩ := login
    exact ⟨i, email, password, info, mem_past_iff.mp member⟩
  | refresh i grant token _ _ _ _ ih => exact ih

/-! ## The invariant -/

/-- What the answers in the trace say by themselves. -/
structure Answers (trace : List (Nat × Event)) : Prop where
  generated : ∀ i code, (i, ⟨.generateAuthCode, .ok code⟩) ∈ trace → rowFlow code = .code code
  idSubject : ∀ i clientID sub iss aud scopes extraClaims idToken,
    (i, ⟨.issueIDToken clientID sub iss aud scopes extraClaims, .ok idToken⟩) ∈ trace →
    idToken.claims "sub" = some (.str sub)
  accessSubject : ∀ i clientID sub iss scopes extraClaims accessToken,
    (i, ⟨.issueAccessToken clientID sub iss scopes extraClaims, .ok accessToken⟩) ∈ trace →
    accessToken.claims "sub" = some (.str sub)

structure Authorized (server : Server) : Prop where
  answers : Answers server.trace
  rows : ∀ key row, server.world.authCodes.lookup key = some row →
    AuthenticatedIn server.trace (rowFlow key) (row.userID.getD "") ∨
      hasPrefix key "dc:" = true ∧ row.userID.getD "" = ""
  tokens : ∀ tokenID row, server.world.tokens.lookup tokenID = some row →
    row.tokenType = .refresh → AuthenticatedIn server.trace (.token tokenID) (row.userID.getD "")
  granted : ∀ i grant user, Granted (past server.trace i) grant user →
    AuthenticatedIn server.trace grant.flow user
  subjects : ∀ i thread grant event user, server.threads[i]? = some thread →
    thread.request.grant = some grant → (i, event) ∈ server.trace →
    event.op.subject = some user → AuthenticatedIn server.trace grant.flow user

section
variable {env : Env} {server : Server} {i : Nat} {choice : Choice} {request : Request} {op : Op}
variable {next : op.Ans → Handled Reply}
variable (guarded : Guard request (past server.trace i) op) (authorized : Authorized server)
variable {after : Server} (advanced : advance (exec env) server i choice request op next = after)

include guarded authorized

theorem answers_advance : Answers (advance (exec env) server i choice request op next).trace where
  generated := by
    intro j code member
    rcases mem_append.mp member with old | new
    · exact authorized.answers.generated j code old
    · obtain ⟨_, performed⟩ := Prod.mk.inj (mem_singleton.mp new)
      obtain ⟨_, answered⟩ := performed_iff.mp performed.symm
      have drawn := attempt_ok answered
      cases drawn
      exact rowFlow_generated choice
  idSubject := by
    intro j clientID sub iss aud scopes extraClaims idToken member
    rcases mem_append.mp member with old | new
    · exact authorized.answers.idSubject j _ _ _ _ _ _ _ old
    · obtain ⟨_, performed⟩ := Prod.mk.inj (mem_singleton.mp new)
      obtain ⟨_, answered⟩ := performed_iff.mp performed.symm
      have signed := attempt_ok answered
      cases signed
      exact idTokenClaims_sub ..
  accessSubject := by
    intro j clientID sub iss scopes extraClaims accessToken member
    rcases mem_append.mp member with old | new
    · exact authorized.answers.accessSubject j _ _ _ _ _ _ old
    · obtain ⟨_, performed⟩ := Prod.mk.inj (mem_singleton.mp new)
      obtain ⟨rfl, answered⟩ := performed_iff.mp performed.symm
      have signed := attempt_ok answered
      cases signed
      have extra := guarded.1
      change (extraClaims "sub").or _ = _
      rw [extra]
      rfl

include advanced

theorem rows_advance (key : String) (row : AuthCodeRow)
    (found : after.world.authCodes.lookup key = some row) :
    AuthenticatedIn after.trace (rowFlow key) (row.userID.getD "") ∨
      hasPrefix key "dc:" = true ∧ row.userID.getD "" = "" := by
  have newest : ∀ event : Event, (⟨op, (exec env choice server.world op).1⟩ : Event) = event →
      (i, event) ∈ after.trace := by
    rintro event rfl
    subst advanced
    exact mem_append_right _ (mem_singleton_self _)
  subst advanced
  rcases authCode_user found with
    ⟨old, foundOld, sameUser⟩ | ⟨code, performed, keyEq, user⟩ | ⟨deviceCode, keyEq, user⟩ |
      ⟨deviceCode, userID, orgID, performed, keyEq, user⟩
  · rw [sameUser]
    exact (authorized.rows key old foundOld).imp_left .mono
  · left
    have saved := newest _ performed
    obtain ⟨rfl, _⟩ := performed_iff.mp performed
    obtain ⟨generated, login⟩ := guarded
    rw [keyEq, user, authorized.answers.generated i code.code (mem_past_iff.mp generated)]
    exact .login i code (login.mono (past_subset ..)) saved
  · right
    rw [keyEq, user]
    exact ⟨hasPrefix_append _ _, rfl⟩
  · left
    have completed := newest _ performed
    obtain ⟨rfl, _⟩ := performed_iff.mp performed
    rw [keyEq, user, rowFlow_device]
    exact .device i deviceCode userID orgID (Authenticated.mono (past_subset ..) _ guarded)
      completed

theorem tokens_advance (tokenID : String) (row : TokenRow)
    (found : after.world.tokens.lookup tokenID = some row) (kind : row.tokenType = .refresh) :
    AuthenticatedIn after.trace (.token tokenID) (row.userID.getD "") := by
  subst advanced
  rcases token_user found with
    ⟨old, foundOld, sameUser, sameKind⟩ | ⟨token, performed, idEq, user, sameKind⟩
  · rw [sameUser]
    exact (authorized.tokens tokenID old foundOld (sameKind ▸ kind)).mono
  · obtain ⟨rfl, answered⟩ := performed_iff.mp performed
    obtain ⟨presents, grants⟩ := guarded
    rw [sameKind] at kind
    obtain ⟨grant, presented⟩ := Option.ne_none_iff_exists'.mp (presents kind)
    have granted := grants grant presented
    rw [idEq, user]
    refine .refresh i grant token (granted.mono (past_subset ..)) ?_ kind
      ((authorized.granted i grant _ granted).mono)
    exact mem_append_right _ (by rw [answered]; exact mem_singleton_self _)

omit guarded in
theorem granted_advance (calling : server.threads[i]? = some ⟨request, .call op next⟩)
    (apart : KeepsFlowsApart server (.step i choice)) (j : Nat) (grant : Grant) (user : String)
    (granted : Granted (past after.trace j) grant user) :
    AuthenticatedIn after.trace grant.flow user := by
  have before : Granted (past server.trace j) grant user →
      AuthenticatedIn after.trace grant.flow user := by
    intro old
    subst advanced
    exact (authorized.granted j grant user old).mono
  have reads : ∀ (other : Op) (answer : other.Ans),
      ⟨other, answer⟩ ∈ past after.trace j →
      ⟨other, answer⟩ ∈ past server.trace j ∨
        op = other ∧ (exec env choice server.world other).1 = answer := by
    intro other answer member
    subst advanced
    rcases mem_append.mp (mem_past_iff.mp member) with old | new
    · exact .inl (mem_past_iff.mpr old)
    · grind
  subst advanced
  cases grant with
  | authorizationCode code =>
    obtain ⟨authCode, member, rfl⟩ := granted
    rcases reads _ _ member with old | ⟨rfl, answered⟩
    · exact before ⟨authCode, old, rfl⟩
    · obtain ⟨row, found, _, user⟩ := getAuthCode_answer env choice _ answered
      rw [user]
      rcases authorized.rows code row found with login | pending
      · exact login.mono
      · simp only [KeepsFlowsApart, calling, PendingDevice, found] at apart
        exact absurd pending apart
  | refreshToken token =>
    obtain ⟨tokenRecord, member, kind, rfl⟩ := granted
    rcases reads _ _ member with old | ⟨rfl, answered⟩
    · exact before ⟨tokenRecord, old, kind, rfl⟩
    · obtain ⟨row, found, sameKind, user⟩ :=
        getToken_answer env choice _ answered
      rw [user]
      exact (authorized.tokens token row found (sameKind ▸ kind)).mono
  | deviceCode deviceCode =>
    obtain ⟨dc, member, isAuthorized, rfl⟩ := granted
    rcases reads _ _ member with old | ⟨rfl, answered⟩
    · exact before ⟨dc, old, isAuthorized, rfl⟩
    · obtain ⟨row, found, user, authorizedEq⟩ :=
        getDeviceCode_answer env choice _ answered
      rw [authorizedEq, decide_eq_true_eq, user] at isAuthorized
      rw [user]
      rcases authorized.rows _ row found with login | pending
      · rw [rowFlow_device] at login
        exact login.mono
      · exact absurd pending.2 isAuthorized

theorem subjects_advance (calling : server.threads[i]? = some ⟨request, .call op next⟩) (j : Nat)
    (thread : Thread Request Op Op.Ans Reply) (grant : Grant) (event : Event) (user : String)
    (found : after.threads[j]? = some thread) (presents : thread.request.grant = some grant)
    (member : (j, event) ∈ after.trace) (subject : event.op.subject = some user) :
    AuthenticatedIn after.trace grant.flow user := by
  subst advanced
  obtain ⟨before, foundBefore, sameRequest⟩ :=
    request_advance calling found
  rcases mem_append.mp member with old | new
  · exact (authorized.subjects j before grant event user foundBefore (sameRequest ▸ presents) old
      subject).mono
  · obtain ⟨rfl, rfl⟩ := Prod.mk.inj (mem_singleton.mp new)
    rw [calling, Option.some.injEq] at foundBefore
    subst foundBefore
    have grants : Grants request (past server.trace j) user := by
      cases op with
      | issueIDToken clientID sub iss aud scopes extraClaims =>
        cases subject
        exact guarded
      | issueAccessToken clientID sub iss scopes extraClaims | saveToken token =>
        cases subject
        exact guarded.2
      | _ => cases subject
    have presented : request.grant = some grant := by
      rw [← presents, ← sameRequest]
    exact (authorized.granted j grant user (grants grant presented)).mono

theorem authorized_advance (calling : server.threads[i]? = some ⟨request, .call op next⟩)
    (apart : KeepsFlowsApart server (.step i choice)) :
    Authorized after where
  answers := advanced ▸ answers_advance guarded authorized
  rows := rows_advance guarded authorized advanced
  tokens := tokens_advance guarded authorized advanced
  granted := granted_advance authorized advanced calling apart
  subjects := subjects_advance guarded authorized advanced calling

end

theorem authorized_spawn (env : Env) (server : Server) (request : Request)
    (kept : Kept Guard Post server) (authorized : Authorized server) :
    Authorized (serve env server (.spawn request)) where
  answers := authorized.answers
  rows := authorized.rows
  tokens := authorized.tokens
  granted := authorized.granted
  subjects := by
    intro i thread grant event user found presents member subject
    have inside := kept.numbered _ member
    simp [serve, step, getElem?_append_left inside] at found
    exact authorized.subjects i thread grant event user found presents member subject

theorem authorized_initial (clients : Table String ClientRow) (users : Table String UserRow) :
    Authorized (initial ⟨clients, users, ∅, ∅⟩) where
  answers := by
    constructor
    · intro i code member
      cases member
    · intro i clientID sub iss aud scopes extraClaims idToken member
      cases member
    · intro i clientID sub iss scopes extraClaims accessToken member
      cases member
  rows := by
    intro key row found
    cases found
  tokens := by
    intro tokenID row found
    cases found
  granted := by
    intro i grant user granted
    cases grant with
    | authorizationCode code | refreshToken token | deviceCode deviceCode =>
      obtain ⟨_, member, _⟩ := granted
      cases member
  subjects := by
    intro i thread grant event user found
    cases found

theorem tokensCarryUser_of_authorized {server : Server} (kept : Kept Guard Post server)
    (authorized : Authorized server) : TokensCarryUser server where
  issued := authorized.subjects
  answered := by
    intro i request response grant found presents
    have post := kept.keeps i _ found
    obtain ⟨user, idToken, refreshToken, hasID, hasRefresh, issuedFor, saved⟩ :=
      post.issued grant presents
    obtain ⟨⟨clientID, iss, aud, scopes, extraClaims, idIssued⟩,
      ⟨clientID', iss', scopes', extraClaims', accessIssued⟩⟩ := issuedFor
    rw [mem_past_iff] at idIssued accessIssued
    have authenticated := authorized.subjects i _ grant _ user found presents idIssued rfl
    exact ⟨user, idToken, refreshToken, authenticated, hasID,
      authorized.answers.idSubject i _ _ _ _ _ _ _ idIssued,
      authorized.answers.accessSubject i _ _ _ _ _ _ accessIssued, hasRefresh, saved⟩

/-- In every run of the endpoints from empty code and token tables in which no
authorization code request reads a pending device code, every token of a grant names a
user who authenticated in its flow. -/
theorem tokens_carry_user (env : Env) (clients : Table String ClientRow)
    (users : Table String UserRow) (actions : List Action)
    (apart : ∀ visit ∈ visits (serve env) (initial ⟨clients, users, ∅, ∅⟩) actions,
      KeepsFlowsApart visit.1 visit.2) :
    ∀ reached ∈ states (serve env) (initial ⟨clients, users, ∅, ∅⟩) actions,
      TokensCarryUser reached := by
  intro reached member
  have invariant := pool_invariant (exec env) (keeps_handle env)
    KeepsFlowsApart Authorized (authorized_spawn env)
    (fun _ _ _ _ _ _ _ calling apart guarded authorized =>
      authorized_advance guarded authorized rfl calling apart)
    ⟨clients, users, ∅, ∅⟩ (authorized_initial clients users) actions apart
  grind [tokensCarryUser_of_authorized]

def demoClients : Table String ClientRow := (∅ : Table String ClientRow).insert "app" publicClient

def demoUsers : Table String UserRow :=
  (∅ : Table String UserRow).insert "user@apexaegis.app"
    { id := "user-1"
      orgID := "org-1"
      name := "User"
      role := "read_only"
      status := "active"
      passwordHash := some passwordHash }

def demoAuthorize : AuthorizeRequest where
  clientID := "app"
  redirectURI := "https://app.example/cb"
  responseType := "code"
  scope := "openid"

def demoLoginData (name : String) : String :=
  if name = "client_id" then "app"
  else if name = "redirect_uri" then "https://app.example/cb"
  else if name = "response_type" then "code"
  else if name = "scope" then "openid"
  else if name = "code_challenge_method" then "S256"
  else ""

/-- Decodes the state that `authorize` hands out for `demoAuthorize`. -/
def loginEnv : Env :=
  { demoEnv with
    decodeString := fun _ => some (loginDataJSON demoAuthorize "S256")
    unmarshalMap := fun _ => some demoLoginData }

def loginThenRedeem : List Action :=
  .spawn (.authorizeLogin (stateToken demoAuthorize "S256") "user@apexaegis.app" "allmine") ::
      steps 0 4 ++
    .spawn (.token
      { grantType := "authorization_code"
        clientID := "app"
        code := generateAuthCode {}
        redirectURI := "https://app.example/cb" }) :: steps 1 11

theorem login_tokens_carry_user :
    (∀ visit ∈ visits (serve loginEnv) (initial ⟨demoClients, demoUsers, ∅, ∅⟩) loginThenRedeem,
        KeepsFlowsApart visit.1 visit.2) ∧
      AnsweredWithTokens
        (run (serve loginEnv) (initial ⟨demoClients, demoUsers, ∅, ∅⟩) loginThenRedeem) 1
        (generateAuthCode {}) ∧
      TokensCarryUser
        (run (serve loginEnv) (initial ⟨demoClients, demoUsers, ∅, ∅⟩) loginThenRedeem) := by
  have evaluated : (∀ visit ∈ visits (serve loginEnv) (initial ⟨demoClients, demoUsers, ∅, ∅⟩)
      loginThenRedeem, KeepsFlowsApart visit.1 visit.2) ∧
        AnsweredWithTokens
          (run (serve loginEnv) (initial ⟨demoClients, demoUsers, ∅, ∅⟩) loginThenRedeem) 1
          (generateAuthCode {}) := by
    decide +kernel
  have carry := tokens_carry_user loginEnv demoClients demoUsers _ evaluated.1 _ run_mem_states
  exact and_assoc.mp ⟨evaluated, carry⟩

/-- A client starts the device flow and presents the key of its own pending device code,
with the verification URI it was given, as an authorization code. -/
def redeemPendingDevice : List Action :=
  .spawn (.deviceCode "app" "openid") :: steps 0 4 ++
    .spawn (.token
      { grantType := "authorization_code"
        clientID := "app"
        code := deviceCodeKey (generateDeviceCode {}).1
        redirectURI := demoEnv.issuer ++ "/device?user_code=" ++ (generateDeviceCode {}).2 }) ::
    steps 1 11

def Op.isLogin : Op → Bool
  | .authenticateUser _ _ => true
  | _ => false

theorem not_carry_without_login (server : Server) (i : Nat) (code : String)
    (redeemed : AnsweredWithTokens server i code)
    (nobody : ∀ entry ∈ server.trace, entry.2.op.isLogin = false) : ¬ TokensCarryUser server := by
  intro carry
  obtain ⟨request, response, found, presents⟩ :=
    (answeredWithTokens_iff server i code).mp redeemed
  obtain ⟨user, _, _, authenticated, _⟩ := carry.answered i request response _ found presents
  obtain ⟨j, email, password, info, member⟩ := authenticated.exists_login
  exact absurd (nobody _ member) (by simp [Op.isLogin])

theorem pending_device_redeemed :
    ¬ TokensCarryUser
      (run (serve demoEnv) (initial ⟨demoClients, ∅, ∅, ∅⟩) redeemPendingDevice) :=
  not_carry_without_login _ 1 (deviceCodeKey (generateDeviceCode {}).1) (by decide +kernel)
    (by decide +kernel)

end ManagementPlane.Oidc
