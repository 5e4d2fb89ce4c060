import ManagementPlane.Lib.Alone
import ManagementPlane.Oidc.Flows

/-!
# The device flow, end to end

A device asks for a code, a user enters one at the verification page and signs in,
and the device exchanges its code for tokens. The record of a device code sits in the
table of authorization codes: what `saveDeviceCode` drops, `getDeviceCode` cannot
return, and both handlers look a record up by its device code.
-/

namespace ManagementPlane.Oidc

open GoEncoding GoJson GoStrings Interleave Jwt Policy Tables List

theorem deviceCodeKey_inj (first second : String) :
    deviceCodeKey first = deviceCodeKey second ↔ first = second := by
  constructor
  · intro same
    have lists := congrArg String.toList same
    simp [deviceCodeKey] at lists
    exact String.toList_injective lists
  · intro same
    rw [same]

/-- What a user who signs in writes into the row of a device code. -/
def AuthCodeRow.completedBy (user : UserInfo) (row : AuthCodeRow) : AuthCodeRow :=
  { row with userID := some user.userID, orgID := some user.orgID }

theorem completeDeviceCode_ok {s written : OIDCDRSStore} {submitted : String} {user : UserInfo}
    {row : AuthCodeRow} (found : s.authCodes.lookup (deviceCodeKey submitted) = some row)
    (completed : s.completeDeviceCode submitted user.userID user.orgID = .ok written) :
    (user.userID.length ≤ 128 ∧ user.orgID.length ≤ 64) ∧
      ∀ deviceCode, written.authCodes.lookup (deviceCodeKey deviceCode) =
        if deviceCode = submitted then some (row.completedBy user)
        else s.authCodes.lookup (deviceCodeKey deviceCode) := by
  simp [OIDCDRSStore.completeDeviceCode, found] at completed
  split_ifs at completed with tooLong
  cases completed
  refine ⟨by simpa using tooLong, ?_⟩
  intro deviceCode
  simp [lookup_updateRow, deviceCodeKey_inj]
  by_cases here : deviceCode = submitted
  · rw [if_pos here, if_pos here, here, found]
    rfl
  · rw [if_neg here, if_neg here]

variable {s : OIDCDRSStore}

theorem getDeviceCode_submitted {submitted : String} {dc : DeviceCodeRecord}
    (read : s.getDeviceCode submitted = .ok dc) :
    dc.deviceCode = submitted ∧
      ∃ row, s.authCodes.lookup (deviceCodeKey submitted) = some row := by
  unfold OIDCDRSStore.getDeviceCode at read
  split at read
  · cases read
  · rename_i row found
    cases read
    exact ⟨rfl, row, found⟩

def deviceGrant (clientID deviceCode : String) : Request :=
  .token { grantType := "device_code", clientID := clientID, deviceCode := deviceCode }

theorem handle_deviceGrant (env : Env) (clientID deviceCode : String) :
    handle env (deviceGrant clientID deviceCode) =
      handleDeviceCodeToken env
        { grantType := "device_code", clientID := clientID, deviceCode := deviceCode } := by
  simp only [handle, deviceGrant, token]
  rw [if_neg (by decide), if_neg (by decide), if_true]

/-- The tokens are for the user, and carry the scope. -/
structure TokensFor (userID scope : String) (response : TokenResponse) : Prop where
  idToken : ∃ idToken, response.idToken = some idToken ∧
    idToken.claims "sub" = some (.str userID)
  subject : response.accessToken.claims "sub" = some (.str userID)
  tokenScope : response.accessToken.claims "scope" = some (.str scope)
  scope : response.scope = some scope

section

@[simp high]
theorem ensures_timeNow {α : Type} {env : Env} {Allowed : Choice → Prop}
    {Post : α → OIDCDRSStore → Prop} {next : Time → Handled α} :
    Ensures (exec env) Allowed Post (timeNow >>= next) s ↔
      ∀ choice, Allowed choice → Ensures (exec env) Allowed Post (next choice.now) s := Iff.rfl

theorem forall_choice {p : Choice → Prop} :
    (∀ choice, p choice) ↔ ∀ failure now random, p ⟨failure, now, random⟩ :=
  ⟨fun each _ _ _ => each _, fun each _ => each ..⟩

variable (env : Env) {Allowed : Choice → Prop}
variable (working : ∀ choice, Allowed choice → choice.failure = none)

include working

omit working in
theorem tokensFor_issued (clientID userID orgID refreshToken : String) (first second : Choice) :
    TokensFor userID ""
      { accessToken :=
          issueAccessToken env second clientID userID env.issuer (some []) (extraClaims orgID)
        refreshToken := some refreshToken
        idToken := some
          (issueIDToken env first clientID userID env.issuer clientID (some []) (extraClaims orgID))
        scope := some "" } := by
  refine ⟨⟨_, rfl, ?_⟩, rfl, rfl, rfl⟩
  simp [issueIDToken, idTokenClaims_sub]

omit working in
theorem ensures_deviceVerify (deviceCode submitted email password : String) (s : OIDCDRSStore) :
    Ensures (exec env) Allowed
      (fun _ now => now.authCodes.lookup (deviceCodeKey deviceCode) =
          s.authCodes.lookup (deviceCodeKey deviceCode) ∨
        submitted = deviceCode ∧ email ≠ "" ∧ password ≠ "" ∧ ∃ user,
          s.authenticateUser env email password = .ok user ∧
          user.userID.length ≤ 128 ∧ user.orgID.length ≤ 64 ∧
          now.authCodes.lookup (deviceCodeKey deviceCode) =
            (s.authCodes.lookup (deviceCodeKey deviceCode)).map (·.completedBy user))
      (handle env (.deviceVerify submitted email password)) s := by
  cases read : s.getDeviceCode submitted with
  | error err => simp [handle, deviceVerify, exec, attempt, read, forall_choice, Option.forall]
  | ok dc =>
    obtain ⟨rfl, row, found⟩ := getDeviceCode_submitted read
    cases accepted : s.authenticateUser env email password with
    | error err =>
      simp [handle, deviceVerify, exec, attempt, read, accepted, forall_choice, Option.forall]
    | ok user =>
      cases completed : s.completeDeviceCode dc.deviceCode user.userID user.orgID with
      | error err =>
        simp [handle, deviceVerify, exec, attempt, execute, read, accepted, completed, forall_choice,
          Option.forall]
      | ok written =>
        obtain ⟨⟨idFits, orgFits⟩, rows⟩ := completeDeviceCode_ok found completed
        by_cases here : deviceCode = dc.deviceCode
        · subst here
          simp +contextual [handle, deviceVerify, exec, attempt, execute, read, accepted, completed,
            rows, found, idFits, orgFits, forall_choice, Option.forall]
        · simp [handle, deviceVerify, exec, attempt, execute, read, accepted, completed, rows, here,
            forall_choice, Option.forall]

variable (deviceCode : String) (row : AuthCodeRow)
variable (unexpired : ∀ choice, Allowed choice → ¬ row.expiresAt < choice.now)

include unexpired

theorem ensures_deviceVerify_own {email password : String} {user : UserInfo}
    (found : s.authCodes.lookup (deviceCodeKey deviceCode) = some row)
    (accepted : s.authenticateUser env email password = .ok user)
    (named : deviceCode ≠ "") (given : email ≠ "" ∧ password ≠ "")
    (fits : user.userID.length ≤ 128 ∧ user.orgID.length ≤ 64) :
    Ensures (exec env) Allowed
      (fun _ now => now.authCodes.lookup (deviceCodeKey deviceCode) =
        some (row.completedBy user)) (handle env (.deviceVerify deviceCode email password)) s := by
  have completed : ∃ written, s.completeDeviceCode deviceCode user.userID user.orgID = .ok written := by
    simp [OIDCDRSStore.completeDeviceCode, found, fits]
  obtain ⟨written, completed⟩ := completed
  have rows := (completeDeviceCode_ok found completed).2 deviceCode
  simp +contextual [handle, deviceVerify, exec, execute, attempt, working, unexpired,
    OIDCDRSStore.getDeviceCode, found, named, given, accepted, completed, rows]

theorem ensures_deviceGrant {clientID : String}
    (found : s.authCodes.lookup (deviceCodeKey deviceCode) = some row)
    (own : row.clientID = clientID) (named : deviceCode ≠ "" ∧ clientID ≠ "") :
    Ensures (exec env) Allowed
      (fun reply _ =>
        if row.userID.getD "" = "" then ∀ response, reply ≠ .tokens response
        else ∃ response, reply = .tokens response ∧ TokensFor (row.userID.getD "") "" response)
      (handle env (deviceGrant clientID deviceCode)) s := by
  rw [handle_deviceGrant]
  by_cases nobody : row.userID.getD "" = ""
  · simp +contextual [handleDeviceCodeToken, exec, attempt, working, unexpired,
      OIDCDRSStore.getDeviceCode, found, named, own, nobody]
  · simp +contextual [handleDeviceCodeToken, issueTokens, saveAccess, saveRefresh, exec, attempt,
      working, unexpired, OIDCDRSStore.getDeviceCode, found, named, own, nobody, tokensFor_issued,
      -bind_pure_comp]

end

theorem length_generateDeviceCode (choice : Choice) :
    (generateDeviceCode choice).1.length = 43 ∧ (generateDeviceCode choice).2.length = 9 := by
  refine ⟨?_, ?_⟩
  · simp [generateDeviceCode, length_encodeToString, randomBytes]
  · simp only [generateDeviceCode, String.length_ofList, length_append, length_cons,
      length_upperHex, randomBytes, length_map, length_range]

structure Pending (clientID deviceCode userCode : String) (s : OIDCDRSStore) : Prop where
  client : clientID ≠ ""
  device : deviceCode ≠ ""
  distinct : userCode ≠ deviceCode
  row : ∃ row, s.authCodes.lookup (deviceCodeKey deviceCode) = some row ∧
    row.clientID = clientID ∧ row.userID = some ""

theorem ensures_deviceCode (env : Env) (clientID scope : String) (s : OIDCDRSStore) :
    Ensures (exec env) (fun _ => True)
      (fun reply now => ∀ deviceCode userCode uri expiresIn interval,
        reply = .deviceCode deviceCode userCode uri expiresIn interval →
          Pending clientID deviceCode userCode now)
      (handle env (.deviceCode clientID scope)) s := by
  have failed : ∀ status error (now : OIDCDRSStore) deviceCode userCode uri expiresIn interval,
      Reply.failed status error = .deviceCode deviceCode userCode uri expiresIn interval →
        Pending clientID deviceCode userCode now := by
    intro status error now deviceCode userCode uri expiresIn interval same
    cases same
  rw [handle]
  refine ensures_check (fun _ => failed _ _ _) fun named => ?_
  rw [ensures_call]
  intro client _
  simp [exec]
  cases attempt client (s.getOIDCClient clientID) with
  | error err => exact failed _ _ _
  | ok client =>
    refine ensures_check (fun _ => failed _ _ _) fun _ => ?_
    rw [ensures_call]
    intro random _
    simp [exec]
    cases generated : attempt random (.ok (generateDeviceCode random)) with
    | error err => exact failed _ _ _
    | ok codes =>
      obtain ⟨deviceCode, userCode⟩ := codes
      have drawn := Except.ok.inj (attempt_ok generated)
      have lengths := length_generateDeviceCode random
      rw [drawn] at lengths
      rw [ensures_call]
      intro clock _
      rw [ensures_call]
      intro insert _
      simp [exec]
      rcases execute_cases insert s (s.saveDeviceCode _) with
        ⟨err, notSaved⟩ | ⟨written, saved, done⟩
      · rw [notSaved]
        exact failed _ _ _
      · rw [done]
        obtain ⟨_, rfl⟩ := insertAuthCode_ok saved
        intro device user uri expiresIn interval same
        cases same
        refine ⟨named, ?_, ?_, _, AList.lookup_insert _, rfl, rfl⟩
        · rintro rfl
          have empty : "".length = 43 := lengths.1
          cases empty
        · rintro rfl
          have both := lengths.1.symm.trans lengths.2
          omega

def OIDCDRSStore.AuthorizedFor (s : OIDCDRSStore) (deviceCode userID : String) : Prop :=
  ∃ dc, s.getDeviceCode deviceCode = .ok dc ∧ dc.userAuthorized = true ∧ dc.userID = userID

theorem authorizedFor_iff {deviceCode : String} (userID : String) {row : AuthCodeRow}
    (found : s.authCodes.lookup (deviceCodeKey deviceCode) = some row) :
    s.AuthorizedFor deviceCode userID ↔ row.userID.getD "" ≠ "" ∧ row.userID.getD "" = userID := by
  simp [OIDCDRSStore.AuthorizedFor, OIDCDRSStore.getDeviceCode, found]

/-- The submission authorizes the device for the user, and its grant then gets the tokens it
asked for. -/
def FlowCompletes (env : Env) (verify grant : Nat → Choice) (clientID scope deviceCode : String)
    (submitted email password userID : String) (s : OIDCDRSStore) : Prop :=
  let verified := ((handle env (.deviceVerify submitted email password)).eval (exec env) verify s).2
  verified.AuthorizedFor deviceCode userID ∧
    ∃ response, ((handle env (deviceGrant clientID deviceCode)).eval (exec env) grant verified).1 =
      .tokens response ∧ TokensFor userID (" ".intercalate (split scope ' ')) response

theorem device_flow_completes_iff (env : Env) (issue verify grant : Nat → Choice)
    (s issued later : OIDCDRSStore) (clientID scope deviceCode userCode uri : String)
    (expiresIn interval : Int) (submitted email password : String) (user : UserInfo)
    (issues : (handle env (.deviceCode clientID scope)).eval (exec env) issue s =
      (.deviceCode deviceCode userCode uri expiresIn interval, issued))
    (untouched : later.authCodes.lookup (deviceCodeKey deviceCode) =
      issued.authCodes.lookup (deviceCodeKey deviceCode))
    (accepted : later.authenticateUser env email password = .ok user)
    (working : ∀ n, (verify n).failure = none ∧ (grant n).failure = none)
    (unexpired : ∀ row, issued.authCodes.lookup (deviceCodeKey deviceCode) = some row →
      ∀ n, (verify n).now ≤ row.expiresAt ∧ (grant n).now ≤ row.expiresAt) :
    userCode ≠ deviceCode ∧
      (FlowCompletes env verify grant clientID scope deviceCode submitted email password
          user.userID later ↔
        submitted = deviceCode ∧ scope = "" ∧ email ≠ "" ∧ password ≠ "" ∧ user.userID ≠ "" ∧
          user.userID.length ≤ 128 ∧ user.orgID.length ≤ 64) := by
  have pending : Pending clientID deviceCode userCode issued := by
    have ensured := eval_ensures issue (fun _ => trivial) (ensures_deviceCode env clientID scope s)
    rw [issues] at ensured
    exact ensured _ _ _ _ _ rfl
  obtain ⟨row, found, own, nobody⟩ := pending.row
  have foundLater := untouched.trans found
  let Allowed : Choice → Prop := fun choice =>
    choice.failure = none ∧ ¬ row.expiresAt < choice.now
  have verifyAllowed : ∀ n, Allowed (verify n) := fun n =>
    ⟨(working n).1, Int.not_lt.mpr (unexpired row found n).1⟩
  have grantAllowed : ∀ n, Allowed (grant n) := fun n =>
    ⟨(working n).2, Int.not_lt.mpr (unexpired row found n).2⟩
  -- The grant reads the row as the submission has left it.
  have granted : ∀ now, now.authCodes.lookup (deviceCodeKey deviceCode) =
      some (row.completedBy user) → user.userID ≠ "" → ∃ response,
        ((handle env (deviceGrant clientID deviceCode)).eval (exec env) grant now).1 =
          .tokens response ∧ TokensFor user.userID "" response := by
    intro now completed somebody
    have ensured := eval_ensures grant grantAllowed
      (ensures_deviceGrant env (fun _ allowed => allowed.1) deviceCode (row.completedBy user)
        (fun _ allowed => allowed.2) completed own ⟨pending.device, pending.client⟩)
    exact (if_neg somebody).mp ensured
  refine ⟨pending.distinct, ?_, ?_⟩
  · rintro ⟨authorized, response, tokens, tokensFor⟩
    have verified := eval_ensures verify verifyAllowed
      (ensures_deviceVerify env deviceCode submitted email password later)
    rw [foundLater] at verified
    rcases verified with
      unchanged | ⟨submits, hasEmail, hasPassword, other, same, idFits, orgFits, completed⟩
    · rw [authorizedFor_iff _ unchanged, nobody] at authorized
      exact absurd rfl authorized.1
    · rw [accepted, Except.ok.injEq] at same
      subst same
      rw [authorizedFor_iff _ completed] at authorized
      obtain ⟨issuedResponse, issuedTokens, issuedFor⟩ := granted _ completed authorized.1
      rw [tokens, Reply.tokens.injEq] at issuedTokens
      subst issuedTokens
      have scopes := tokensFor.scope.symm.trans issuedFor.scope
      rw [intercalate_split, Option.some.injEq] at scopes
      exact ⟨submits, scopes, hasEmail, hasPassword, authorized.1, idFits, orgFits⟩
  · rintro ⟨rfl, rfl, hasEmail, hasPassword, somebody, idFits, orgFits⟩
    have completed := eval_ensures verify verifyAllowed
      (ensures_deviceVerify_own env (fun _ allowed => allowed.1) submitted row
        (fun _ allowed => allowed.2) foundLater accepted pending.device
        ⟨hasEmail, hasPassword⟩ ⟨idFits, orgFits⟩)
    refine ⟨(authorizedFor_iff _ completed).mpr ⟨somebody, rfl⟩, ?_⟩
    rw [intercalate_split]
    exact granted _ completed somebody

def demoDeviceURI : String := demoEnv.issuer ++ "/device?user_code=" ++ (generateDeviceCode {}).2

/-- What a request leaves behind when its clock stands still and nothing fails. -/
def afterRequest (request : Request) (s : OIDCDRSStore) : OIDCDRSStore :=
  ((handle demoEnv request).eval (exec demoEnv) (fun _ => {}) s).2

def demoDevice : OIDCDRSStore :=
  afterRequest (.deviceCode "app" "") ⟨demoClients, demoUsers, ∅, ∅⟩

/-- A user who types the device code in completes the flow of a device that asked for no
scope. -/
theorem device_flow_completes_by_device_code :
    (generateDeviceCode {}).2 ≠ (generateDeviceCode {}).1 ∧
      FlowCompletes demoEnv (fun _ => {}) (fun _ => {}) "app" "" (generateDeviceCode {}).1
        (generateDeviceCode {}).1 "user@apexaegis.app" "allmine" "user-1" demoDevice := by
  have accepted : demoDevice.authenticateUser demoEnv "user@apexaegis.app" "allmine" =
      .ok ⟨"user-1", "org-1", "user@apexaegis.app", "User", "read_only"⟩ := by
    rfl
  have unexpired : ∀ row,
      demoDevice.authCodes.lookup (deviceCodeKey (generateDeviceCode {}).1) = some row →
        (0 : Time) ≤ row.expiresAt := by
    decide +kernel
  have completes := device_flow_completes_iff demoEnv (fun _ => {}) (fun _ => {}) (fun _ => {})
    ⟨demoClients, demoUsers, ∅, ∅⟩ demoDevice demoDevice "app" "" (generateDeviceCode {}).1
    (generateDeviceCode {}).2 demoDeviceURI 900 5 (generateDeviceCode {}).1 "user@apexaegis.app"
    "allmine" _ rfl rfl accepted (fun _ => ⟨rfl, rfl⟩)
    (fun row found _ => ⟨unexpired row found, unexpired row found⟩)
  exact ⟨completes.1, completes.2.mpr (by decide +kernel)⟩

/-- A user who types the user code in is told that it does not exist, and the device waits. -/
theorem user_code_not_found :
    let submission : Request :=
      .deviceVerify (generateDeviceCode {}).2 "user@apexaegis.app" "allmine"
    ((handle demoEnv submission).eval (exec demoEnv) (fun _ => {}) demoDevice).1 =
        .devicePage (generateDeviceCode {}).2 "Code not found or expired" ∧
      ((handle demoEnv (deviceGrant "app" (generateDeviceCode {}).1)).eval (exec demoEnv)
          (fun _ => {}) (afterRequest submission demoDevice)).1 =
        .failed 403 "authorization_pending"
          (some "The authorization request is still pending") ∧
      ¬ FlowCompletes demoEnv (fun _ => {}) (fun _ => {}) "app" "" (generateDeviceCode {}).1
        (generateDeviceCode {}).2 "user@apexaegis.app" "allmine" "user-1" demoDevice := by
  intro submission
  have pending : ((handle demoEnv (deviceGrant "app" (generateDeviceCode {}).1)).eval
      (exec demoEnv) (fun _ => {}) (afterRequest submission demoDevice)).1 =
        .failed 403 "authorization_pending"
          (some "The authorization request is still pending") := rfl
  refine ⟨rfl, pending, ?_⟩
  rintro ⟨_, response, tokens, _⟩
  have both := pending.symm.trans tokens
  cases both

end ManagementPlane.Oidc
