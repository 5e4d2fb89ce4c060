import ManagementPlane.Oidc.Store

/-!
# The OIDC endpoints

The handlers of `internal/oidc/handler.go` as programs over the operations of the
store and the provider, in the order in which the source performs them. Requests
hold the form and query values a handler reads; a missing value is empty. A page
is its template data.
-/

namespace ManagementPlane.Oidc

open GoEncoding GoJson GoStrings Interleave Jwt Policy Tables

abbrev Handled := Prog Op Op.Ans

namespace db

abbrev getOIDCClient (clientID : String) : Handled (Except String OIDCClient) :=
  perform (Op.getOIDCClient clientID)
abbrev saveAuthCode (code : AuthCode) : Handled (Except String Unit) :=
  perform (Op.saveAuthCode code)
abbrev getAuthCode (code : String) : Handled (Except String AuthCode) :=
  perform (Op.getAuthCode code)
abbrev consumeAuthCode (code : String) : Handled (Except String Unit) :=
  perform (Op.consumeAuthCode code)
abbrev saveToken (token : TokenRecord) : Handled (Except String Unit) :=
  perform (Op.saveToken token)
abbrev getToken (tokenID : String) : Handled (Except String TokenRecord) :=
  perform (Op.getToken tokenID)
abbrev revokeToken (tokenID : String) : Handled (Except String Unit) :=
  perform (Op.revokeToken tokenID)
abbrev saveDeviceCode (dc : DeviceCodeRecord) : Handled (Except String Unit) :=
  perform (Op.saveDeviceCode dc)
abbrev getDeviceCode (deviceCode : String) : Handled (Except String DeviceCodeRecord) :=
  perform (Op.getDeviceCode deviceCode)
abbrev completeDeviceCode (deviceCode userID orgID : String) : Handled (Except String Unit) :=
  perform (Op.completeDeviceCode deviceCode userID orgID)
abbrev authenticateUser (email password : String) : Handled (Except String UserInfo) :=
  perform (Op.authenticateUser email password)

end db

namespace provider

abbrev generateAuthCode : Handled (Except String String) := perform Op.generateAuthCode
abbrev generateDeviceCode : Handled (Except String (String × String)) :=
  perform Op.generateDeviceCode
abbrev generateRefreshToken : Handled (Except String String) := perform Op.generateRefreshToken
abbrev issueIDToken (clientID sub iss aud : String) (scopes : Option (List String))
    (extraClaims : MapClaims) : Handled (Except String (Signed MapClaims)) :=
  perform (Op.issueIDToken clientID sub iss aud scopes extraClaims)
abbrev issueAccessToken (clientID sub iss : String) (scopes : Option (List String))
    (extraClaims : MapClaims) : Handled (Except String (Signed MapClaims)) :=
  perform (Op.issueAccessToken clientID sub iss scopes extraClaims)

end provider

abbrev timeNow : Handled Time := perform Op.now

structure AuthorizeRequest where
  clientID : String := ""
  redirectURI : String := ""
  responseType : String := ""
  scope : String := ""
  state : String := ""
  codeChallenge : String := ""
  codeChallengeMethod : String := ""

structure TokenRequest where
  grantType : String
  basicAuth : Option (String × String) := none
  clientID : String := ""
  clientSecret : String := ""
  code : String := ""
  redirectURI : String := ""
  codeVerifier : String := ""
  refreshToken : String := ""
  deviceCode : String := ""
  scope : String := ""

inductive Request where
  | authorize (req : AuthorizeRequest)
  | authorizeLogin (stateToken email password : String)
  | token (req : TokenRequest)
  | deviceCode (clientID scope : String)
  | deviceVerify (userCode email password : String)
  | revoke (token : String)

structure TokenResponse where
  tokenType : String := "Bearer"
  accessToken : Signed MapClaims
  refreshToken : Option String := none
  idToken : Option (Signed MapClaims) := none
  expiresIn : Int := 900
  scope : Option String := none

inductive Reply where
  | failed (status : Nat) (error : String) (description : Option String := none)
  | loginPage (state clientName : String) (scopes : Option (List String)) (error : String)
  | redirect (url : String)
  | tokens (response : TokenResponse)
  | deviceCode (deviceCode userCode verificationURI : String) (expiresIn interval : Int)
  | devicePage (userCode error : String)
  | deviceSuccess (userName : String)
  | empty

def Reply.badRequest (error : String) : Reply := .failed 400 error
def Reply.unauthorized (error : String) : Reply := .failed 401 error
def Reply.serverError (error : String) : Reply := .failed 500 error

/-- Credentials of the authorization header, or those of the form when it names no
client. -/
def TokenRequest.client (req : TokenRequest) : String × String :=
  let (clientID, clientSecret) := req.basicAuth.getD ("", "")
  if clientID = "" then (req.clientID, req.clientSecret) else (clientID, clientSecret)

section
variable (env : Env)

def loginDataJSON (req : AuthorizeRequest) (codeChallengeMethod : String) : List UInt8 :=
  let text := (marshalStruct
    [Field.string "client_id" req.clientID,
      Field.string "code_challenge" req.codeChallenge,
      Field.string "code_challenge_method" codeChallengeMethod,
      Field.string "redirect_uri" req.redirectURI,
      Field.string "response_type" req.responseType,
      Field.string "scope" req.scope,
      Field.string "state" req.state]).getD []
  (String.ofList text).toUTF8.data.toList

def stateToken (req : AuthorizeRequest) (codeChallengeMethod : String) : String :=
  encodeToString (loginDataJSON req codeChallengeMethod)

def authorize (req : AuthorizeRequest) : Handled Reply := do
  let codeChallengeMethod :=
    if req.codeChallengeMethod = "" then "S256" else req.codeChallengeMethod
  if req.clientID = "" ∨ req.redirectURI = "" ∨ req.responseType = "" then
    return .badRequest "missing required parameters"
  let .ok client ← db.getOIDCClient req.clientID
    | return .badRequest "invalid or disabled client"
  if !client.enabled then return .badRequest "invalid or disabled client"
  return .loginPage (stateToken req codeChallengeMethod) client.name
    (some (split req.scope ' ')) ""

def redirectURL (loginData : String → String) (code : String) : String :=
  let redirectURI := loginData "redirect_uri"
  let separator := if contains redirectURI "?" then "&" else "?"
  let withCode := redirectURI ++ separator ++ "code=" ++ code
  if loginData "state" ≠ "" then withCode ++ "&state=" ++ loginData "state" else withCode

def authorizeLogin (stateToken email password : String) : Handled Reply := do
  if stateToken = "" ∨ email = "" ∨ password = "" then
    return .badRequest "missing required fields"
  let some decoded := env.decodeString stateToken
    | return .badRequest "invalid state"
  let some loginData := env.unmarshalMap decoded
    | return .badRequest "invalid state data"
  let .ok user ← db.authenticateUser email password
    | return .loginPage stateToken (loginData "client_id") none "Invalid email or password"
  let .ok code ← provider.generateAuthCode | return .serverError "failed to generate code"
  let now ← timeNow
  let .ok _ ← db.saveAuthCode
      { code := code
        clientID := loginData "client_id"
        userID := user.userID
        orgID := user.orgID
        scopes := some (split (loginData "scope") ' ')
        redirectURI := loginData "redirect_uri"
        codeChallenge := loginData "code_challenge"
        codeChallengeMethod := loginData "code_challenge_method"
        expiresAt := now + 10 * minute }
    | return .serverError "internal error"
  return .redirect (redirectURL loginData code)

def extraClaims (orgID : String) : MapClaims := MapClaims.ofList [("org_id", .str orgID)]

structure Issued where
  idToken : Signed MapClaims
  accessToken : Signed MapClaims
  refreshToken : String

/-- The three tokens that every grant of a user issues, in this order; the error of the
first failure is the reply's. -/
def issueTokens (clientID userID orgID : String) (scopes : Option (List String)) :
    Handled (Except String Issued) := do
  let .ok idToken ←
      provider.issueIDToken clientID userID env.issuer clientID scopes (extraClaims orgID)
    | return .error "failed to issue id_token"
  let .ok accessToken ←
      provider.issueAccessToken clientID userID env.issuer scopes (extraClaims orgID)
    | return .error "failed to issue access_token"
  let .ok refreshToken ← provider.generateRefreshToken
    | return .error "failed to generate refresh_token"
  return .ok ⟨idToken, accessToken, refreshToken⟩

def saveAccess (accessToken : Signed MapClaims) (clientID userID orgID : String)
    (scopes : Option (List String)) : Handled Unit := do
  let now ← timeNow
  let _ ← db.saveToken
    { tokenID := env.signedString accessToken
      clientID := clientID
      userID := userID
      orgID := orgID
      tokenType := .access
      scopes := scopes
      expiresAt := now + 15 * minute }
  return ()

def saveRefresh (refreshToken clientID userID orgID : String) (scopes : Option (List String)) :
    Handled Unit := do
  let now ← timeNow
  let _ ← db.saveToken
    { tokenID := refreshToken
      clientID := clientID
      userID := userID
      orgID := orgID
      tokenType := .refresh
      scopes := scopes
      expiresAt := now + 7 * 24 * 60 * minute }
  return ()

def handleAuthorizationCode (req : TokenRequest) : Handled Reply := do
  let clientID := req.client.1
  if req.code = "" ∨ clientID = "" then return .badRequest "missing code or client_id"
  let .ok client ← db.getOIDCClient clientID | return .unauthorized "invalid client"
  if !client.enabled then return .unauthorized "invalid client"
  if client.clientType = "confidential" ∧
      !verifyClientSecret req.client.2 client.clientSecretHash then
    return .unauthorized "invalid client_secret"
  let .ok authCode ← db.getAuthCode req.code | return .badRequest "invalid code"
  if authCode.used then return .badRequest "code already used"
  let now ← timeNow
  if authCode.expiresAt < now then return .badRequest "code expired"
  if authCode.clientID ≠ clientID then return .badRequest "code was not issued to this client"
  if authCode.redirectURI ≠ "" ∧ authCode.redirectURI ≠ req.redirectURI then
    return .badRequest "redirect_uri mismatch"
  if !validatePKCE env req.codeVerifier authCode.codeChallenge authCode.codeChallengeMethod then
    return .badRequest "invalid code_verifier"
  -- an error is logged and the request goes on
  let _ ← db.consumeAuthCode req.code
  match ← issueTokens env clientID authCode.userID authCode.orgID authCode.scopes with
  | .error err => return .serverError err
  | .ok issued =>
    saveAccess env issued.accessToken clientID authCode.userID authCode.orgID authCode.scopes
    saveRefresh issued.refreshToken clientID authCode.userID authCode.orgID authCode.scopes
    return .tokens
      { accessToken := issued.accessToken
        refreshToken := some issued.refreshToken
        idToken := some issued.idToken
        scope := some (" ".intercalate (authCode.scopes.getD [])) }

def handleRefreshToken (req : TokenRequest) : Handled Reply := do
  let clientID := req.client.1
  if req.refreshToken = "" ∨ clientID = "" then
    return .badRequest "missing refresh_token or client_id"
  let .ok tokenRecord ← db.getToken req.refreshToken | return .unauthorized "invalid refresh_token"
  if tokenRecord.tokenType ≠ .refresh ∨ tokenRecord.revoked then
    return .unauthorized "invalid refresh_token"
  let now ← timeNow
  if tokenRecord.expiresAt < now then return .unauthorized "refresh_token expired"
  match ← issueTokens env clientID tokenRecord.userID tokenRecord.orgID tokenRecord.scopes with
  | .error err => return .serverError err
  | .ok issued =>
    let _ ← db.revokeToken req.refreshToken
    saveRefresh issued.refreshToken clientID tokenRecord.userID tokenRecord.orgID
      tokenRecord.scopes
    saveAccess env issued.accessToken clientID tokenRecord.userID tokenRecord.orgID
      tokenRecord.scopes
    return .tokens
      { accessToken := issued.accessToken
        refreshToken := some issued.refreshToken
        idToken := some issued.idToken }

def handleDeviceCodeToken (req : TokenRequest) : Handled Reply := do
  let clientID := req.clientID
  if req.deviceCode = "" ∨ clientID = "" then
    return .badRequest "missing device_code or client_id"
  let .ok dc ← db.getDeviceCode req.deviceCode
    | return .failed 400 "invalid_device_code" (some "Device code not found")
  let now ← timeNow
  if dc.expiresAt < now then return .failed 400 "expired_token" (some "Device code expired")
  if dc.clientID ≠ clientID then return .badRequest "invalid_client"
  if !dc.userAuthorized then
    return .failed 403 "authorization_pending" (some "The authorization request is still pending")
  match ← issueTokens env clientID dc.userID dc.orgID dc.scopes with
  | .error err => return .serverError err
  | .ok issued =>
    saveAccess env issued.accessToken clientID dc.userID dc.orgID dc.scopes
    saveRefresh issued.refreshToken clientID dc.userID dc.orgID dc.scopes
    return .tokens
      { accessToken := issued.accessToken
        refreshToken := some issued.refreshToken
        idToken := some issued.idToken
        scope := some (" ".intercalate (dc.scopes.getD [])) }

def handleClientCredentials (req : TokenRequest) : Handled Reply := do
  let (clientID, clientSecret) := req.basicAuth.getD (req.clientID, req.clientSecret)
  if clientID = "" ∨ clientSecret = "" then return .unauthorized "missing client credentials"
  let .ok client ← db.getOIDCClient clientID | return .unauthorized "invalid client"
  if !client.enabled then return .unauthorized "invalid client"
  if !verifyClientSecret clientSecret client.clientSecretHash then
    return .unauthorized "invalid client_secret"
  let scopes := some (split req.scope ' ')
  let .ok accessToken ← provider.issueAccessToken clientID clientID env.issuer scopes fun _ => none
    | return .serverError "failed to issue access_token"
  saveAccess env accessToken clientID "" "" scopes
  return .tokens { accessToken := accessToken, scope := some req.scope }

def token (req : TokenRequest) : Handled Reply :=
  if req.grantType = "authorization_code" then handleAuthorizationCode env req
  else if req.grantType = "refresh_token" then handleRefreshToken env req
  else if req.grantType = "device_code" then handleDeviceCodeToken env req
  else if req.grantType = "client_credentials" then handleClientCredentials env req
  else return .badRequest "unsupported grant_type"

def deviceCode (clientID scope : String) : Handled Reply := do
  if clientID = "" then return .badRequest "missing client_id"
  let .ok client ← db.getOIDCClient clientID | return .badRequest "invalid or disabled client"
  if !client.enabled then return .badRequest "invalid or disabled client"
  let .ok (deviceCode, userCode) ← provider.generateDeviceCode
    | return .serverError "failed to generate device code"
  let verificationURI := env.issuer ++ "/device?user_code=" ++ userCode
  let now ← timeNow
  let .ok _ ← db.saveDeviceCode
      { deviceCode := deviceCode
        userCode := userCode
        clientID := clientID
        scopes := some (split scope ' ')
        interval := 5
        expiresAt := now + 15 * minute
        userAuthorized := false
        verificationURI := verificationURI }
    | return .serverError "internal error"
  return .deviceCode deviceCode userCode verificationURI 900 5

def deviceVerify (userCode email password : String) : Handled Reply := do
  if userCode = "" then return .devicePage userCode "Please enter the code from your device"
  -- the store looks codes up by device code, whatever the user entered
  let .ok dc ← db.getDeviceCode userCode
    | return .devicePage userCode "Code not found or expired"
  let now ← timeNow
  if dc.expiresAt < now then return .devicePage userCode "Code expired"
  if email = "" ∨ password = "" then return .devicePage userCode ""
  let .ok user ← db.authenticateUser email password
    | return .devicePage userCode "Invalid email or password"
  let .ok _ ← db.completeDeviceCode dc.deviceCode user.userID user.orgID
    | return .devicePage userCode "Internal error"
  return .deviceSuccess user.name

def revoke (token : String) : Handled Reply := do
  if token = "" then return .empty
  let _ ← db.revokeToken token
  return .empty

def handle : Request → Handled Reply
  | .authorize req => authorize req
  | .authorizeLogin stateToken email password => authorizeLogin env stateToken email password
  | .token req => token env req
  | .deviceCode clientID scope => deviceCode env clientID scope
  | .deviceVerify userCode email password => deviceVerify userCode email password
  | .revoke token => revoke token

end

abbrev Server := Pool OIDCDRSStore Request Op Op.Ans Reply

abbrev Action := Interleave.Input Request Choice

abbrev serve (env : Env) : Server → Action → Server := step (exec env) (handle env)

end ManagementPlane.Oidc
