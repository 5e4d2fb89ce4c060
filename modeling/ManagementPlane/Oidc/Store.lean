import ManagementPlane.Lib.Encoding
import ManagementPlane.Lib.Interleave
import ManagementPlane.Lib.Jwt
import ManagementPlane.Lib.Tables
import ManagementPlane.Policy.Types

/-!
# The store of the OIDC provider

The records of `internal/oidc/provider.go` and the statements of
`internal/db/oidc_drs_store.go` that the OIDC endpoints execute, over the tables of
`048_oidc_provider_drs.sql`. Authorization codes and device codes share one table;
a device code sits under its code with `dc:` in front.

`exec` performs one operation of a handler: a statement, a reading of the clock, a
draw of random bytes or a signature. A choice says whether it fails and what the
clock and the random source deliver. A statement that fails changes nothing.
-/

namespace ManagementPlane.Oidc

open GoEncoding GoJson GoStrings Interleave Jwt Policy Tables Option AList

structure OIDCClient where
  clientID : String
  clientSecretHash : String
  name : String
  clientType : String
  redirectURIs : Option (List String)
  grantTypes : Option (List String)
  scopes : Option (List String)
  enabled : Bool

structure AuthCode where
  code : String
  clientID : String
  userID : String
  orgID : String
  scopes : Option (List String)
  redirectURI : String
  codeChallenge : String
  codeChallengeMethod : String
  expiresAt : Time
  used : Bool := false

inductive TokenType where
  | access
  | refresh
  deriving DecidableEq

structure TokenRecord where
  tokenID : String
  clientID : String
  userID : String := ""
  orgID : String := ""
  tokenType : TokenType
  scopes : Option (List String)
  expiresAt : Time
  revoked : Bool := false

structure DeviceCodeRecord where
  deviceCode : String
  userCode : String := ""
  clientID : String
  scopes : Option (List String)
  interval : Int
  expiresAt : Time
  userAuthorized : Bool
  userID : String := ""
  orgID : String := ""
  verificationURI : String

structure UserInfo where
  userID : String
  orgID : String
  email : String
  name : String
  role : String

structure ClientRow where
  clientSecretHash : String
  name : String
  clientType : String
  redirectURIs : Json
  grantTypes : Json
  scopes : Json
  enabled : Bool

structure UserRow where
  id : String
  orgID : String
  name : String
  role : String
  status : String
  passwordHash : Option String

structure AuthCodeRow where
  clientID : String
  userID : Option String
  orgID : Option String
  scopes : Json
  redirectURI : Option String
  codeChallenge : Option String
  codeChallengeMethod : Option String
  expiresAt : Time
  used : Bool

structure TokenRow where
  clientID : String
  userID : Option String
  orgID : Option String
  tokenType : TokenType
  scopes : Json
  expiresAt : Time
  revoked : Bool

structure OIDCDRSStore where
  clients : Table String ClientRow
  users : Table String UserRow
  authCodes : Table String AuthCodeRow
  tokens : Table String TokenRow

def AuthCodeRow.fits (code : String) (row : AuthCodeRow) : Bool :=
  code.length ≤ 255 && row.clientID.length ≤ 128 && (row.userID.getD "").length ≤ 128 &&
    (row.orgID.getD "").length ≤ 64 && (row.redirectURI.getD "").length ≤ 1024 &&
    (row.codeChallenge.getD "").length ≤ 255 && (row.codeChallengeMethod.getD "").length ≤ 16

def TokenRow.fits (tokenID : String) (row : TokenRow) : Bool :=
  tokenID.length ≤ 255 && row.clientID.length ≤ 128 && (row.userID.getD "").length ≤ 128 &&
    (row.orgID.getD "").length ≤ 64

def scopesJSON : Option (List String) → Json
  | none => .null
  | some scopes => stringsDocument scopes

def deviceCodeKey (deviceCode : String) : String := "dc:" ++ deviceCode

namespace OIDCDRSStore

variable (s : OIDCDRSStore)

def getOIDCClient (clientID : String) : Except String OIDCClient :=
  match s.clients.lookup clientID with
  | none => .error "client not found"
  | some row =>
    .ok
      { clientID := clientID
        clientSecretHash := row.clientSecretHash
        name := row.name
        clientType := row.clientType
        redirectURIs := unmarshalStrings row.redirectURIs
        grantTypes := unmarshalStrings row.grantTypes
        scopes := unmarshalStrings row.scopes
        enabled := row.enabled }

def insertAuthCode (code : String) (row : AuthCodeRow) : Except String OIDCDRSStore :=
  if !row.fits code then .error "value too long for type character varying"
  else if (s.authCodes.lookup code).isSome then
    .error "duplicate key value violates unique constraint"
  else .ok { s with authCodes := s.authCodes.insert code row }

def saveAuthCode (code : AuthCode) : Except String OIDCDRSStore :=
  s.insertAuthCode code.code
    { clientID := code.clientID
      userID := some code.userID
      orgID := some code.orgID
      scopes := scopesJSON code.scopes
      redirectURI := some code.redirectURI
      codeChallenge := some code.codeChallenge
      codeChallengeMethod := some code.codeChallengeMethod
      expiresAt := code.expiresAt
      used := false }

def getAuthCode (code : String) : Except String AuthCode :=
  match s.authCodes.lookup code with
  | none => .error "code not found"
  | some row =>
    .ok
      { code := code
        clientID := row.clientID
        userID := row.userID.getD ""
        orgID := row.orgID.getD ""
        scopes := unmarshalStrings row.scopes
        redirectURI := row.redirectURI.getD ""
        codeChallenge := row.codeChallenge.getD ""
        codeChallengeMethod := row.codeChallengeMethod.getD "S256"
        expiresAt := row.expiresAt
        used := row.used }

def consumeAuthCode (code : String) : Except String OIDCDRSStore :=
  .ok { s with authCodes := updateRow code (fun row => { row with used := true }) s.authCodes }

def saveToken (token : TokenRecord) : Except String OIDCDRSStore :=
  let row : TokenRow :=
    { clientID := token.clientID
      userID := some token.userID
      orgID := some token.orgID
      tokenType := token.tokenType
      scopes := scopesJSON token.scopes
      expiresAt := token.expiresAt
      revoked := false }
  if !row.fits token.tokenID then .error "value too long for type character varying"
  else if (s.tokens.lookup token.tokenID).isSome then .ok s
  else .ok { s with tokens := s.tokens.insert token.tokenID row }

def getToken (tokenID : String) : Except String TokenRecord :=
  match s.tokens.lookup tokenID with
  | none => .error "token not found"
  | some row =>
    .ok
      { tokenID := tokenID
        clientID := row.clientID
        userID := row.userID.getD ""
        orgID := row.orgID.getD ""
        tokenType := row.tokenType
        scopes := unmarshalStrings row.scopes
        expiresAt := row.expiresAt
        revoked := row.revoked }

def revokeToken (tokenID : String) : Except String OIDCDRSStore :=
  .ok { s with tokens := updateRow tokenID (fun row => { row with revoked := true }) s.tokens }

def saveDeviceCode (dc : DeviceCodeRecord) : Except String OIDCDRSStore :=
  s.insertAuthCode (deviceCodeKey dc.deviceCode)
    { clientID := dc.clientID
      userID := some ""
      orgID := some ""
      scopes := .obj
        [("verification_uri", .str dc.verificationURI),
          ("interval", .num (toString dc.interval)),
          ("user_authorized", .bool dc.userAuthorized)]
      redirectURI := some dc.verificationURI
      codeChallenge := none
      codeChallengeMethod := some "S256"
      expiresAt := dc.expiresAt
      used := false }

def truncated (literal : String) : Int :=
  ((String.ofList (literal.toList.takeWhile (· ≠ '.'))).toInt?).getD 0

def getDeviceCode (deviceCode : String) : Except String DeviceCodeRecord :=
  match s.authCodes.lookup (deviceCodeKey deviceCode) with
  | none => .error "device code not found"
  | some row =>
    .ok
      { deviceCode := deviceCode
        clientID := row.clientID
        scopes := some []
        expiresAt := row.expiresAt
        userAuthorized := row.userID.getD "" ≠ ""
        userID := row.userID.getD ""
        orgID := row.orgID.getD ""
        verificationURI := row.redirectURI.getD ""
        interval :=
          match row.scopes.field "interval" with
          | some (.num literal) => truncated literal
          | _ => 5 }

def completeDeviceCode (deviceCode userID orgID : String) : Except String OIDCDRSStore :=
  let key := deviceCodeKey deviceCode
  if (s.authCodes.lookup key).isSome && !(userID.length ≤ 128 && orgID.length ≤ 64) then
    .error "value too long for type character varying"
  else
    .ok
      { s with
        authCodes :=
          updateRow key (fun row => { row with userID := some userID, orgID := some orgID })
            s.authCodes }

end OIDCDRSStore

/-- What the provider is configured with, and the functions of its libraries. -/
structure Env where
  issuer : String
  signingKey : String
  signedString : Signed MapClaims → String
  sha256 : List UInt8 → List UInt8
  compareHashAndPassword : (hash password : String) → Option String
  decodeString : String → Option (List UInt8)
  unmarshalMap : List UInt8 → Option (String → String)

structure Choice where
  failure : Option String := none
  now : Time := 0
  random : Nat → UInt8 := fun _ => 0

section
variable (env : Env)

def bcryptCompare (hash password : String) : Option String :=
  if hash = "" then some "no password set" else env.compareHashAndPassword hash password

def verifyPassword (user : UserRow) (password : String) : Option String :=
  match user.passwordHash with
  | none => some "invalid credentials"
  | some hash => if hash = "" then some "invalid credentials" else bcryptCompare env hash password

def OIDCDRSStore.authenticateUser (s : OIDCDRSStore) (email password : String) :
    Except String UserInfo :=
  match s.users.lookup email with
  | none => .error "invalid credentials"
  | some user =>
    if user.status ≠ "active" then .error "invalid credentials"
    else
      match verifyPassword env user password with
      | some err => .error err
      | none => .ok ⟨user.id, user.orgID, email, user.name, user.role⟩

def randomBytes (choice : Choice) (start count : Nat) : List UInt8 :=
  (List.range count).map fun i => choice.random (start + i)

def generateAuthCode (choice : Choice) : String := encodeToString (randomBytes choice 0 32)

def generateDeviceCode (choice : Choice) : String × String :=
  (encodeToString (randomBytes choice 0 32),
    String.ofList (upperHex (randomBytes choice 32 2) ++ '-' :: upperHex (randomBytes choice 34 2)))

def generateRefreshToken (choice : Choice) : String := encodeToString (randomBytes choice 0 64)

def generateNonce (choice : Choice) : String := encodeToString (randomBytes choice 0 16)

def validatePKCE (codeVerifier codeChallenge method : String) : Bool :=
  if codeChallenge = "" then true
  else if method = "S256" then
    encodeToString (env.sha256 codeVerifier.toUTF8.data.toList) = codeChallenge
  else if method = "plain" then codeVerifier = codeChallenge
  else false

def verifyClientSecret (_secret hash : String) : Bool := hash = "$2a$12$placeholder_hash"

def scopeClaim (scope : String) : Option String :=
  if scope = "profile" then some "name"
  else if scope = "email" then some "email"
  else if scope = "device" then some "device_id"
  else none

def addScopeClaim (extraClaims claims : MapClaims) (scope : String) : MapClaims :=
  match scopeClaim scope with
  | none => claims
  | some name =>
    match (extraClaims name).bind Json.asString with
    | some value => claims.set name (.str value)
    | none => claims

def idTokenClaims (sub iss aud : String) (scopes : Option (List String))
    (extraClaims : MapClaims) (now : Time) (nonce : String) : MapClaims :=
  let claims := MapClaims.ofList
    [("iss", .str iss), ("sub", .str sub), ("aud", .str aud),
      ("iat", .num (toString (unix now))), ("exp", .num (toString (unix (now + 60 * minute)))),
      ("nonce", .str nonce)]
  let withScopes := (scopes.getD []).foldl (addScopeClaim extraClaims) claims
  fun key => (withScopes key).or (extraClaims key)

def accessTokenClaims (clientID sub iss : String) (scopes : Option (List String))
    (extraClaims : MapClaims) (now : Time) : MapClaims :=
  let claims := MapClaims.ofList
    [("iss", .str iss), ("sub", .str sub), ("iat", .num (toString (unix now))),
      ("exp", .num (toString (unix (now + 15 * minute)))),
      ("scope", .str (" ".intercalate (scopes.getD []))), ("client_id", .str clientID)]
  fun key => (extraClaims key).or (claims key)

def issueIDToken (choice : Choice) (_clientID sub iss aud : String)
    (scopes : Option (List String)) (extraClaims : MapClaims) : Signed MapClaims where
  key := env.signingKey
  claims := idTokenClaims sub iss aud scopes extraClaims choice.now (generateNonce choice)

def issueAccessToken (choice : Choice) (clientID sub iss : String)
    (scopes : Option (List String)) (extraClaims : MapClaims) : Signed MapClaims where
  key := env.signingKey
  claims := accessTokenClaims clientID sub iss scopes extraClaims choice.now

end

inductive Op where
  | getOIDCClient (clientID : String)
  | saveAuthCode (code : AuthCode)
  | getAuthCode (code : String)
  | consumeAuthCode (code : String)
  | saveToken (token : TokenRecord)
  | getToken (tokenID : String)
  | revokeToken (tokenID : String)
  | saveDeviceCode (dc : DeviceCodeRecord)
  | getDeviceCode (deviceCode : String)
  | completeDeviceCode (deviceCode userID orgID : String)
  | authenticateUser (email password : String)
  | now
  | generateAuthCode
  | generateDeviceCode
  | generateRefreshToken
  | issueIDToken (clientID sub iss aud : String) (scopes : Option (List String))
      (extraClaims : MapClaims)
  | issueAccessToken (clientID sub iss : String) (scopes : Option (List String))
      (extraClaims : MapClaims)

abbrev Op.Ans : Op → Type
  | .getOIDCClient _ => Except String OIDCClient
  | .saveAuthCode _ => Except String Unit
  | .getAuthCode _ => Except String AuthCode
  | .consumeAuthCode _ => Except String Unit
  | .saveToken _ => Except String Unit
  | .getToken _ => Except String TokenRecord
  | .revokeToken _ => Except String Unit
  | .saveDeviceCode _ => Except String Unit
  | .getDeviceCode _ => Except String DeviceCodeRecord
  | .completeDeviceCode _ _ _ => Except String Unit
  | .authenticateUser _ _ => Except String UserInfo
  | .now => Time
  | .generateAuthCode => Except String String
  | .generateDeviceCode => Except String (String × String)
  | .generateRefreshToken => Except String String
  | .issueIDToken .. => Except String (Signed MapClaims)
  | .issueAccessToken .. => Except String (Signed MapClaims)

abbrev Event := Interleave.Event Op Op.Ans

def attempt {α : Type} (choice : Choice) (result : Except String α) : Except String α :=
  match choice.failure with
  | some err => .error err
  | none => result

def execute (choice : Choice) (s : OIDCDRSStore) (statement : Except String OIDCDRSStore) :
    Except String Unit × OIDCDRSStore :=
  match attempt choice statement with
  | .error err => (.error err, s)
  | .ok written => (.ok (), written)

def exec (env : Env) (choice : Choice) (s : OIDCDRSStore) : (op : Op) → op.Ans × OIDCDRSStore
  | .getOIDCClient clientID => (attempt choice (s.getOIDCClient clientID), s)
  | .saveAuthCode code => execute choice s (s.saveAuthCode code)
  | .getAuthCode code => (attempt choice (s.getAuthCode code), s)
  | .consumeAuthCode code => execute choice s (s.consumeAuthCode code)
  | .saveToken token => execute choice s (s.saveToken token)
  | .getToken tokenID => (attempt choice (s.getToken tokenID), s)
  | .revokeToken tokenID => execute choice s (s.revokeToken tokenID)
  | .saveDeviceCode dc => execute choice s (s.saveDeviceCode dc)
  | .getDeviceCode deviceCode => (attempt choice (s.getDeviceCode deviceCode), s)
  | .completeDeviceCode deviceCode userID orgID =>
    execute choice s (s.completeDeviceCode deviceCode userID orgID)
  | .authenticateUser email password => (attempt choice (s.authenticateUser env email password), s)
  | .now => (choice.now, s)
  | .generateAuthCode => (attempt choice (.ok (Oidc.generateAuthCode choice)), s)
  | .generateDeviceCode => (attempt choice (.ok (Oidc.generateDeviceCode choice)), s)
  | .generateRefreshToken => (attempt choice (.ok (Oidc.generateRefreshToken choice)), s)
  | .issueIDToken clientID sub iss aud scopes extraClaims =>
    (attempt choice (.ok (Oidc.issueIDToken env choice clientID sub iss aud scopes extraClaims)), s)
  | .issueAccessToken clientID sub iss scopes extraClaims =>
    (attempt choice (.ok (Oidc.issueAccessToken env choice clientID sub iss scopes extraClaims)), s)

theorem addScopeClaim_sub (extraClaims claims : MapClaims) (scope : String) :
    addScopeClaim extraClaims claims scope "sub" = claims "sub" := by
  unfold addScopeClaim
  cases asked : scopeClaim scope with
  | none => rfl
  | some name =>
    have other : "sub" ≠ name := by
      rintro rfl
      simp [scopeClaim] at asked
      grind
    dsimp only
    cases (extraClaims name).bind Json.asString with
    | none => rfl
    | some value => exact if_neg other

theorem idTokenClaims_sub (sub iss aud : String) (scopes : Option (List String))
    (extraClaims : MapClaims) (now : Time) (nonce : String) :
    idTokenClaims sub iss aud scopes extraClaims now nonce "sub" = some (.str sub) := by
  have kept : ∀ (list : List String) (claims : MapClaims),
      list.foldl (addScopeClaim extraClaims) claims "sub" = claims "sub" := by
    intro list
    induction list with
    | nil => exact fun _ => rfl
    | cons scope rest ih =>
      intro claims
      rw [List.foldl_cons, ih, addScopeClaim_sub]
  simp only [idTokenClaims, kept]
  rfl

/-! ## What an operation does to the tables -/

theorem execute_cases (choice : Choice) (s : OIDCDRSStore)
    (statement : Except String OIDCDRSStore) :
    (∃ err, execute choice s statement = (.error err, s)) ∨
      ∃ written, statement = .ok written ∧ execute choice s statement = (.ok (), written) := by
  unfold execute attempt
  cases choice.failure with
  | some err => exact .inl ⟨err, rfl⟩
  | none =>
    cases statement with
    | error err => exact .inl ⟨err, rfl⟩
    | ok written => exact .inr ⟨written, rfl, rfl⟩

variable {choice : Choice}

theorem attempt_ok {α : Type} {result : Except String α} {a : α}
    (answered : attempt choice result = .ok a) : result = .ok a := by
  unfold attempt at answered
  split at answered
  · cases answered
  · exact answered

variable {row : AuthCodeRow}

theorem insertAuthCode_ok {s written : OIDCDRSStore} {code : String}
    (inserted : s.insertAuthCode code row = .ok written) :
    s.authCodes.lookup code = none ∧
      written = { s with authCodes := s.authCodes.insert code row } := by
  unfold OIDCDRSStore.insertAuthCode at inserted
  split_ifs at inserted with tooLong taken
  cases inserted
  exact ⟨by simpa using taken, rfl⟩

/-- What an operation, with the answer it got, has done to the store. -/
inductive Write (s : OIDCDRSStore) (event : Event) (after : OIDCDRSStore) : Prop
  | unchanged (same : after = s)
  | savedCode (code : AuthCode) (row : AuthCodeRow)
      (performed : event = ⟨.saveAuthCode code, .ok ()⟩)
      (free : s.authCodes.lookup code.code = none) (user : row.userID = some code.userID)
      (written : after = { s with authCodes := s.authCodes.insert code.code row })
  | savedDevice (dc : DeviceCodeRecord) (row : AuthCodeRow)
      (performed : event = ⟨.saveDeviceCode dc, .ok ()⟩)
      (free : s.authCodes.lookup (deviceCodeKey dc.deviceCode) = none)
      (user : row.userID = some "")
      (written : after =
        { s with authCodes := s.authCodes.insert (deviceCodeKey dc.deviceCode) row })
  | consumed (code : String) (performed : event = ⟨.consumeAuthCode code, .ok ()⟩)
      (written : after =
        { s with authCodes := updateRow code (fun row => { row with used := true }) s.authCodes })
  | completed (deviceCode userID orgID : String)
      (performed : event = ⟨.completeDeviceCode deviceCode userID orgID, .ok ()⟩)
      (written : after =
        { s with
          authCodes := updateRow (deviceCodeKey deviceCode)
            (fun row => { row with userID := some userID, orgID := some orgID }) s.authCodes })
  | savedToken (token : TokenRecord) (row : TokenRow)
      (performed : event = ⟨.saveToken token, .ok ()⟩)
      (kind : row.tokenType = token.tokenType) (user : row.userID = some token.userID)
      (written : after = { s with tokens := s.tokens.insert token.tokenID row })
  | revoked (tokenID : String) (performed : event = ⟨.revokeToken tokenID, .ok ()⟩)
      (written : after =
        { s with tokens := updateRow tokenID (fun row => { row with revoked := true }) s.tokens })

variable {s : OIDCDRSStore}

theorem write_execute (choice : Choice) {op : Op}
    (answers : op.Ans = Except String Unit) {statement : Except String OIDCDRSStore}
    (effect : ∀ written, statement = .ok written →
      Write s ⟨op, answers ▸ (.ok () : Except String Unit)⟩ written) :
    Write s ⟨op, answers ▸ (execute choice s statement).1⟩ (execute choice s statement).2 := by
  rcases execute_cases choice s statement with ⟨err, failed⟩ | ⟨written, succeeded, done⟩
  · rw [failed]
    exact .unchanged rfl
  · rw [done]
    exact effect written succeeded

variable (env : Env)

theorem write_exec (choice : Choice) (s : OIDCDRSStore) (op : Op) :
    Write s ⟨op, (exec env choice s op).1⟩ (exec env choice s op).2 := by
  cases op with
  | saveAuthCode code =>
    refine write_execute choice rfl fun written inserted => ?_
    obtain ⟨free, rfl⟩ := insertAuthCode_ok inserted
    exact .savedCode code _ rfl free rfl rfl
  | saveDeviceCode dc =>
    refine write_execute choice rfl fun written inserted => ?_
    obtain ⟨free, rfl⟩ := insertAuthCode_ok inserted
    exact .savedDevice dc _ rfl free rfl rfl
  | consumeAuthCode code =>
    refine write_execute choice rfl fun written updated => ?_
    cases updated
    exact .consumed code rfl rfl
  | completeDeviceCode deviceCode userID orgID =>
    refine write_execute choice rfl fun written updated => ?_
    simp [OIDCDRSStore.completeDeviceCode] at updated
    split_ifs at updated
    cases updated
    exact .completed deviceCode userID orgID rfl rfl
  | saveToken token =>
    refine write_execute choice rfl fun written saved => ?_
    simp [OIDCDRSStore.saveToken] at saved
    split_ifs at saved
    · cases saved
      exact .unchanged rfl
    · cases saved
      exact .savedToken token _ rfl rfl rfl rfl
  | revokeToken tokenID =>
    refine write_execute choice rfl fun written revoked => ?_
    cases revoked
    exact .revoked tokenID rfl rfl
  | _ => exact .unchanged rfl

theorem authCode_kept (choice : Choice) (op : Op) {key : String}
    (found : s.authCodes.lookup key = some row) :
    ∃ later, (exec env choice s op).2.authCodes.lookup key = some later ∧
      (row.used = true → later.used = true) := by
  have inserting : ∀ code new, s.authCodes.lookup code = none →
      (s.authCodes.insert code new).lookup key = some row := by
    grind [lookup_insert_ne]
  have updating : ∀ code (f : AuthCodeRow → AuthCodeRow),
      (∀ old, old.used = true → (f old).used = true) →
      ∃ later, (updateRow code f s.authCodes).lookup key = some later ∧
        (row.used = true → later.used = true) := by
    grind [lookup_updateRow]
  cases write_exec env choice s op with
  | unchanged same => exact ⟨row, by rw [same, found], id⟩
  | savedCode code new _ free _ written | savedDevice dc new _ free _ written =>
    rw [written]
    exact ⟨row, inserting _ new free, id⟩
  | consumed code _ written =>
    rw [written]
    exact updating code _ fun _ _ => rfl
  | completed deviceCode userID orgID _ written =>
    rw [written]
    exact updating _ _ fun _ isUsed => isUsed
  | savedToken token new _ _ _ written | revoked tokenID _ written =>
    exact ⟨row, by rw [written]; exact found, id⟩

/-- Where the user of a code comes from: an older row, the login that saved it, or the
user who completed a device code. A new device code has none. -/
theorem authCode_user {env : Env} {op : Op} {key : String}
    (found : (exec env choice s op).2.authCodes.lookup key = some row) :
    (∃ old, s.authCodes.lookup key = some old ∧ row.userID = old.userID) ∨
      (∃ code, (⟨op, (exec env choice s op).1⟩ : Event) = ⟨.saveAuthCode code, .ok ()⟩ ∧
        key = code.code ∧ row.userID = some code.userID) ∨
      (∃ deviceCode, key = deviceCodeKey deviceCode ∧ row.userID = some "") ∨
      ∃ deviceCode userID orgID, (⟨op, (exec env choice s op).1⟩ : Event) =
        ⟨.completeDeviceCode deviceCode userID orgID, .ok ()⟩ ∧
        key = deviceCodeKey deviceCode ∧ row.userID = some userID := by
  have inserted : ∀ code new, (s.authCodes.insert code new).lookup key = some row →
      key = code ∧ row = new ∨ s.authCodes.lookup key = some row := by
    grind [lookup_insert, some.injEq, lookup_insert_ne]
  have updated : ∀ code (f : AuthCodeRow → AuthCodeRow),
      (updateRow code f s.authCodes).lookup key = some row →
      (∃ old, s.authCodes.lookup key = some old ∧ (row = old ∨ key = code ∧ row = f old)) := by
    grind [lookup_updateRow, map_eq_some_iff]
  cases write_exec env choice s op with
  | unchanged same => exact .inl ⟨row, by rw [← same, found], rfl⟩
  | savedCode code new performed free user written
  | savedDevice dc new performed free user written | consumed code performed written
  | completed deviceCode userID orgID performed written =>
    grind
  | savedToken token new performed kind user written | revoked tokenID performed written =>
    rw [written] at found
    exact .inl ⟨row, found, rfl⟩

variable {tokenID : String}

theorem token_user {env : Env} {op : Op}
    {row : TokenRow} (found : (exec env choice s op).2.tokens.lookup tokenID = some row) :
    (∃ old, s.tokens.lookup tokenID = some old ∧ row.userID = old.userID ∧
        row.tokenType = old.tokenType) ∨
      ∃ token, (⟨op, (exec env choice s op).1⟩ : Event) = ⟨.saveToken token, .ok ()⟩ ∧
        tokenID = token.tokenID ∧ row.userID = some token.userID ∧
        row.tokenType = token.tokenType := by
  have same : (exec env choice s op).2.tokens = s.tokens → (∃ old,
      s.tokens.lookup tokenID = some old ∧ row.userID = old.userID ∧
        row.tokenType = old.tokenType) := by
    grind
  cases write_exec env choice s op with
  | unchanged unchanged => exact .inl (same (by rw [unchanged]))
  | savedCode _ _ _ _ _ written | savedDevice _ _ _ _ _ written | consumed _ _ written
  | completed _ _ _ _ written => exact .inl (same (by rw [written]))
  | savedToken token new performed kind user written =>
    grind [lookup_insert, some.injEq, lookup_insert_ne]
  | revoked revokedID performed written =>
    grind [lookup_updateRow, map_eq_some_iff]

theorem clients_exec (choice : Choice) (s : OIDCDRSStore) (op : Op) :
    (exec env choice s op).2.clients = s.clients := by
  cases write_exec env choice s op with
  | unchanged same => rw [same]
  | savedCode _ _ _ _ _ written | savedDevice _ _ _ _ _ written | consumed _ _ written
  | completed _ _ _ _ written | savedToken _ _ _ _ _ written | revoked _ _ written => rw [written]

theorem saveToken_ok {s written : OIDCDRSStore} {token : TokenRecord}
    (saved : s.saveToken token = .ok written) :
    written = s ∨ ∃ row, s.tokens.lookup token.tokenID = none ∧ row.tokenType = token.tokenType ∧
      row.revoked = false ∧ written = { s with tokens := s.tokens.insert token.tokenID row } := by
  simp [OIDCDRSStore.saveToken] at saved
  split_ifs at saved with tooLong taken
  · cases saved
    exact .inl rfl
  · cases saved
    exact .inr ⟨_, by simpa using taken, rfl, rfl, rfl⟩

theorem token_kept (choice : Choice) (op : Op)
    {row : TokenRow} (found : s.tokens.lookup tokenID = some row) :
    ∃ later, (exec env choice s op).2.tokens.lookup tokenID = some later ∧
      later.clientID = row.clientID ∧ later.tokenType = row.tokenType ∧
      (row.revoked = true → later.revoked = true) := by
  have same : (exec env choice s op).2.tokens = s.tokens → ∃ later,
      (exec env choice s op).2.tokens.lookup tokenID = some later ∧
        later.clientID = row.clientID ∧ later.tokenType = row.tokenType ∧
        (row.revoked = true → later.revoked = true) := by
    intro tokensEq
    exact ⟨row, by rw [tokensEq]; exact found, rfl, rfl, id⟩
  cases write_exec env choice s op with
  | unchanged unchanged => exact same (by rw [unchanged])
  | savedCode _ _ _ _ _ written | savedDevice _ _ _ _ _ written | consumed _ _ written
  | completed _ _ _ _ written => exact same (by rw [written])
  | savedToken token new performed _ _ _ =>
    have opEq := congrArg Interleave.Event.op performed
    subst opEq
    rcases execute_cases choice s (s.saveToken token) with ⟨err, failed⟩ | ⟨written, saved, done⟩
    · exact same (by rw [exec, failed])
    · rcases saveToken_ok saved with unchanged | ⟨inserted, free, _, _, writtenEq⟩
      · exact same (by rw [exec, done, unchanged])
      · have other : tokenID ≠ token.tokenID := by
          rintro rfl
          rw [free] at found
          cases found
        refine ⟨row, ?_, rfl, rfl, id⟩
        rw [exec, done, writtenEq]
        exact (lookup_insert_ne other).trans found
  | revoked revokedID _ written =>
    rw [written]
    simp [lookup_updateRow, found]
    by_cases here : tokenID = revokedID
    · exact ⟨_, if_pos here, rfl, rfl, fun _ => rfl⟩
    · exact ⟨row, if_neg here, rfl, rfl, id⟩

theorem revokeToken_row {row : TokenRow} (found : s.tokens.lookup tokenID = some row)
    (performed : choice.failure = none) :
    (exec env choice s (.revokeToken tokenID)).2.tokens.lookup tokenID =
      some { row with revoked := true } := by
  simp [exec, execute, attempt, performed, OIDCDRSStore.revokeToken, lookup_updateRow, found]

variable (env : Env) (choice : Choice) (s : OIDCDRSStore) (op : Op)

variable {env choice s op} in
theorem performed_iff {other : Op} {answer : other.Ans} :
    (⟨op, (exec env choice s op).1⟩ : Event) = ⟨other, answer⟩ ↔
      op = other ∧ (exec env choice s other).1 = answer := by
  constructor
  · grind
  · rintro ⟨rfl, rfl⟩
    rfl

theorem getAuthCode_answer {code : String} {authCode : AuthCode}
    (answered : (exec env choice s (.getAuthCode code)).1 = .ok authCode) :
    ∃ row, s.authCodes.lookup code = some row ∧ authCode.used = row.used ∧
      authCode.userID = row.userID.getD "" := by
  have read := attempt_ok answered
  unfold OIDCDRSStore.getAuthCode at read
  grind

theorem getDeviceCode_answer {deviceCode : String} {dc : DeviceCodeRecord}
    (answered : (exec env choice s (.getDeviceCode deviceCode)).1 = .ok dc) :
    ∃ row, s.authCodes.lookup (deviceCodeKey deviceCode) = some row ∧
      dc.userID = row.userID.getD "" ∧ dc.userAuthorized = decide (dc.userID ≠ "") := by
  have read := attempt_ok answered
  unfold OIDCDRSStore.getDeviceCode at read
  grind

theorem getToken_answer {tokenID : String} {tokenRecord : TokenRecord}
    (answered : (exec env choice s (.getToken tokenID)).1 = .ok tokenRecord) :
    ∃ row, s.tokens.lookup tokenID = some row ∧ tokenRecord.tokenType = row.tokenType ∧
      tokenRecord.userID = row.userID.getD "" := by
  have read := attempt_ok answered
  unfold OIDCDRSStore.getToken at read
  grind

theorem getToken_row {tokenID : String} {tokenRecord : TokenRecord}
    (answered : (exec env choice s (.getToken tokenID)).1 = .ok tokenRecord) :
    ∃ row, s.tokens.lookup tokenID = some row ∧ tokenRecord.tokenType = row.tokenType ∧
      tokenRecord.revoked = row.revoked ∧ tokenRecord.clientID = row.clientID := by
  have read := attempt_ok answered
  unfold OIDCDRSStore.getToken at read
  grind

end ManagementPlane.Oidc
