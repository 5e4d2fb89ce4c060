import ManagementPlane.Lib.Encoding
import ManagementPlane.Sso.Handler

/-!
# Logins from the authorization to the callback

The other users of the pending map of `internal/api/handlers/sso_handler.go`: `Authorize`
puts an entry under a fresh state value, `CallbackRedirect` looks at one, `Callback` takes
one and the clean-up loop drops the old ones. Each of them holds the mutex for one
operation, and any number of requests and ticks of the clean-up loop run at once.
-/

namespace ManagementPlane.Sso

open GoStrings Interleave Policy Tables

inductive LoginOp where
  | handler (op : Op)
  | drawState
  | storePending (state idpID redirectURI callbackURI audience : String)
  | readPending (state : String)
  | sweep

abbrev LoginOp.Ans : LoginOp → Type
  | .handler op => op.Ans
  | .drawState => Except String String
  | .storePending .. => Time
  | .readPending _ => Option PendingAuth
  | .sweep => Unit

/-- The clean-up loop reads the clock once for each entry. -/
structure LoginChoice extends Choice where
  clock : String → Time := fun _ => 0

def drawnState (choice : Choice) : String :=
  GoEncoding.encodeToString ((List.range 24).map choice.random)

def execLogin (env : Env) (choice : LoginChoice) (world : World) : (op : LoginOp) → op.Ans × World
  | .handler op => exec env choice.toChoice world op
  | .drawState => (attempt choice.toChoice (.ok (drawnState choice.toChoice)), world)
  | .storePending state idpID redirectURI callbackURI audience =>
    -- the entry is stamped under the mutex
    (choice.now,
      { world with
        pending := world.pending.insert state
          { idpID := idpID
            redirectURI := redirectURI
            callbackURI := callbackURI
            audience := audience
            createdAt := choice.now } })
  | .readPending state => (world.pending.lookup state, world)
  | .sweep =>
    ((),
      { world with
        pending := updateAll
          (fun state pending =>
            if 15 * minute < choice.clock state - pending.createdAt then none else some pending)
          world.pending })

abbrev Logins := Prog LoginOp LoginOp.Ans

abbrev LoginEvent := Event LoginOp LoginOp.Ans

def onHandler {α : Type} (p : Handled α) : Logins α := p.lift LoginOp.handler fun _ ans => ans

abbrev drawState : Logins (Except String String) := perform LoginOp.drawState
abbrev storePending (state idpID redirectURI callbackURI audience : String) : Logins Time :=
  perform (LoginOp.storePending state idpID redirectURI callbackURI audience)
abbrev readPending (state : String) : Logins (Option PendingAuth) :=
  perform (LoginOp.readPending state)
abbrev sweep : Logins Unit := perform LoginOp.sweep

/-- The environment of the process, the scopes of the identity providers and the parts of
`net/url` that write queries. -/
structure Site where
  publicAPIURLs : List String
  deployMode : String
  webUIPublicURL : String
  userPortalLoginURL : String
  desktopLoginCallbackURL : String
  scopes : IdPConfig → List String
  queryEscape : String → String
  setCodeAndState : String → String → String → Option String

structure AuthorizeRequest where
  idpID : String
  audience : String := ""
  origin : String := ""
  originHeader : String := ""
  forwardedHost : String := ""
  forwardedProto : String := ""
  host : String := ""
  tls : Bool := false

section
variable (site : Site) (req : AuthorizeRequest)

def scheme : String :=
  if req.forwardedProto ≠ "" then req.forwardedProto else if req.tls then "https" else "http"

def publicAPIBaseURL : String :=
  match (site.publicAPIURLs.map trimSpace).find? (· ≠ "") with
  | some value => value
  | none => if site.deployMode = "cloud" then "https://api.apexaegis.app" else ""

def callbackURL : String :=
  let path := "/api/v1/auth/sso/callback"
  if publicAPIBaseURL site ≠ "" then trimRight (publicAPIBaseURL site) '/' ++ path
  else if req.forwardedHost ≠ "" then scheme req ++ "://" ++ req.forwardedHost ++ path
  else scheme req ++ "://" ++ req.host ++ path

def firstNonEmpty (texts : List String) : String := (texts.find? (· ≠ "")).getD ""

def webLoginURL : String :=
  firstNonEmpty
    [trimRight req.origin '/', trimRight req.originHeader '/', trimRight site.webUIPublicURL '/',
      if site.deployMode = "cloud" then "https://www.apexaegis.app" else "",
      scheme req ++ "://" ++ req.host] ++ "/login"

def portalLoginURL : String :=
  firstNonEmpty [trimSpace site.userPortalLoginURL, "https://users.apexaegis.app"]

def desktopLoginURL : String :=
  firstNonEmpty
    [trimRight req.origin '/', trimRight site.desktopLoginCallbackURL '/', "apexaegis://auth"]

def redirectURI : String :=
  if trimSpace req.audience = "user_portal" then portalLoginURL site
  else if trimSpace req.audience = "desktop" then desktopLoginURL site req
  else webLoginURL site req

def resolveAuthzEndpoint (idp : IdPConfig) : String :=
  if idp.tokenEndpoint ≠ "" then
    String.ofList (replaceFirst "/token".toList "/authorize".toList idp.tokenEndpoint.toList)
  else idp.issuerURL ++ "/v1/authorize"

def authorizationURL (idp : IdPConfig) (callbackURI state : String) : String :=
  let scopes := if site.scopes idp = [] then ["openid", "profile", "email"] else site.scopes idp
  -- the encoder sorts the parameters by name
  let params :=
    [("client_id", idp.clientID), ("redirect_uri", callbackURI), ("response_type", "code"),
      ("scope", " ".intercalate scopes), ("state", state)]
  resolveAuthzEndpoint idp ++ "?" ++
    "&".intercalate (params.map fun param => param.1 ++ "=" ++ site.queryEscape param.2)

end

inductive LoginRequest where
  | authorize (req : AuthorizeRequest)
  | callbackRedirect (code state : String)
  | callback (req : CallbackRequest)
  | cleanup

inductive LoginReply where
  | failed (status : Nat) (error : String)
  | authorization (url state : String)
  | redirect (location : String)
  | login (reply : Reply)
  | swept

def authorize (site : Site) (req : AuthorizeRequest) : Logins LoginReply := do
  let some idp ← onHandler (getIdP req.idpID)
    | return .failed 404 "identity provider not found"
  if !idp.enabled then return .failed 400 "identity provider is disabled"
  if idp.issuerURL = "" ∨ idp.clientID = "" then
    return .failed 400 "provider is not configured for OIDC"
  let .ok state ← drawState | return .failed 500 "failed to generate state"
  let _ ← storePending state req.idpID (redirectURI site req) (callbackURL site req)
    (trimSpace req.audience)
  return .authorization (authorizationURL site idp (callbackURL site req) state) state

def callbackRedirect (site : Site) (code state : String) : Logins LoginReply := do
  if code = "" ∨ state = "" then return .failed 400 "missing code or state"
  let some pending ← readPending state | return .failed 400 "invalid or expired state parameter"
  let now ← onHandler timeNow
  if 10 * minute < now - pending.createdAt then
    return .failed 400 "invalid or expired state parameter"
  match site.setCodeAndState pending.redirectURI code state with
  | none => return .failed 400 "invalid redirect target"
  | some location => return .redirect location

def loginProgram (site : Site) (env : Env) : LoginRequest → Logins LoginReply
  | .authorize req => authorize site req
  | .callbackRedirect code state => callbackRedirect site code state
  | .callback req => LoginReply.login <$> onHandler (callback env req)
  | .cleanup => do
      sweep
      return .swept

abbrev LoginServer := Pool World LoginRequest LoginOp LoginOp.Ans LoginReply

abbrev LoginAction := Input LoginRequest LoginChoice

def serveLogins (site : Site) (env : Env) : LoginServer → LoginAction → LoginServer :=
  step (execLogin env) (loginProgram site env)

/-- `NewSSOHandler` begins with no pending authorization. -/
def newSSOHandler (world : World) : LoginServer := initial { world with pending := ∅ }

end ManagementPlane.Sso
