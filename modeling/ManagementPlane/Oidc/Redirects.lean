import ManagementPlane.Oidc.Flows

/-!
# Where authorization codes go

The authorization request travels to the login page and back in an unsigned state
value, so a login answers whatever state its browser submits. A code is safe if it was
saved for a registered client, with an address and scopes of that client, and the
browser is sent to that address.
-/

namespace ManagementPlane.Oidc

open GoStrings Interleave Policy Runs Tables

/-- An enabled client lists the address, and every scope that is not empty. -/
def OIDCDRSStore.Registers (s : OIDCDRSStore) (clientID redirectURI : String)
    (scopes : List String) : Prop :=
  match s.getOIDCClient clientID with
  | .ok client =>
    client.enabled = true ∧ redirectURI ∈ client.redirectURIs.getD [] ∧
      ∀ scope ∈ scopes, scope ≠ "" → scope ∈ client.scopes.getD []
  | .error _ => False

instance (s : OIDCDRSStore) (clientID redirectURI : String) (scopes : List String) :
    Decidable (s.Registers clientID redirectURI scopes) := by
  unfold OIDCDRSStore.Registers
  split <;> infer_instance

def withCode (redirectURI code : String) : String :=
  redirectURI ++ (if contains redirectURI "?" then "&" else "?") ++ "code=" ++ code

theorem hasPrefix_redirectURL (loginData : String → String) (code : String) :
    hasPrefix (redirectURL loginData code) (withCode (loginData "redirect_uri") code) = true := by
  have parts : redirectURL loginData code =
      if loginData "state" ≠ "" then
        withCode (loginData "redirect_uri") code ++ "&state=" ++ loginData "state"
      else withCode (loginData "redirect_uri") code := rfl
  rw [parts]
  split_ifs
  · rw [String.append_assoc]
    exact hasPrefix_append ..
  · simp [hasPrefix]

def Event.savedCode : Event → Option AuthCode
  | ⟨.saveAuthCode code, .ok ()⟩ => some code
  | _ => none

/-- The request saved a code for a registered client and sends the browser to an address of
that client with it. -/
def RedirectsSafely (server : Server) (i : Nat) (url : String) : Prop :=
  ∃ code ∈ (past server.trace i).filterMap Event.savedCode,
    hasPrefix url (withCode code.redirectURI code.code) = true ∧
      server.world.Registers code.clientID code.redirectURI (code.scopes.getD [])

instance (server : Server) (i : Nat) (url : String) : Decidable (RedirectsSafely server i url) :=
  inferInstanceAs (Decidable (∃ code ∈ _, _))

/-- The state decodes to a client of the store with its own address and scopes. -/
def RegisteredState (env : Env) (s : OIDCDRSStore) (stateToken : String) : Prop :=
  match (env.decodeString stateToken).bind env.unmarshalMap with
  | some loginData =>
    s.Registers (loginData "client_id") (loginData "redirect_uri")
      (split (loginData "scope") ' ')
  | none => False

instance (env : Env) (s : OIDCDRSStore) (stateToken : String) :
    Decidable (RegisteredState env s stateToken) := by
  unfold RegisteredState
  split <;> infer_instance

/-- The login with the state was answered with a redirect to the address. -/
def LoginRedirected (server : Server) (i : Nat) (stateToken url : String) : Prop :=
  match server.threads[i]? with
  | some ⟨.authorizeLogin submitted _ _, .done (.redirect target)⟩ =>
    submitted = stateToken ∧ target = url
  | _ => False

instance (server : Server) (i : Nat) (stateToken url : String) :
    Decidable (LoginRedirected server i stateToken url) := by
  unfold LoginRedirected
  rcases server.threads[i]? with _ | ⟨request, reply | _⟩
  · infer_instance
  · rcases request with ⟨⟩ <;> first | infer_instance | (rcases reply with ⟨⟩ <;> infer_instance)
  · rcases request with ⟨⟩ <;> infer_instance

/-- The login saved one code, for what the state says, and redirects with it. -/
def RedirectedBy (env : Env) (stateToken url : String) (past : List Event) : Prop :=
  ∃ loginData code, (env.decodeString stateToken).bind env.unmarshalMap = some loginData ∧
    past.filterMap Event.savedCode = [code] ∧ url = redirectURL loginData code.code ∧
    code.clientID = loginData "client_id" ∧ code.redirectURI = loginData "redirect_uri" ∧
    code.scopes = some (split (loginData "scope") ' ')

def RedirectPost (env : Env) (request : Request) (past : List Event) (reply : Reply) : Prop :=
  ∀ url, reply = .redirect url → match request with
    | .authorize _ => False
    | .authorizeLogin stateToken _ _ => RedirectedBy env stateToken url past
    | _ => True

section
variable (env : Env)

theorem redirectPost_other (request : Request) (past : List Event) {reply : Reply}
    (other : ∀ url, reply ≠ .redirect url) : RedirectPost env request past reply := by
  intro url redirected
  exact absurd redirected (other url)

theorem redirects_authorize (req : AuthorizeRequest) :
    Keeps (fun _ _ => True) (RedirectPost env (.authorize req)) (authorize req) [] := by
  refine keeps_check (redirectPost_other env _ _ (by simp [Reply.badRequest])) fun _ => ?_
  rw [keeps_call]
  refine ⟨trivial, fun clientAnswer => ?_⟩
  cases clientAnswer with
  | error err => exact redirectPost_other env _ _ (by simp [Reply.badRequest])
  | ok client =>
    refine keeps_check (redirectPost_other env _ _ (by simp [Reply.badRequest])) fun _ => ?_
    exact redirectPost_other env _ _ (by simp)

theorem redirects_authorizeLogin (stateToken email password : String) :
    Keeps (fun _ _ => True) (RedirectPost env (.authorizeLogin stateToken email password))
      (authorizeLogin env stateToken email password) [] := by
  refine keeps_check (redirectPost_other env _ _ (by simp [Reply.badRequest])) fun _ => ?_
  cases decodes : env.decodeString stateToken with
  | none => exact redirectPost_other env _ _ (by simp [Reply.badRequest])
  | some decoded =>
  dsimp only
  cases unmarshals : env.unmarshalMap decoded with
  | none => exact redirectPost_other env _ _ (by simp [Reply.badRequest])
  | some loginData =>
  dsimp only
  rw [keeps_call]
  refine ⟨trivial, fun userAnswer => ?_⟩
  cases userAnswer with
  | error err => exact redirectPost_other env _ _ (by simp)
  | ok user =>
  rw [keeps_call]
  refine ⟨trivial, fun codeAnswer => ?_⟩
  cases codeAnswer with
  | error err => exact redirectPost_other env _ _ (by simp [Reply.serverError])
  | ok code =>
  rw [keeps_call]
  refine ⟨trivial, fun time => ?_⟩
  rw [keeps_call]
  refine ⟨trivial, fun saved => ?_⟩
  cases saved with
  | error err => exact redirectPost_other env _ _ (by simp [Reply.serverError])
  | ok done =>
    intro url redirected
    cases redirected
    refine ⟨loginData, _, ?_, rfl, rfl, rfl, rfl, rfl⟩
    rw [decodes, Option.bind_some, unmarshals]

theorem redirects_handle (request : Request) :
    Keeps (fun _ _ => True) (RedirectPost env request) (handle env request) [] := by
  cases request with
  | authorize req => exact redirects_authorize env req
  | authorizeLogin stateToken email password =>
    exact redirects_authorizeLogin env stateToken email password
  | _ => exact keeps_always (fun _ _ => trivial) (fun _ _ _ _ => trivial) _ _

end

/-- In every run of the endpoints, a login redirects safely exactly if the state it was
given says what a registered client would have asked for. -/
theorem code_redirects_safely_iff (env : Env) (s : OIDCDRSStore) (actions : List Action)
    (reached : Server) (member : reached ∈ states (serve env) (initial s) actions) (i : Nat)
    (url : String) :
    (∀ req, reached.threads[i]? ≠ some ⟨.authorize req, .done (.redirect url)⟩) ∧
      ∀ stateToken, LoginRedirected reached i stateToken url →
        (RedirectsSafely reached i url ↔ RegisteredState env s stateToken) := by
  have invariant := pool_invariant (exec env)
    (redirects_handle env) (fun _ _ => True) (fun server => server.world.clients = s.clients)
    (fun server request _ same => same)
    (fun server j choice request op next _ _ _ _ same =>
      (clients_exec env choice server.world op).trans same)
    s rfl actions (fun _ _ => trivial)
  obtain ⟨kept, clients⟩ := invariant reached member
  refine ⟨?_, ?_⟩
  · intro req found
    have post := kept.keeps i _ found
    exact post url rfl
  · intro stateToken answered
    unfold LoginRedirected at answered
    split at answered
    case h_2 => exact absurd answered id
    rename_i submitted email password target found
    obtain ⟨rfl, rfl⟩ := answered
    have post := kept.keeps i _ found
    obtain ⟨loginData, code, decodes, saved, built, client, address, scopes⟩ := post target rfl
    have sent : hasPrefix target (withCode (loginData "redirect_uri") code.code) = true := by
      grind [hasPrefix_redirectURL]
    simp only [RedirectsSafely, saved, RegisteredState, decodes, List.mem_singleton,
      exists_eq_left, client, address, scopes, sent, true_and, Option.getD_some]
    simp [OIDCDRSStore.Registers, OIDCDRSStore.getOIDCClient, clients]

def redirectClients : Table String ClientRow :=
  (∅ : Table String ClientRow).insert "app"
    { publicClient with
      redirectURIs := .arr [.str "https://app.example/cb"]
      scopes := .arr [.str "openid"] }

def foreignAuthorize : AuthorizeRequest :=
  { demoAuthorize with redirectURI := "https://evil.example/cb" }

/-- Decodes the state that `authorize` hands out for `foreignAuthorize`. -/
def foreignEnv : Env :=
  { demoEnv with
    decodeString := fun _ => some (loginDataJSON foreignAuthorize "S256")
    unmarshalMap := fun _ => some fun name =>
      if name = "redirect_uri" then "https://evil.example/cb" else demoLoginData name }

/-- A browser is sent to the login page, and its user signs in. -/
def authorizeAndLogin (req : AuthorizeRequest) : List Action :=
  .spawn (.authorize req) :: steps 0 1 ++
    .spawn (.authorizeLogin (stateToken req "S256") "user@apexaegis.app" "allmine") :: steps 1 4

theorem registered_login_redirects :
    ∃ reached, reached = run (serve loginEnv) (initial ⟨redirectClients, demoUsers, ∅, ∅⟩)
        (authorizeAndLogin demoAuthorize) ∧
      LoginRedirected reached 1 (stateToken demoAuthorize "S256")
        (withCode "https://app.example/cb" (generateAuthCode {})) ∧
      RedirectsSafely reached 1 (withCode "https://app.example/cb" (generateAuthCode {})) := by
  have redirected : ∃ reached, reached = run (serve loginEnv)
      (initial ⟨redirectClients, demoUsers, ∅, ∅⟩) (authorizeAndLogin demoAuthorize) ∧
      LoginRedirected reached 1 (stateToken demoAuthorize "S256")
        (withCode "https://app.example/cb" (generateAuthCode {})) := ⟨_, rfl, by decide +kernel⟩
  obtain ⟨reached, ending, redirected⟩ := redirected
  have member : reached ∈ states (serve loginEnv) (initial ⟨redirectClients, demoUsers, ∅, ∅⟩)
      (authorizeAndLogin demoAuthorize) := by
    rw [ending]
    exact run_mem_states
  have safe := code_redirects_safely_iff loginEnv ⟨redirectClients, demoUsers, ∅, ∅⟩
    (authorizeAndLogin demoAuthorize) reached member 1
    (withCode "https://app.example/cb" (generateAuthCode {}))
  exact ⟨reached, ending, redirected, (safe.2 _ redirected).mpr (by decide +kernel)⟩

/-- Nobody checks the address: the user's code is sent to another host. -/
theorem foreign_login_redirects :
    ∃ reached, reached = run (serve foreignEnv) (initial ⟨redirectClients, demoUsers, ∅, ∅⟩)
        (authorizeAndLogin foreignAuthorize) ∧
      LoginRedirected reached 1 (stateToken foreignAuthorize "S256")
        (withCode "https://evil.example/cb" (generateAuthCode {})) ∧
      ¬ RedirectsSafely reached 1 (withCode "https://evil.example/cb" (generateAuthCode {})) :=
  ⟨_, rfl, by decide +kernel⟩

end ManagementPlane.Oidc
