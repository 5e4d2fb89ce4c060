import ManagementPlane.Oidc.SingleUse

/-!
# Refresh tokens are exchanged once, by their own client

`handleRefreshToken` reads the token record, issues a new pair and revokes the old token
in separate operations, and goes on when revoking fails. It takes the client from the
request and compares it with nothing. A token is exchanged once and by its own client
when it is read only for that client, while no other request is about to revoke it, and
no revoking fails.
-/

namespace ManagementPlane.Oidc

open Interleave Runs Tables List

def Event.readsLive (token : String) : Event → Bool
  | ⟨.getToken read, .ok tokenRecord⟩ =>
    read = token && tokenRecord.tokenType = .refresh && !tokenRecord.revoked
  | _ => false

def Event.revokes (token : String) : Event → Bool
  | ⟨.revokeToken revoked, _⟩ => revoked = token
  | _ => false

def ReadLive (past : List Event) (token : String) : Prop :=
  ∃ event ∈ past, Event.readsLive token event = true

def Rotated (past : List Event) (token : String) : Prop :=
  ∃ event ∈ past, Event.revokes token event = true

instance (past : List Event) (token : String) : Decidable (ReadLive past token) :=
  inferInstanceAs (Decidable (∃ event ∈ past, _))

instance (past : List Event) (token : String) : Decidable (Rotated past token) :=
  inferInstanceAs (Decidable (∃ event ∈ past, _))

def Refreshed (server : Server) (i : Nat) (token : String) : Prop :=
  match server.threads[i]? with
  | some ⟨request, .done (.tokens _)⟩ => request.grant = some (.refreshToken token)
  | _ => False

instance (server : Server) (i : Nat) (token : String) : Decidable (Refreshed server i token) := by
  unfold Refreshed
  rcases server.threads[i]? with _ | ⟨_, reply | _⟩
  · infer_instance
  · rcases reply with ⟨⟩ <;> infer_instance
  · infer_instance

theorem refreshed_iff (server : Server) (i : Nat) (token : String) :
    Refreshed server i token ↔ ∃ request response,
      server.threads[i]? = some ⟨request, .done (.tokens response)⟩ ∧
        request.grant = some (.refreshToken token) := by
  unfold Refreshed
  grind

def Server.presentedClient (server : Server) (i : Nat) : String :=
  match server.threads[i]? with
  | some ⟨.token req, _⟩ => req.client.1
  | _ => ""

def OIDCDRSStore.Registered (s : OIDCDRSStore) (clientID : String) : Prop :=
  match s.clients.lookup clientID with
  | some row => row.enabled = true
  | none => False

def OIDCDRSStore.BoundTo (s : OIDCDRSStore) (token clientID : String) : Prop :=
  match s.tokens.lookup token with
  | some row => row.clientID = clientID
  | none => False

def OIDCDRSStore.Live (s : OIDCDRSStore) (token : String) : Prop :=
  match s.tokens.lookup token with
  | some row => row.tokenType = .refresh ∧ row.revoked = false
  | none => False

instance (s : OIDCDRSStore) (clientID : String) : Decidable (s.Registered clientID) := by
  unfold OIDCDRSStore.Registered
  split <;> infer_instance

instance (s : OIDCDRSStore) (token clientID : String) : Decidable (s.BoundTo token clientID) := by
  unfold OIDCDRSStore.BoundTo
  split <;> infer_instance

instance (s : OIDCDRSStore) (token : String) : Decidable (s.Live token) := by
  unfold OIDCDRSStore.Live
  split <;> infer_instance

/-- Whoever was honoured named the client recorded with the token, and that client is
registered and enabled. -/
def ClientBound (server : Server) : Prop :=
  ∀ i token, Refreshed server i token →
    server.world.BoundTo token (server.presentedClient i) ∧
      server.world.Registered (server.presentedClient i)

def RotatesOnce (server : Server) : Prop :=
  ∀ token i j, Refreshed server i token → Refreshed server j token → i = j

def Rotating (server : Server) (i : Nat) (token : String) : Prop :=
  ReadLive (past server.trace i) token ∧ ¬ Rotated (past server.trace i) token ∧ Running server i

instance (server : Server) (i : Nat) (token : String) : Decidable (Rotating server i token) :=
  inferInstanceAs (Decidable (_ ∧ _ ∧ _))

/-- A live token is read only for its own client, registered and enabled, and while no
other request is rotating it; and rotating does not fail. -/
def RotatesAlone (server : Server) : Action → Prop
  | .spawn _ => True
  | .step i choice =>
    match server.threads[i]? with
    | some ⟨_, .call (.getToken token) _⟩ =>
      server.world.Live token →
        server.world.BoundTo token (server.presentedClient i) ∧
          server.world.Registered (server.presentedClient i) ∧
          ∀ j < server.threads.length, ¬ Rotating server j token
    | some ⟨.token _, .call (.revokeToken _) _⟩ => choice.failure = none
    | _ => True

instance (server : Server) (action : Action) : Decidable (RotatesAlone server action) := by
  unfold RotatesAlone
  rcases action with _ | ⟨i, choice⟩
  · infer_instance
  · dsimp only
    rcases server.threads[i]? with _ | ⟨request, _ | ⟨op, _⟩⟩
    · infer_instance
    · rcases request with ⟨⟩ <;> infer_instance
    · rcases op with ⟨⟩ <;> first | infer_instance | (rcases request with ⟨⟩ <;> infer_instance)

/-- A refresh request revokes what it presents, after it has read it live. -/
def RefreshGuard (request : Request) (past : List Event) (op : Op) : Prop :=
  ∀ token, request.grant = some (.refreshToken token) →
    ∀ revoked, op = .revokeToken revoked → revoked = token ∧ ReadLive past token

def RefreshPost (request : Request) (past : List Event) (reply : Reply) : Prop :=
  ∀ token, request.grant = some (.refreshToken token) →
    ∀ response, reply = .tokens response → ReadLive past token ∧ Rotated past token

section
variable (env : Env) (request : Request) (past : List Event)

variable {request past} in
theorem refreshGuard_other {op : Op} (other : ∀ token, op ≠ .revokeToken token) :
    RefreshGuard request past op := by
  intro token _ revoked isRevoke
  exact absurd isRevoke (other revoked)

variable {request past} in
theorem refreshPost_other {reply : Reply} (other : ∀ response, reply ≠ .tokens response) :
    RefreshPost request past reply := by
  intro token _ response isTokens
  exact absurd isTokens (other response)

theorem rotation_issueTokens (clientID userID orgID : String) (scopes : Option (List String)) :
    Keeps (RefreshGuard request) (fun _ _ => True)
      (issueTokens env clientID userID orgID scopes) past := by
  refine ⟨refreshGuard_other (by simp), fun idAnswer => ?_⟩
  cases idAnswer with
  | error err => exact trivial
  | ok idToken =>
    refine ⟨refreshGuard_other (by simp), fun accessAnswer => ?_⟩
    cases accessAnswer with
    | error err => exact trivial
    | ok accessToken =>
      refine ⟨refreshGuard_other (by simp), fun refreshAnswer => ?_⟩
      cases refreshAnswer <;> exact trivial

theorem rotation_saveRefresh (refreshToken clientID userID orgID : String)
    (scopes : Option (List String)) :
    Keeps (RefreshGuard request) (fun _ _ => True)
      (saveRefresh refreshToken clientID userID orgID scopes) past :=
  ⟨refreshGuard_other (by simp), fun _ => ⟨refreshGuard_other (by simp), fun _ => trivial⟩⟩

theorem rotation_saveAccess (accessToken : Jwt.Signed Jwt.MapClaims)
    (clientID userID orgID : String) (scopes : Option (List String)) :
    Keeps (RefreshGuard request) (fun _ _ => True)
      (saveAccess env accessToken clientID userID orgID scopes) past :=
  ⟨refreshGuard_other (by simp), fun _ => ⟨refreshGuard_other (by simp), fun _ => trivial⟩⟩

theorem rotation_handleRefreshToken {req : TokenRequest}
    (presents : request.grant = some (.refreshToken req.refreshToken)) :
    Keeps (RefreshGuard request) (RefreshPost request) (handleRefreshToken env req) [] := by
  refine keeps_check (refreshPost_other (by simp [Reply.badRequest])) fun _ => ?_
  rw [keeps_call]
  refine ⟨refreshGuard_other (by simp), fun tokenAnswer => ?_⟩
  cases tokenAnswer with
  | error err => exact refreshPost_other (by simp [Reply.unauthorized])
  | ok tokenRecord =>
  refine keeps_check (refreshPost_other (by simp [Reply.unauthorized])) fun valid => ?_
  rw [keeps_call]
  refine ⟨refreshGuard_other (by simp), fun time =>
    keeps_check (refreshPost_other (by simp [Reply.unauthorized])) fun _ => ?_⟩
  have live : ReadLive ([] ++ [⟨.getToken req.refreshToken, .ok tokenRecord⟩] ++ [⟨.now, time⟩])
      req.refreshToken := by
    refine ⟨⟨.getToken req.refreshToken, .ok tokenRecord⟩, by simp, ?_⟩
    rw [not_or, not_not] at valid
    simp [Event.readsLive, valid.1, valid.2]
  refine keeps_then (rotation_issueTokens env request ..) fun atIssue result later _ => ?_
  have liveAtIssue : ReadLive atIssue req.refreshToken := by
    obtain ⟨event, member, reads⟩ := live
    exact ⟨event, later member, reads⟩
  cases result with
  | error err => exact refreshPost_other (by simp [Reply.serverError])
  | ok issued =>
  rw [keeps_call]
  refine ⟨?_, fun revoked => ?_⟩
  · intro token presented other isRevoke
    grind
  · refine keeps_then (rotation_saveRefresh request ..) ?_
    intro atRefresh _ laterRefresh _
    refine keeps_then (rotation_saveAccess env request ..) ?_
    intro atEnd _ laterEnd _ token presented response _
    rw [presents, Option.some.injEq, Grant.refreshToken.injEq] at presented
    subst presented
    have toEnd := List.Subset.trans laterRefresh laterEnd
    obtain ⟨event, member, reads⟩ := liveAtIssue
    exact ⟨⟨event, toEnd (mem_append_left _ member), reads⟩,
      ⟨⟨.revokeToken req.refreshToken, revoked⟩, toEnd (by simp), by simp [Event.revokes]⟩⟩

theorem rotation_handle :
    Keeps (RefreshGuard request) (RefreshPost request) (handle env request) [] := by
  by_cases refresh : ∃ req, request = .token req ∧ req.grantType = "refresh_token"
  · obtain ⟨req, rfl, grantType⟩ := refresh
    have program : handle env (.token req) = handleRefreshToken env req := by
      simp [handle, token, grantType]
    rw [program]
    exact rotation_handleRefreshToken env _ (by simp [Request.grant, grantType])
  · -- Any other request presents no refresh token, and nothing is asked of it.
    have presents : ∀ token, request.grant ≠ some (.refreshToken token) := by
      intro token presented
      cases request with
      | token req =>
        simp [Request.grant] at presented
        grind
      | _ => cases presented
    exact keeps_always (fun _ _ token presented => absurd presented (presents token))
      (fun _ _ token presented => absurd presented (presents token)) _ _

end

/-! ## The invariant -/

def presentsRefresh (token : String) (request : Request) : Prop :=
  request.grant = some (.refreshToken token)

/-- The request may still be, or has been, honoured for the token. -/
def Rotates (server : Server) (i : Nat) (token : String) : Prop :=
  Claims (presentsRefresh token) (fun event => Event.readsLive token event = true)
    (fun event => Event.revokes token event = true) server i

def OIDCDRSStore.Spent (s : OIDCDRSStore) (token : String) : Prop :=
  ∃ row, s.tokens.lookup token = some row ∧ row.revoked = true

structure RotationInvariant (server : Server) : Prop where
  bound : ∀ i token, ReadLive (past server.trace i) token →
    server.world.BoundTo token (server.presentedClient i) ∧
      server.world.Registered (server.presentedClient i)
  spent : ∀ i thread token, server.threads[i]? = some thread →
    presentsRefresh token thread.request → Rotated (past server.trace i) token →
    server.world.Spent token
  single : ∀ token i j, Rotates server i token → Rotates server j token → i = j

section
variable (env : Env) (choice : Choice) (s : OIDCDRSStore) (op : Op) (token : String)

theorem boundTo_exec {clientID : String} (bound : s.BoundTo token clientID) :
    (exec env choice s op).2.BoundTo token clientID := by
  unfold OIDCDRSStore.BoundTo at bound
  split at bound
  · rename_i row found
    obtain ⟨later, foundLater, sameClient, _⟩ := token_kept env choice op found
    simp [OIDCDRSStore.BoundTo, foundLater]
    exact sameClient.trans bound
  · exact absurd bound id

theorem registered_exec {clientID : String} (registered : s.Registered clientID) :
    (exec env choice s op).2.Registered clientID := by
  unfold OIDCDRSStore.Registered
  rwa [clients_exec]

theorem spent_exec (spent : s.Spent token) : (exec env choice s op).2.Spent token := by
  obtain ⟨row, found, revoked⟩ := spent
  obtain ⟨later, foundLater, _, _, staysRevoked⟩ := token_kept env choice op found
  exact ⟨later, foundLater, staysRevoked revoked⟩

theorem not_live_of_spent (spent : s.Spent token) : ¬ s.Live token := by
  obtain ⟨row, found, revoked⟩ := spent
  simp [OIDCDRSStore.Live, found, revoked]

variable {env choice s op token} in
theorem readsLive_answer (reads : Event.readsLive token ⟨op, (exec env choice s op).1⟩ = true) :
    op = .getToken token ∧ s.Live token := by
  unfold Event.readsLive at reads
  split at reads
  · rename_i read tokenRecord performed
    simp only [Bool.and_eq_true, decide_eq_true_eq, Bool.not_eq_true'] at reads
    obtain ⟨⟨rfl, refresh⟩, live⟩ := reads
    obtain ⟨opEq, answered⟩ := performed_iff.mp performed
    obtain ⟨row, found, kind, revoked, _⟩ := getToken_row env choice s answered
    refine ⟨opEq, ?_⟩
    simp [OIDCDRSStore.Live, found]
    exact ⟨kind.symm.trans refresh, revoked.symm.trans live⟩
  · cases reads

variable {env choice s op token} in
theorem revokes_answer (revokes : Event.revokes token ⟨op, (exec env choice s op).1⟩ = true) :
    op = .revokeToken token := by
  unfold Event.revokes at revokes
  grind

end

section
variable {env : Env} {server : Server} {i : Nat} {choice : Choice} {request : Request} {op : Op}
variable {next : op.Ans → Handled Reply}
variable (calling : server.threads[i]? = some ⟨request, .call op next⟩)

include calling

theorem presentedClient_advance (j : Nat) :
    Server.presentedClient (advance (exec env) server i choice request op next) j =
      server.presentedClient j := by
  by_cases other : i = j
  · subst other
    have bound := (List.getElem?_eq_some_iff.mp calling).1
    simp [Server.presentedClient, advance, getElem?_set_self bound, calling]
    cases request <;> rfl
  · simp [Server.presentedClient, advance, getElem?_set_ne other]

theorem alone_of_reads {token : String} (alone : RotatesAlone server (.step i choice))
    (reads : Event.readsLive token ⟨op, (exec env choice server.world op).1⟩ = true) :
    server.world.BoundTo token (server.presentedClient i) ∧
      server.world.Registered (server.presentedClient i) ∧
      ∀ j < server.threads.length, ¬ Rotating server j token := by
  obtain ⟨rfl, live⟩ := readsLive_answer reads
  simp [RotatesAlone, calling] at alone
  exact alone live

theorem bound_advance (alone : RotatesAlone server (.step i choice))
    (invariant : RotationInvariant server) {j : Nat} {token : String}
    (read : ReadLive (past (advance (exec env) server i choice request op next).trace j) token) :
    (exec env choice server.world op).2.BoundTo token (server.presentedClient j) ∧
      (exec env choice server.world op).2.Registered (server.presentedClient j) := by
  have before : server.world.BoundTo token (server.presentedClient j) ∧
      server.world.Registered (server.presentedClient j) := by
    obtain ⟨event, member, reads⟩ := read
    rw [mem_past_iff] at member
    rcases mem_append.mp member with old | new
    · exact invariant.bound j token ⟨event, mem_past_iff.mpr old, reads⟩
    · grind [Prod.mk.inj, mem_singleton, alone_of_reads]
  grind [boundTo_exec, registered_exec]

theorem spent_rotation (alone : RotatesAlone server (.step i choice))
    (guarded : RefreshGuard request (past server.trace i) op) (invariant : RotationInvariant server)
    (j : Nat) (thread : Thread Request Op Op.Ans Reply) (token : String)
    (found : (advance (exec env) server i choice request op next).threads[j]? = some thread)
    (presents : presentsRefresh token thread.request)
    (rotated : Rotated (past (advance (exec env) server i choice request op next).trace j) token) :
    (exec env choice server.world op).2.Spent token := by
  obtain ⟨before, foundBefore, sameRequest⟩ :=
    request_advance calling found
  rw [← sameRequest] at presents
  obtain ⟨event, member, revokes⟩ := rotated
  rw [mem_past_iff] at member
  rcases mem_append.mp member with old | new
  · exact spent_exec env choice server.world op token (invariant.spent j before token foundBefore
      presents ⟨event, mem_past_iff.mpr old, revokes⟩)
  · obtain ⟨rfl, rfl⟩ := Prod.mk.inj (mem_singleton.mp new)
    rw [calling, Option.some.injEq] at foundBefore
    subst foundBefore
    have opEq := revokes_answer revokes
    subst opEq
    -- The request has read the token live, so there is a row to revoke.
    obtain ⟨_, live⟩ := guarded token presents token rfl
    obtain ⟨bound, _⟩ := invariant.bound j token live
    have noFailure : choice.failure = none := by
      cases request with
      | token req =>
        simpa [RotatesAlone, calling] using alone
      | _ => cases presents
    unfold OIDCDRSStore.BoundTo at bound
    split at bound
    · rename_i row rowFound
      exact ⟨_, revokeToken_row env rowFound noFailure, rfl⟩
    · exact absurd bound id

theorem rotation_advance (kept : Kept RefreshGuard RefreshPost server)
    (invariant : RotationInvariant server) (alone : RotatesAlone server (.step i choice))
    (guarded : RefreshGuard request (past server.trace i) op) :
    RotationInvariant (advance (exec env) server i choice request op next) where
  bound := by
    intro j token read
    rw [presentedClient_advance calling]
    exact bound_advance calling alone invariant read
  spent := spent_rotation calling alone guarded invariant
  single := by
    intro token j k rotatesJ rotatesK
    refine single_advance calling (invariant.single token) ?_ rotatesJ rotatesK
    intro _ reads j rotates
    obtain ⟨_, _, nobody⟩ := alone_of_reads calling alone reads
    obtain ⟨_, live⟩ := readsLive_answer reads
    have inside : j < server.threads.length := by
      obtain ⟨event, member, _⟩ := rotates.read
      exact kept.numbered _ (mem_past_iff.mp member)
    have notRotated : ¬ Rotated (past server.trace j) token := by
      intro rotated
      have found := getElem?_eq_getElem inside
      exact not_live_of_spent server.world token
        (invariant.spent j _ token found (rotates.kind _ found) rotated) live
    exact nobody j inside ⟨rotates.read, notRotated, rotates.goesOn.resolve_left notRotated⟩

end

theorem rotation_spawn (env : Env) (server : Server) (request : Request)
    (kept : Kept RefreshGuard RefreshPost server) (invariant : RotationInvariant server) :
    RotationInvariant (serve env server (.spawn request)) where
  bound := by
    intro i token read
    have inside : i < server.threads.length := by
      obtain ⟨event, member, _⟩ := read
      exact kept.numbered _ (mem_past_iff.mp member)
    have same : Server.presentedClient (serve env server (.spawn request)) i =
        server.presentedClient i := by
      simp [Server.presentedClient, serve, step, getElem?_append_left inside]
    rw [same]
    exact invariant.bound i token read
  spent := by
    intro i thread token found presents rotated
    have inside : i < server.threads.length := by
      obtain ⟨event, member, _⟩ := rotated
      exact kept.numbered _ (mem_past_iff.mp member)
    simp [serve, step, getElem?_append_left inside] at found
    exact invariant.spent i thread token found presents rotated
  single := by
    intro token i j rotatesI rotatesJ
    exact invariant.single token i j (claims_spawn kept.numbered rotatesI)
      (claims_spawn kept.numbered rotatesJ)

theorem rotation_initial (s : OIDCDRSStore) : RotationInvariant (initial s) where
  bound := by
    rintro i token ⟨event, member, _⟩
    cases member
  spent := by
    intro i thread token found
    cases found
  single := by
    intro token i j rotates
    obtain ⟨event, member, _⟩ := rotates.read
    cases member

/-- In every interleaving of any requests whose steps rotate alone, a refresh token is
honoured only for its own client, and once. -/
theorem refresh_token_rotation (env : Env) (s : OIDCDRSStore) (actions : List Action)
    (alone : ∀ visit ∈ visits (serve env) (initial s) actions, RotatesAlone visit.1 visit.2) :
    ∀ reached ∈ states (serve env) (initial s) actions,
      ClientBound reached ∧ RotatesOnce reached := by
  intro reached member
  have invariant := pool_invariant (exec env)
    (rotation_handle env) RotatesAlone RotationInvariant (rotation_spawn env)
    (fun _ _ _ _ _ _ kept calling alone guarded invariant =>
      rotation_advance calling kept invariant alone guarded)
    s (rotation_initial s) actions alone
  obtain ⟨kept, invariant⟩ := invariant reached member
  have honoured : ∀ i token, Refreshed reached i token →
      ReadLive (past reached.trace i) token ∧ Rotates reached i token := by
    intro i token refreshed
    obtain ⟨request, response, found, presents⟩ := (refreshed_iff reached i token).mp refreshed
    have post := kept.keeps i _ found
    obtain ⟨read, rotated⟩ := post token presents response rfl
    refine ⟨read, ?_, read, .inl rotated⟩
    intro thread foundThread
    rw [found, Option.some.injEq] at foundThread
    rwa [← foundThread]
  refine ⟨?_, ?_⟩
  · intro i token refreshed
    exact invariant.bound i token (honoured i token refreshed).1
  · intro token i j refreshedI refreshedJ
    exact invariant.single token i j (honoured i token refreshedI).2 (honoured j token refreshedJ).2

/-- A store with one client and one refresh token of `user-1`. -/
def storeWithToken : OIDCDRSStore where
  clients := (∅ : Table String ClientRow).insert "app" publicClient
  users := ∅
  authCodes := ∅
  tokens := (∅ : Table String TokenRow).insert "refresh-1"
    { clientID := "app"
      userID := some "user-1"
      orgID := some "org-1"
      tokenType := .refresh
      scopes := .arr [.str "openid"]
      expiresAt := 10 * Policy.minute
      revoked := false }

def refreshAs (clientID : String) : Action :=
  .spawn (.token
    { grantType := "refresh_token", clientID := clientID, refreshToken := "refresh-1" })

/-- The second request reads the token after the first one has revoked it. -/
def refreshInTurn : List Action := refreshAs "app" :: refreshAs "app" :: steps 0 10 ++ steps 1 2

theorem sequential_refresh_rotates :
    (∀ visit ∈ visits (serve demoEnv) (initial storeWithToken) refreshInTurn,
        RotatesAlone visit.1 visit.2) ∧
      Refreshed (run (serve demoEnv) (initial storeWithToken) refreshInTurn) 0 "refresh-1" ∧
      ClientBound (run (serve demoEnv) (initial storeWithToken) refreshInTurn) ∧
      RotatesOnce (run (serve demoEnv) (initial storeWithToken) refreshInTurn) := by
  have evaluated : (∀ visit ∈ visits (serve demoEnv) (initial storeWithToken) refreshInTurn,
      RotatesAlone visit.1 visit.2) ∧
        Refreshed (run (serve demoEnv) (initial storeWithToken) refreshInTurn) 0 "refresh-1" := by
    decide +kernel
  have rotation := refresh_token_rotation demoEnv storeWithToken _ evaluated.1 _ run_mem_states
  exact and_assoc.mp ⟨evaluated, rotation⟩

def refreshAsStranger : List Action := refreshAs "stranger" :: steps 0 10

def refreshAtOnce : List Action :=
  refreshAs "app" :: refreshAs "app" :: steps 0 1 ++ steps 1 10 ++ steps 0 9

theorem refresh_token_misused :
    ¬ ClientBound (run (serve demoEnv) (initial storeWithToken) refreshAsStranger) ∧
      ¬ RotatesOnce (run (serve demoEnv) (initial storeWithToken) refreshAtOnce) := by
  have evaluated : ∃ server both,
      server = run (serve demoEnv) (initial storeWithToken) refreshAsStranger ∧
      both = run (serve demoEnv) (initial storeWithToken) refreshAtOnce ∧
      (Refreshed server 0 "refresh-1" ∧
        ¬ server.world.BoundTo "refresh-1" (server.presentedClient 0)) ∧
      Refreshed both 0 "refresh-1" ∧ Refreshed both 1 "refresh-1" :=
    ⟨_, _, rfl, rfl, by decide +kernel⟩
  obtain ⟨server, both, reached, reachedBoth, ⟨honoured, foreign⟩, first, second⟩ := evaluated
  rw [← reached, ← reachedBoth]
  refine ⟨?_, ?_⟩
  · intro bound
    exact foreign (bound 0 "refresh-1" honoured).1
  · intro once
    have same : (0 : Nat) = 1 := once "refresh-1" 0 1 first second
    cases same

end ManagementPlane.Oidc
