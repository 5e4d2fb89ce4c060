import ManagementPlane.Oidc.Rotation
import ManagementPlane.Oidc.UserInfo

/-!
# Revoked tokens

Revoking marks the row of a token, and only the refresh grant reads that row: the user
info endpoint trusts the signature alone. A revocation that does not fail ends the use
of a token unless the token is a signed one that is still in time, or its row did not
exist and is inserted later.
-/

namespace ManagementPlane.Oidc

open Interleave Jwt Policy Runs Tables List Option

def Endpoint.isRevoke (token : String) : Endpoint → Bool
  | .oidc (.revoke revoked) => revoked = token
  | _ => false

def Revoked (server : Endpoints) (token : String) : Prop :=
  ∃ entry ∈ server.trace, Event.revokes token entry.2 = true ∧
    (server.requestAt entry.1).any (Endpoint.isRevoke token) = true

instance (server : Endpoints) (token : String) : Decidable (Revoked server token) :=
  inferInstanceAs (Decidable (∃ entry ∈ server.trace, _))

def RevocationDone (server : Endpoints) (i : Nat) (token : String) : Prop :=
  match server.threads[i]? with
  | some ⟨.oidc (.revoke revoked), .done _⟩ => revoked = token
  | _ => False

def RefreshAnswered (server : Endpoints) (i : Nat) (token : String) : Prop :=
  match server.threads[i]? with
  | some ⟨.oidc request, .done (.oidc (.tokens _))⟩ => request.grant = some (.refreshToken token)
  | _ => False

/-- The user info request with the token was answered with claims. -/
def ClaimsAnswered (server : Endpoints) (i : Nat) (token : String) : Prop :=
  match server.threads[i]? with
  | some ⟨.userInfo authHeader, .done (.userInfo _)⟩ => bearerToken authHeader = some token
  | _ => False

instance (server : Endpoints) (i : Nat) (token : String) :
    Decidable (RevocationDone server i token) := by
  unfold RevocationDone
  split <;> infer_instance

instance (server : Endpoints) (i : Nat) (token : String) :
    Decidable (RefreshAnswered server i token) := by
  unfold RefreshAnswered
  split <;> infer_instance

instance (server : Endpoints) (i : Nat) (token : String) :
    Decidable (ClaimsAnswered server i token) := by
  unfold ClaimsAnswered
  split <;> infer_instance

/-- Revoking the token does not fail; once it is revoked, no user info request presents it
while it is a signed token in time, and no grant inserts a refresh token under it. -/
def RevocationSticks (env : Env) (lib : RSALibrary) (token : String) (server : Endpoints) :
    Interleave.Input Endpoint Choice → Prop
  | .spawn _ => True
  | .step i choice =>
    match server.threads[i]? with
    | some ⟨.oidc (.revoke _), .call (.revokeToken revoked) _⟩ =>
      revoked = token → choice.failure = none
    | some ⟨.userInfo authHeader, .call .now _⟩ =>
      bearerToken authHeader = some token → Revoked server token →
        ¬ Genuine env lib choice.now token
    | some ⟨_, .call (.saveToken record) _⟩ =>
      record.tokenID = token → record.tokenType = .refresh → Revoked server token →
        (server.world.tokens.lookup token).isSome = true
    | _ => True

instance (env : Env) (lib : RSALibrary) (token : String) (server : Endpoints)
    (input : Interleave.Input Endpoint Choice) :
    Decidable (RevocationSticks env lib token server input) := by
  unfold RevocationSticks
  split
  · infer_instance
  · split <;> infer_instance

def RevokeGuard (request : Endpoint) (_past : List Event) (op : Op) : Prop :=
  ∀ token, request = .oidc (.revoke token) → op = .revokeToken token

structure EndpointPost (env : Env) (lib : RSALibrary) (request : Endpoint) (past : List Event)
    (response : Response) : Prop where
  revokes : ∀ token, request = .oidc (.revoke token) → token ≠ "" → Rotated past token
  reads : ∀ presented token tokens, request = .oidc presented →
    presented.grant = some (.refreshToken token) → response = .oidc (.tokens tokens) →
    ReadLive past token
  verifies : ∀ authHeader claims, request = .userInfo authHeader → response = .userInfo claims →
    ∃ token now, bearerToken authHeader = some token ∧ ⟨.now, now⟩ ∈ past ∧
      Genuine env lib now token

section
variable (env : Env) (lib : RSALibrary)

theorem endpoint_userInfo (authHeader : String) :
    Keeps (RevokeGuard (.userInfo authHeader)) (EndpointPost env lib (.userInfo authHeader))
      (userInfo env lib authHeader) [] := by
  have refused : ∀ past error,
      EndpointPost env lib (.userInfo authHeader) past (.unauthorized error) := by
    intro past error
    exact ⟨by simp, by simp, by simp⟩
  unfold userInfo
  cases bearer : bearerToken authHeader with
  | none => exact refused _ _
  | some tokenStr =>
    rw [keeps_call]
    refine ⟨fun token other => (by cases other), fun now => ?_⟩
    cases validated : validateJWT env lib now tokenStr with
    | error err => exact refused _ _
    | ok claims =>
      refine ⟨by simp, by simp, ?_⟩
      intro header _ same _
      cases same
      exact ⟨tokenStr, now, bearer, mem_append_right _ (mem_singleton_self _),
        (validateJWT_ok_iff env lib now tokenStr).mp ⟨claims, validated⟩⟩

theorem endpoint_revoke (token : String) :
    Keeps (RevokeGuard (.oidc (.revoke token))) (EndpointPost env lib (.oidc (.revoke token)))
      (respond env lib (.oidc (.revoke token))) [] := by
  by_cases empty : token = ""
  · subst empty
    refine ⟨?_, by simp, by simp⟩
    intro other same named
    cases same
    exact absurd rfl named
  · have program : respond env lib (.oidc (.revoke token)) =
        (perform (.revokeToken token) >>= fun _ => pure (.oidc .empty)) := by
      simp only [respond, handle, revoke, if_neg empty]
      rfl
    rw [program, keeps_call]
    refine ⟨?_, fun answer => ⟨?_, by simp, by simp⟩⟩
    · intro other same
      cases same
      rfl
    · intro other same _
      cases same
      exact ⟨⟨.revokeToken token, answer⟩, by simp, by simp [Event.revokes]⟩

theorem endpoint_other {request : Request} (other : ∀ token, request ≠ .revoke token) :
    Keeps (RevokeGuard (.oidc request)) (EndpointPost env lib (.oidc request))
      (respond env lib (.oidc request)) [] := by
  have notRevoke : ∀ token, Endpoint.oidc request ≠ .oidc (.revoke token) := by
    intro token same
    exact other token (Endpoint.oidc.inj same)
  refine keeps_then (keeps_mono (fun _ _ _ token same => absurd same (notRevoke token))
    (fun _ _ post => post) _ _ (rotation_handle env request)) ?_
  intro now reply _ post
  refine ⟨fun token same => absurd same (notRevoke token), ?_, by simp⟩
  intro presented token tokens same presents answered
  cases same
  exact (post token presents tokens (Response.oidc.inj answered)).1

theorem endpoint_keeps (request : Endpoint) :
    Keeps (RevokeGuard request) (EndpointPost env lib request) (respond env lib request) [] := by
  cases request with
  | userInfo authHeader => exact endpoint_userInfo env lib authHeader
  | oidc request =>
    grind [endpoint_revoke, endpoint_other]

end

section
variable (env : Env) (choice : Choice) (s : OIDCDRSStore) (token : String)

theorem not_live_exec {op : Op} (dead : ¬ s.Live token)
    (taken : ∀ record, op = .saveToken record → record.tokenID = token →
      record.tokenType = .refresh → (s.tokens.lookup token).isSome = true) :
    ¬ (exec env choice s op).2.Live token := by
  intro live
  unfold OIDCDRSStore.Live at live
  split at live
  case h_2 => exact absurd live id
  rename_i row found
  cases old : s.tokens.lookup token with
  | some before =>
    obtain ⟨later, foundLater, _, kind, staysRevoked⟩ :=
      token_kept env choice op old
    rw [found, some.injEq] at foundLater
    subst foundLater
    apply dead
    simp [OIDCDRSStore.Live, old]
    refine ⟨kind.symm.trans live.1, ?_⟩
    cases revoked : before.revoked with
    | false => rfl
    | true =>
      grind
  | none =>
    grind [token_user]

theorem not_live_revoked (performed : choice.failure = none) :
    ¬ (exec env choice s (.revokeToken token)).2.Live token := by
  cases found : s.tokens.lookup token with
  | none =>
    simp [OIDCDRSStore.Live, exec, execute, attempt, performed, OIDCDRSStore.revokeToken,
      lookup_updateRow, found]
  | some row =>
    simp [OIDCDRSStore.Live, revokeToken_row env found performed]

end

section
variable {env : Env} {lib : RSALibrary} {token : String} {server : Endpoints}

theorem revoked_spawn (request : Endpoint)
    (numbered : ∀ entry ∈ server.trace, entry.1 < server.threads.length) :
    Revoked (serveAll env lib server (.spawn request)) token ↔ Revoked server token := by
  have same : ∀ entry ∈ server.trace,
      (serveAll env lib server (.spawn request)).requestAt entry.1 = server.requestAt entry.1 :=
    fun entry member => requestAt_spawn _ _ request (numbered entry member)
  constructor
  · rintro ⟨entry, member, revokes, asked⟩
    rw [same entry member] at asked
    exact ⟨entry, member, revokes, asked⟩
  · rintro ⟨entry, member, revokes, asked⟩
    rw [← same entry member] at asked
    exact ⟨entry, member, revokes, asked⟩

variable {i : Nat} {choice : Choice} {request : Endpoint} {op : Op}
variable {next : op.Ans → Handled Response}
variable (calling : server.threads[i]? = some ⟨request, .call op next⟩)

include calling

theorem revoked_advance :
    Revoked (advance (exec env) server i choice request op next) token ↔
      Revoked server token ∨ op = .revokeToken token ∧ request.isRevoke token = true := by
  have here : server.requestAt i = some request := by
    simp [Pool.requestAt, calling]
  have same := fun j => requestAt_advance (exec env) j choice calling
  constructor
  · rintro ⟨entry, member, revokes, asked⟩
    rw [same] at asked
    rcases mem_append.mp member with old | new
    · exact .inl ⟨entry, old, revokes, asked⟩
    · rw [mem_singleton.mp new] at revokes asked
      rw [here, any_some] at asked
      exact .inr ⟨revokes_answer revokes, asked⟩
  · intro revoked
    rcases revoked with ⟨entry, member, revokes, asked⟩ | ⟨rfl, asked⟩
    · rw [← same] at asked
      exact ⟨entry, mem_append_left _ member, revokes, asked⟩
    · refine ⟨(i, ⟨.revokeToken token, _⟩), mem_append_right _ (mem_singleton_self _),
        by simp [Event.revokes], ?_⟩
      rwa [same, here]

variable (sticks : RevocationSticks env lib token server (.step i choice))

include sticks

theorem sticks_revoke (revokes : op = .revokeToken token)
    (asked : request.isRevoke token = true) : choice.failure = none := by
  subst revokes
  unfold Endpoint.isRevoke at asked
  split at asked
  · simp only [RevocationSticks, calling] at sticks
    exact sticks trivial
  · cases asked

theorem sticks_save (revoked : Revoked server token) (record : TokenRecord)
    (saves : op = .saveToken record) (named : record.tokenID = token)
    (refresh : record.tokenType = .refresh) : (server.world.tokens.lookup token).isSome = true := by
  subst saves
  cases request with
  | userInfo authHeader =>
    simp [RevocationSticks, calling] at sticks
    exact sticks named refresh revoked
  | oidc presented =>
    cases presented <;>
      · simp [RevocationSticks, calling] at sticks
        exact sticks named refresh revoked

theorem dead_advance (dead : Revoked server token → ¬ server.world.Live token)
    (revoked : Revoked (advance (exec env) server i choice request op next) token) :
    ¬ (exec env choice server.world op).2.Live token := by
  rw [revoked_advance calling] at revoked
  grind [not_live_exec, sticks_save, sticks_revoke, not_live_revoked]

end

/-- The token is out of use for every request from `first` on. -/
structure OutOfUse (env : Env) (lib : RSALibrary) (token : String) (first : Nat)
    (server : Endpoints) : Prop where
  revoked : Revoked server token
  dead : ¬ server.world.Live token
  unread : ∀ j ≥ first, ¬ ReadLive (past server.trace j) token
  unverified : ∀ j ≥ first, ∀ authHeader, server.requestAt j = some (.userInfo authHeader) →
    bearerToken authHeader = some token → ∀ now, ⟨.now, now⟩ ∈ past server.trace j →
    ¬ Genuine env lib now token

section
variable {env : Env} {lib : RSALibrary} {token : String} {first : Nat} {server : Endpoints}

theorem outOfUse_start {i : Nat} (named : token ≠ "")
    (kept : Kept RevokeGuard (EndpointPost env lib) server)
    (dead : Revoked server token → ¬ server.world.Live token)
    (done : RevocationDone server i token) :
    OutOfUse env lib token server.threads.length server := by
  unfold RevocationDone at done
  split at done
  case h_2 => exact absurd done id
  rename_i revokedToken response found
  subst done
  have post := kept.keeps i _ found
  have revoked : Revoked server revokedToken := by
    obtain ⟨event, member, revokes⟩ := post.revokes revokedToken rfl named
    refine ⟨(i, event), mem_past_iff.mp member, revokes, ?_⟩
    simp [Pool.requestAt, found, Endpoint.isRevoke]
  have idle : ∀ j ≥ server.threads.length, past server.trace j = [] := by
    intro j late
    apply past_fresh
    intro entry member
    have bound := kept.numbered entry member
    omega
  refine ⟨revoked, dead revoked, ?_, ?_⟩
  · rintro j late ⟨event, member, _⟩
    rw [idle j late] at member
    cases member
  · grind

theorem outOfUse_spawn (request : Endpoint)
    (numbered : ∀ entry ∈ server.trace, entry.1 < server.threads.length)
    (out : OutOfUse env lib token first server) :
    OutOfUse env lib token first (serveAll env lib server (.spawn request)) where
  revoked := (revoked_spawn request numbered).mpr out.revoked
  dead := out.dead
  unread := out.unread
  unverified := by
    intro j late authHeader asked presents now member
    have inside := numbered _ (mem_past_iff.mp member)
    rw [requestAt_spawn _ _ request inside] at asked
    exact out.unverified j late authHeader asked presents now member

theorem outOfUse_advance {i : Nat} {choice : Choice} {request : Endpoint}
    {op : Op} {next : op.Ans → Handled Response}
    (calling : server.threads[i]? = some ⟨request, .call op next⟩)
    (sticks : RevocationSticks env lib token server (.step i choice))
    (out : OutOfUse env lib token first server) :
    OutOfUse env lib token first (advance (exec env) server i choice request op next) where
  revoked := (revoked_advance calling).mpr (.inl out.revoked)
  dead := dead_advance calling sticks (fun _ => out.dead)
    ((revoked_advance calling).mpr (.inl out.revoked))
  unread := by
    rintro j late ⟨event, member, reads⟩
    rw [mem_past_iff] at member
    rcases mem_append.mp member with old | new
    · exact out.unread j late ⟨event, mem_past_iff.mpr old, reads⟩
    · obtain ⟨rfl, rfl⟩ := Prod.mk.inj (mem_singleton.mp new)
      exact out.dead (readsLive_answer reads).2
  unverified := by
    intro j late authHeader asked presents now member
    rw [requestAt_advance (exec env) j choice calling] at asked
    rw [mem_past_iff] at member
    rcases mem_append.mp member with old | new
    · exact out.unverified j late authHeader asked presents now (mem_past_iff.mpr old)
    · obtain ⟨rfl, performed⟩ := Prod.mk.inj (mem_singleton.mp new)
      obtain ⟨rfl, clock⟩ := performed_iff.mp performed.symm
      simp [Pool.requestAt, calling] at asked
      subst asked
      simp [RevocationSticks, calling] at sticks
      rw [← clock]
      exact sticks presents out.revoked

end

/-- In every run of the endpoints in which the revocation of a token sticks, no request
that arrives after it was answered is served with the token. -/
theorem revocation_takes_effect (env : Env) (lib : RSALibrary) (s : OIDCDRSStore) (token : String)
    (before after : List (Interleave.Input Endpoint Choice)) (i : Nat) (named : token ≠ "")
    (sticks : ∀ visit ∈ visits (serveAll env lib) (initial s) (before ++ after),
      RevocationSticks env lib token visit.1 visit.2)
    (done : RevocationDone (run (serveAll env lib) (initial s) before) i token) :
    ∀ reached ∈ states (serveAll env lib) (run (serveAll env lib) (initial s) before) after,
      ∀ j ≥ (run (serveAll env lib) (initial s) before).threads.length,
        ¬ RefreshAnswered reached j token ∧ ¬ ClaimsAnswered reached j token := by
  rw [visits_append] at sticks
  have dead := pool_invariant (exec env) (endpoint_keeps env lib) (RevocationSticks env lib token)
    (fun server => Revoked server token → ¬ server.world.Live token)
    (fun _ request kept dead revoked => dead ((revoked_spawn request kept.numbered).mp revoked))
    (fun _ _ _ _ _ _ _ calling sticks _ dead => dead_advance calling sticks dead)
    s (by rintro ⟨entry, member, _⟩; cases member) before
    (fun visit member => sticks visit (mem_append_left _ member))
  obtain ⟨kept, dead⟩ := dead _ run_mem_states
  have out := pool_invariant_from (exec env)
    (endpoint_keeps env lib) (RevocationSticks env lib token) (OutOfUse env lib token _)
    (fun _ request kept => outOfUse_spawn request kept.numbered)
    (fun _ _ _ _ _ _ _ calling sticks _ => outOfUse_advance calling sticks)
    _ kept (outOfUse_start named kept dead done) after
    (fun visit member => sticks visit (mem_append_right _ member))
  intro reached member j late
  obtain ⟨keptThen, out⟩ := out reached member
  refine ⟨?_, ?_⟩
  · intro answered
    unfold RefreshAnswered at answered
    split at answered
    case h_2 => exact answered
    rename_i request response found
    have post := keptThen.keeps j _ found
    exact out.unread j late (post.reads request token response rfl answered rfl)
  · intro answered
    unfold ClaimsAnswered at answered
    split at answered
    case h_2 => exact answered
    rename_i authHeader claims found
    have post := keptThen.keeps j _ found
    obtain ⟨shown, now, presents, clock, genuine⟩ := post.verifies authHeader claims rfl rfl
    rw [answered, some.injEq] at presents
    subst presents
    refine out.unverified j late authHeader ?_ answered now clock genuine
    simp [Pool.requestAt, found]

def signingEnv : Env := { demoEnv with signedString := fun _ => "header.claims.signature" }

/-- A signed token decodes to the claims of `user-1` and does not run out. -/
def demoJWT : RSALibrary where
  decode := fun token =>
    if token = "header.claims.signature" then
      .ok ("RS256", MapClaims.ofList [("sub", .str "user-1")])
    else .error "token contains an invalid number of segments"
  rsaError := fun _ _ _ => none
  claimsError := fun _ _ => none

def TokenReturned (env : Env) (server : Endpoints) (i : Nat) (token : String) : Prop :=
  match server.threads[i]? with
  | some ⟨_, .done (.oidc (.tokens response))⟩ =>
    env.signedString response.accessToken = token ∨ response.refreshToken = some token
  | _ => False

instance (env : Env) (server : Endpoints) (i : Nat) (token : String) :
    Decidable (TokenReturned env server i token) := by
  unfold TokenReturned
  split <;> infer_instance

def handled (i count : Nat) (request : Endpoint) : List (Interleave.Input Endpoint Choice) :=
  .spawn request :: List.replicate count (.step i {})

def refreshWith (token : String) : Endpoint :=
  .oidc (.token { grantType := "refresh_token", clientID := "app", refreshToken := token })

theorem revoked_refresh_token_refused :
    ∃ revoked reached, revoked = run (serveAll signingEnv demoJWT) (initial storeWithToken)
        (handled 0 1 (.oidc (.revoke "refresh-1"))) ∧
      reached = run (serveAll signingEnv demoJWT) revoked (handled 1 1 (refreshWith "refresh-1")) ∧
      reached.threads.length = 2 ∧ ¬ Running reached 1 ∧
      ¬ RefreshAnswered reached 1 "refresh-1" := by
  have sticks : ∀ visit ∈ visits (serveAll signingEnv demoJWT) (initial storeWithToken)
      (handled 0 1 (.oidc (.revoke "refresh-1")) ++ handled 1 1 (refreshWith "refresh-1")),
      RevocationSticks signingEnv demoJWT "refresh-1" visit.1 visit.2 := by
    decide +kernel
  refine ⟨_, _, rfl, rfl, by decide +kernel, by decide +kernel, ?_⟩
  exact (revocation_takes_effect signingEnv demoJWT storeWithToken "refresh-1" _ _ 0 (by decide)
    sticks (by decide +kernel) _ run_mem_states 1 (by decide +kernel)).1

/-- The app refreshes its token and revokes one of those it got. -/
def refreshThenRevoke (token : String) : List (Interleave.Input Endpoint Choice) :=
  handled 0 10 (refreshWith "refresh-1") ++ handled 1 1 (.oidc (.revoke token))

/-- The endpoint never asks the store: a revoked access token is as good as before. -/
theorem revoked_access_token_answered :
    ∃ revoked reached, revoked = run (serveAll signingEnv demoJWT) (initial storeWithToken)
        (refreshThenRevoke "header.claims.signature") ∧
      TokenReturned signingEnv revoked 0 "header.claims.signature" ∧
      RevocationDone revoked 1 "header.claims.signature" ∧ revoked.threads.length = 2 ∧
      reached = run (serveAll signingEnv demoJWT) revoked
        (handled 2 1 (.userInfo "Bearer header.claims.signature")) ∧
      ClaimsAnswered reached 2 "header.claims.signature" :=
  ⟨_, _, rfl, by decide +kernel, by decide +kernel, by decide +kernel, rfl, by decide +kernel⟩

/-- In every interleaving of the endpoints no code and no token is deleted, a used code stays used,
a revoked token stays revoked, and a token keeps its client and its type. -/
theorem nothing_taken_back (env : Env) (lib : RSALibrary) (server : Endpoints)
    (inputs : List (Interleave.Input Endpoint Choice)) :
    let reached := (run (serveAll env lib) server inputs).world
    (∀ code row, server.world.authCodes.lookup code = some row → ∃ later,
      reached.authCodes.lookup code = some later ∧ (row.used = true → later.used = true)) ∧
    ∀ tokenID row, server.world.tokens.lookup tokenID = some row → ∃ later,
      reached.tokens.lookup tokenID = some later ∧ later.clientID = row.clientID ∧
        later.tokenType = row.tokenType ∧ (row.revoked = true → later.revoked = true) := by
  intro reached
  constructor
  · intro code row found
    refine world_invariant _ _ server (fun now => ∃ later, now.authCodes.lookup code = some later ∧
      (row.used = true → later.used = true)) ?_ ⟨row, found, id⟩ inputs
    rintro choice now op ⟨later, here, used⟩
    obtain ⟨after, there, still⟩ := authCode_kept env choice op here
    exact ⟨after, there, still ∘ used⟩
  · intro tokenID row found
    refine world_invariant _ _ server (fun now => ∃ later, now.tokens.lookup tokenID = some later ∧
      later.clientID = row.clientID ∧ later.tokenType = row.tokenType ∧
        (row.revoked = true → later.revoked = true)) ?_ ⟨row, found, rfl, rfl, id⟩ inputs
    rintro choice now op ⟨later, here, client, type, revoked⟩
    obtain ⟨after, there, sameClient, sameType, still⟩ := token_kept env choice op here
    exact ⟨after, there, sameClient.trans client, sameType.trans type, still ∘ revoked⟩

end ManagementPlane.Oidc
