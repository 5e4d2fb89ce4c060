import ManagementPlane.Oidc.Protocol

/-!
# Authorization codes are used once

`handleAuthorizationCode` reads the code, checks that it is unused and marks it used
by three separate steps, and goes on when marking fails. A code is redeemed at most
once when no request reads a code while another one is between reading it unused and
marking it, and no marking fails.
-/

namespace ManagementPlane.Oidc

open Interleave Runs Tables List

def Event.readsUnused (code : String) : Event → Bool
  | ⟨.getAuthCode read, .ok authCode⟩ => read = code && !authCode.used
  | _ => false

def Event.consumes (code : String) : Event → Bool
  | ⟨.consumeAuthCode consumed, _⟩ => consumed = code
  | _ => false

theorem readUnused_iff (past : List Event) (code : String) :
    ReadUnused past code ↔ ∃ event ∈ past, Event.readsUnused code event = true := by
  constructor
  · rintro ⟨authCode, read, unused⟩
    exact ⟨_, read, by simp [Event.readsUnused, unused]⟩
  · rintro ⟨event, member, reads⟩
    unfold Event.readsUnused at reads
    split at reads
    · rename_i read authCode
      simp only [Bool.and_eq_true, decide_eq_true_eq, Bool.not_eq_true'] at reads
      obtain ⟨rfl, unused⟩ := reads
      exact ⟨authCode, member, unused⟩
    · cases reads

instance (past : List Event) (code : String) : Decidable (ReadUnused past code) :=
  decidable_of_iff _ (readUnused_iff past code).symm

theorem consumed_iff (past : List Event) (code : String) :
    Consumed past code ↔ ∃ event ∈ past, Event.consumes code event = true := by
  constructor
  · rintro ⟨consumed, member⟩
    exact ⟨_, member, by simp [Event.consumes]⟩
  · rintro ⟨event, member, consumes⟩
    unfold Event.consumes at consumes
    split at consumes
    · rename_i consumed answer
      simp at consumes
      subst consumes
      exact ⟨answer, member⟩
    · cases consumes

instance (past : List Event) (code : String) : Decidable (Consumed past code) :=
  decidable_of_iff _ (consumed_iff past code).symm

def AnsweredWithTokens (server : Server) (i : Nat) (code : String) : Prop :=
  match server.threads[i]? with
  | some ⟨request, .done (.tokens _)⟩ => request.grant = some (.authorizationCode code)
  | _ => False

instance (server : Server) (i : Nat) (code : String) :
    Decidable (AnsweredWithTokens server i code) := by
  unfold AnsweredWithTokens
  split <;> infer_instance

theorem answeredWithTokens_iff (server : Server) (i : Nat) (code : String) :
    AnsweredWithTokens server i code ↔ ∃ request response,
      server.threads[i]? = some ⟨request, .done (.tokens response)⟩ ∧
        request.grant = some (.authorizationCode code) := by
  unfold AnsweredWithTokens
  grind

/-- At most one request that presents a code is answered with tokens. -/
def SingleUse (server : Server) : Prop :=
  ∀ code i j, AnsweredWithTokens server i code → AnsweredWithTokens server j code → i = j

/-- The request is between reading the code unused and marking it. -/
def Redeeming (server : Server) (i : Nat) (code : String) : Prop :=
  ReadUnused (past server.trace i) code ∧ ¬ Consumed (past server.trace i) code ∧ Running server i

instance (server : Server) (i : Nat) (code : String) : Decidable (Redeeming server i code) :=
  inferInstanceAs (Decidable (_ ∧ _ ∧ _))

/-- A code is read only while nobody is redeeming it, and marking it does not fail. -/
def Exclusive (server : Server) : Action → Prop
  | .spawn _ => True
  | .step i choice =>
    match server.threads[i]? with
    | some ⟨_, .call (.getAuthCode code) _⟩ =>
      ∀ j < server.threads.length, ¬ Redeeming server j code
    | some ⟨_, .call (.consumeAuthCode _) _⟩ => choice.failure = none
    | _ => True

instance (server : Server) (action : Action) : Decidable (Exclusive server action) := by
  unfold Exclusive
  split
  · infer_instance
  · split <;> infer_instance

/-! ## The invariant -/

/-- The request may still be, or has been, answered with tokens for the code. -/
def Redeems (server : Server) (i : Nat) (code : String) : Prop :=
  ReadUnused (past server.trace i) code ∧
    (Consumed (past server.trace i) code ∨ Running server i)

structure Redemption (server : Server) : Prop where
  found : ∀ i code authCode, (i, ⟨.getAuthCode code, .ok authCode⟩) ∈ server.trace →
    ∃ row, server.world.authCodes.lookup code = some row
  spent : ∀ i code consumed, (i, ⟨.consumeAuthCode code, consumed⟩) ∈ server.trace →
    ∃ row, server.world.authCodes.lookup code = some row ∧ row.used = true
  single : ∀ code i j, Redeems server i code → Redeems server j code → i = j

section

theorem redeems_iff (server : Server) (i : Nat) (code : String) :
    Redeems server i code ↔
      Claims (fun _ => True) (fun event => Event.readsUnused code event = true)
        (fun event => Event.consumes code event = true) server i := by
  rw [Redeems, readUnused_iff, consumed_iff]
  constructor
  · intro redeems
    exact ⟨fun _ _ => trivial, redeems.1, redeems.2⟩
  · intro claims
    exact ⟨claims.read, claims.goesOn⟩

variable {env : Env} {server : Server} {i : Nat} {choice : Choice} {request : Request} {op : Op}
variable {next : op.Ans → Handled Reply}
variable (calling : server.threads[i]? = some ⟨request, .call op next⟩)

theorem found_advance (redemption : Redemption server) (j : Nat) (code : String)
    (authCode : AuthCode) (member : (j, ⟨.getAuthCode code, .ok authCode⟩) ∈
      (advance (exec env) server i choice request op next).trace) :
    ∃ row, (exec env choice server.world op).2.authCodes.lookup code = some row := by
  have before : ∃ row, server.world.authCodes.lookup code = some row := by
    rcases mem_append.mp member with old | new
    · exact redemption.found j code authCode old
    · grind [Prod.mk.inj, mem_singleton, performed_iff, getAuthCode_answer]
  obtain ⟨row, found⟩ := before
  obtain ⟨later, foundLater, _⟩ := authCode_kept env choice op found
  exact ⟨later, foundLater⟩

include calling in
theorem spent_advance (redemption : Redemption server)
    (exclusive : Exclusive server (.step i choice))
    (guarded : Guard request (past server.trace i) op) (j : Nat) (code : String)
    (consumed : Except String Unit) (member : (j, ⟨.consumeAuthCode code, consumed⟩) ∈
      (advance (exec env) server i choice request op next).trace) :
    ∃ row, (exec env choice server.world op).2.authCodes.lookup code = some row ∧
      row.used = true := by
  rcases mem_append.mp member with old | new
  · obtain ⟨row, found, used⟩ := redemption.spent j code consumed old
    obtain ⟨later, foundLater, keepsUsed⟩ := authCode_kept env choice op found
    exact ⟨later, foundLater, keepsUsed used⟩
  · obtain ⟨_, performed⟩ := Prod.mk.inj (mem_singleton.mp new)
    obtain ⟨rfl, _⟩ := performed_iff.mp performed.symm
    obtain ⟨authCode, read, _⟩ := guarded
    obtain ⟨row, found⟩ := redemption.found i code authCode (mem_past_iff.mp read)
    simp [Exclusive, calling] at exclusive
    refine ⟨{ row with used := true }, ?_, rfl⟩
    simp [exec, execute, attempt, exclusive, OIDCDRSStore.consumeAuthCode, lookup_updateRow, found]

include calling in
theorem reader_alone (redemption : Redemption server)
    (exclusive : Exclusive server (.step i choice)) (kept : Kept Guard Post server)
    {code : String} {authCode : AuthCode}
    (performed : (⟨op, (exec env choice server.world op).1⟩ : Event) =
      ⟨.getAuthCode code, .ok authCode⟩) (unused : authCode.used = false) (j : Nat) :
    ¬ Redeems server j code := by
  rintro ⟨read, goesOn⟩
  obtain ⟨rfl, answered⟩ := performed_iff.mp performed
  obtain ⟨row, found, sameUsed, _⟩ :=
    getAuthCode_answer env choice server.world answered
  have notConsumed : ¬ Consumed (past server.trace j) code := by
    rintro ⟨consumed, member⟩
    obtain ⟨spentRow, spentFound, used⟩ :=
      redemption.spent j code consumed (mem_past_iff.mp member)
    grind
  have running : Running server j := goesOn.resolve_left notConsumed
  have inside : j < server.threads.length := by
    obtain ⟨other, member, _⟩ := read
    exact kept.numbered _ (mem_past_iff.mp member)
  simp [Exclusive, calling] at exclusive
  exact exclusive j inside ⟨read, notConsumed, running⟩

include calling in
theorem redemption_advance (kept : Kept Guard Post server) (redemption : Redemption server)
    (exclusive : Exclusive server (.step i choice))
    (guarded : Guard request (past server.trace i) op) :
    Redemption (advance (exec env) server i choice request op next) where
  found := found_advance redemption
  spent := spent_advance calling redemption exclusive guarded
  single := by
    intro code j k redeemsJ redeemsK
    rw [redeems_iff] at redeemsJ redeemsK
    refine single_advance calling ?_ ?_ redeemsJ redeemsK
    · intro j k beforeJ beforeK
      rw [← redeems_iff] at beforeJ beforeK
      exact redemption.single code j k beforeJ beforeK
    · intro _ reads j
      rw [← redeems_iff]
      obtain ⟨authCode, read, unused⟩ :=
        (readUnused_iff [⟨op, (exec env choice server.world op).1⟩] code).mpr
          ⟨_, mem_singleton_self _, reads⟩
      exact reader_alone calling redemption exclusive kept (mem_singleton.mp read).symm unused j

end

theorem redemption_spawn (env : Env) (server : Server) (request : Request)
    (kept : Kept Guard Post server) (redemption : Redemption server) :
    Redemption (serve env server (.spawn request)) where
  found := redemption.found
  spent := redemption.spent
  single := by
    intro code i j redeemsI redeemsJ
    rw [redeems_iff] at redeemsI redeemsJ
    have beforeI := claims_spawn kept.numbered redeemsI
    have beforeJ := claims_spawn kept.numbered redeemsJ
    rw [← redeems_iff] at beforeI beforeJ
    exact redemption.single code i j beforeI beforeJ

theorem redemption_initial (s : OIDCDRSStore) : Redemption (initial s) where
  found := by
    intro i code authCode member
    cases member
  spent := by
    intro i code consumed member
    cases member
  single := by
    rintro code i j ⟨⟨authCode, member, _⟩, _⟩
    cases member

theorem redeems_of_answered {server : Server} (kept : Kept Guard Post server) {i : Nat}
    {code : String} (answered : AnsweredWithTokens server i code) : Redeems server i code := by
  obtain ⟨request, response, found, presents⟩ :=
    (answeredWithTokens_iff server i code).mp answered
  have post := kept.keeps i _ found
  obtain ⟨read, consumed⟩ := post.spent code presents
  exact ⟨read, .inl consumed⟩

/-- In every interleaving of any requests whose steps are exclusive, every code is
redeemed at most once. -/
theorem auth_code_single_use (env : Env) (s : OIDCDRSStore) (actions : List Action)
    (exclusive : ∀ visit ∈ visits (serve env) (initial s) actions, Exclusive visit.1 visit.2) :
    ∀ reached ∈ states (serve env) (initial s) actions, SingleUse reached := by
  intro reached member code i j answeredI answeredJ
  have invariant := pool_invariant (exec env) (keeps_handle env) Exclusive
    Redemption (redemption_spawn env)
    (fun _ _ _ _ _ _ kept calling exclusive guarded redemption =>
      redemption_advance calling kept redemption exclusive guarded)
    s (redemption_initial s) actions exclusive
  obtain ⟨kept, redemption⟩ := invariant reached member
  exact redemption.single code i j (redeems_of_answered kept answeredI)
    (redeems_of_answered kept answeredJ)

def passwordHash : String := "$2a$10$XajjQvNhvvRt5GSeFk1xFeyqRrsxkhBkUiQeg0dt.wU1qD4aFDcga"

def demoEnv : Env where
  issuer := "https://drs.apexaegis.app"
  signingKey := "rsa"
  signedString := fun _ => String.ofList (List.replicate 300 'e')
  sha256 := fun _ => []
  compareHashAndPassword := fun hash password =>
    if hash = passwordHash ∧ password = "allmine" then none
    else some "hashedPassword is not the hash of the given password"
  decodeString := fun _ => none
  unmarshalMap := fun _ => none

def publicClient : ClientRow where
  clientSecretHash := ""
  name := "App"
  clientType := "public"
  redirectURIs := .arr []
  grantTypes := .arr []
  scopes := .arr []
  enabled := true

/-- A store with one client and one code that a login of `user-1` has left. -/
def storeWithCode : OIDCDRSStore where
  clients := (∅ : Table String ClientRow).insert "app" publicClient
  users := ∅
  authCodes := (∅ : Table String AuthCodeRow).insert "code-1"
    { clientID := "app"
      userID := some "user-1"
      orgID := some "org-1"
      scopes := .arr [.str "openid"]
      redirectURI := some "https://app.example/cb"
      codeChallenge := some ""
      codeChallengeMethod := some "S256"
      expiresAt := 10 * Policy.minute
      used := false }
  tokens := ∅

def redeem : Action :=
  .spawn (.token
    { grantType := "authorization_code"
      clientID := "app"
      code := "code-1"
      redirectURI := "https://app.example/cb" })

def steps (i count : Nat) : List Action := List.replicate count (.step i {})

/-- The second request reads the code after the first one has marked it. -/
def redeemInTurn : List Action :=
  redeem :: redeem :: steps 0 4 ++ steps 1 3 ++ steps 0 7

theorem sequential_redemption_single_use :
    (∀ visit ∈ visits (serve demoEnv) (initial storeWithCode) redeemInTurn,
        Exclusive visit.1 visit.2) ∧
      AnsweredWithTokens (run (serve demoEnv) (initial storeWithCode) redeemInTurn) 0 "code-1" ∧
      SingleUse (run (serve demoEnv) (initial storeWithCode) redeemInTurn) := by
  have exclusive : ∀ visit ∈ visits (serve demoEnv) (initial storeWithCode) redeemInTurn,
      Exclusive visit.1 visit.2 := by
    decide +kernel
  exact ⟨exclusive, by decide +kernel, auth_code_single_use demoEnv storeWithCode _ exclusive _
    run_mem_states⟩

def redeemAtOnce : List Action :=
  redeem :: redeem :: steps 0 2 ++ steps 1 2 ++ steps 0 9 ++ steps 1 9

theorem concurrent_redemption_twice :
    ¬ SingleUse (run (serve demoEnv) (initial storeWithCode) redeemAtOnce) := by
  intro single
  have first : AnsweredWithTokens (run (serve demoEnv) (initial storeWithCode) redeemAtOnce) 0
      "code-1" := by
    decide +kernel
  have second : AnsweredWithTokens (run (serve demoEnv) (initial storeWithCode) redeemAtOnce) 1
      "code-1" := by
    decide +kernel
  exact absurd (single "code-1" 0 1 first second) (by decide)

end ManagementPlane.Oidc
