import ManagementPlane.Lib.Alone
import ManagementPlane.Sso.Handler

/-!
# Single sign-on and tenants

An identity provider belongs to an organization. A login through it stays inside that
organization when the token it issues carries the organization and no account of another
organization is written. The portal looks its users up inside the organization; the
administrator login looks them up by link and then by e-mail address, in all
organizations that the connection sees.
-/

namespace ManagementPlane.Sso

open GoJson Interleave Jwt Policy Tables Option

def ForeignKept {Details : Type} (orgID : String) (before after : Accounts Details) : Prop :=
  ∀ id row, before.rows.lookup id = some row → row.orgID ≠ orgID → after.rows.lookup id = some row

structure StaysInside (orgID : String) (before : World) (reply : Reply) (after : World) : Prop where
  token : ∀ token, reply.accessToken = some token → token.claims "org_id" = some (.str orgID)
  users : ForeignKept orgID before.users after.users
  clientUsers : ForeignKept orgID before.clientUsers after.clientUsers

def Accounts.Linkable {Details : Type} (accounts : Accounts Details)
    (id provider subject : String) : Prop :=
  (provider.length ≤ 30 ∧ subject.length ≤ 255) ∧ accounts.taken id provider subject = false

/-- The callback gets to the administrator login, if the identity provider agrees. -/
structure AdministratorLogin (req : CallbackRequest) (pending : PendingAuth) (idp : IdPConfig)
    (claims : MapClaims) : Prop where
  complete : req.code ≠ "" ∧ req.state ≠ ""
  enabled : idp.enabled = true
  named : claimStr claims "sub" ≠ "" ∧ claimOr claims "email" "preferred_username" ≠ ""
  audience : pending.audience ≠ "user_portal" ∧ pending.audience ≠ "desktop"

/-- An administrator of another organization whom a login reaches: one with the link of the
subject, or one with its e-mail address who is active or can be given the link. -/
structure Reached (env : Env) (world : World) (idp : IdPConfig) (subject email id : String)
    (row : Account AdminDetails) : Prop where
  found : world.users.rows.lookup id = some row
  visible : env.sees row.orgID = true
  foreign : row.orgID ≠ idp.orgID
  matched : row.linkedTo idp.providerType subject = true ∨
    row.email = email ∧
      (row.status = "active" ∨ world.users.Linkable id idp.providerType subject)

section
variable {Details : Type} (sees : String → Bool) (accounts written : Accounts Details)

variable {accounts} in
@[simp]
theorem foreignKept_refl {orgID : String} : ForeignKept orgID accounts accounts :=
  fun _ _ found _ => found

theorem foreignKept_of_others (orgID id : String)
    (others : ∀ other, other ≠ id → written.rows.lookup other = accounts.rows.lookup other)
    (own : ∀ row, accounts.rows.lookup id = some row → row.orgID = orgID) :
    ForeignKept orgID accounts written := by
  intro other row found foreign
  grind

theorem touch_others {id : String} {now : Time}
    (touched : accounts.touch sees id now = .ok written) (other : String) (another : other ≠ id) :
    written.rows.lookup other = accounts.rows.lookup other := by
  unfold Accounts.touch at touched
  split at touched
  · cases touched
    rfl
  · split_ifs at touched
    · cases touched
      rfl
    · cases touched
      exact (lookup_updateRow ..).trans (if_neg another)

theorem link_others {id provider subject : String} {now : Time}
    (linked : accounts.link sees id provider subject now = .ok written) (other : String)
    (another : other ≠ id) : written.rows.lookup other = accounts.rows.lookup other := by
  unfold Accounts.link at linked
  split at linked
  · cases linked
    rfl
  · split_ifs at linked
    · cases linked
      rfl
    · cases linked
      exact (lookup_updateRow ..).trans (if_neg another)

theorem linkable_of_link {id provider subject : String} {now : Time} {row : Account Details}
    (found : accounts.rows.lookup id = some row) (visible : sees row.orgID = true)
    (linked : accounts.link sees id provider subject now = .ok written) :
    accounts.Linkable id provider subject := by
  simp only [Accounts.link, found, visible] at linked
  split_ifs at linked with hidden tooLong held
  · cases hidden
  · refine ⟨?_, by simpa using held⟩
    simpa using tooLong

theorem updateRow_ne {id : String} {f : Account Details → Account Details} {now : Time}
    {row : Account Details} (found : accounts.rows.lookup id = some row)
    (shows : (f row).lastLoginAt = some now) (unseen : row.lastLoginAt ≠ some now) :
    (updateRow id f accounts.rows).lookup id ≠ some row := by
  rw [lookup_updateRow, if_pos rfl, found, map_some]
  grind

theorem touch_ne (id : String) (now : Time) (row : Account Details)
    (found : accounts.rows.lookup id = some row) (visible : sees row.orgID = true)
    (unseen : row.lastLoginAt ≠ some now) :
    ∃ touched, accounts.touch sees id now = .ok touched ∧ touched.rows.lookup id ≠ some row := by
  simp only [Accounts.touch, found, visible]
  exact ⟨_, rfl, updateRow_ne accounts found rfl unseen⟩

theorem link_ne (id provider subject : String) (now : Time) (row : Account Details)
    (found : accounts.rows.lookup id = some row) (visible : sees row.orgID = true)
    (linkable : accounts.Linkable id provider subject) (unseen : row.lastLoginAt ≠ some now) :
    ∃ linked, accounts.link sees id provider subject now = .ok linked ∧
      linked.rows.lookup id ≠ some row := by
  obtain ⟨fits, free⟩ := linkable
  have short : (decide (provider.length ≤ 30) && decide (subject.length ≤ 255)) = true := by
    simpa using fits
  simp only [Accounts.link, found, visible, short, free]
  exact ⟨_, rfl, updateRow_ne accounts found rfl unseen⟩

theorem register_others {id orgID email name provider subject : String} {details : Details}
    {now : Time}
    (registered : accounts.register sees id orgID email name provider subject details now =
      .ok written) :
    ForeignKept orgID accounts written := by
  unfold Accounts.register at registered
  split_ifs at registered with hidden tooLong used
  cases registered
  intro other row found _
  have another : other ≠ id := by
    rintro rfl
    exact used (.inl (by rw [found]; rfl))
  simp [lookup_insert_if, if_neg another]
  exact found

end

theorem findUser_ok {env : Env} {world : World} {matched : Account AdminDetails → Bool}
    {u : AuthUser} (found : findUser env world matched = .ok u) :
    ∃ row, world.users.rows.lookup u.id = some row ∧ env.sees row.orgID = true ∧
      matched row = true ∧ u.orgID = row.orgID ∧ u.status = row.status := by
  unfold findUser at found
  split at found
  · rename_i id row searched
    cases found
    obtain ⟨foundRow, holds⟩ := findRow_some searched
    rw [Bool.and_eq_true] at holds
    exact ⟨row, foundRow, holds.1, holds.2, rfl, rfl⟩
  · cases found

theorem findUser_of_unique (env : Env) (world : World) (matched : Account AdminDetails → Bool)
    (id : String) (row : Account AdminDetails) (found : world.users.rows.lookup id = some row)
    (visible : env.sees row.orgID = true) (holds : matched row = true)
    (unique : ∀ other otherRow, world.users.rows.lookup other = some otherRow →
      matched otherRow = true → other = id) :
    findUser env world matched = .ok (authUser id row) := by
  have only : findRow (fun row => env.sees row.orgID && matched row) world.users.rows =
      some (id, row) := by
    refine findRow_of_unique found ?_ ?_
    · rw [visible, holds]
      rfl
    · grind
  rw [findUser, only]

theorem findProvisionedClientUser_some {env : Env} {world : World}
    {provider subject email orgID : String} {u : SCIMUser}
    (found : findProvisionedClientUser env world provider subject email orgID = some u) :
    u.orgID = orgID ∧
      ∀ row, world.clientUsers.rows.lookup u.id = some row → row.orgID = orgID := by
  obtain ⟨⟨id, row⟩, searched, rfl⟩ := map_eq_some_iff.mp found
  have inside : world.clientUsers.rows.lookup id = some row ∧ row.orgID = orgID := by
    rcases or_eq_some_iff.mp searched with linked | ⟨_, named⟩
    · obtain ⟨foundRow, holds⟩ := findRow_some linked
      grind
    · obtain ⟨foundRow, holds⟩ := findRow_some named
      grind
  refine ⟨inside.2, ?_⟩
  intro other foundOther
  rw [show (scimUser id row).id = id from rfl, inside.1, some.injEq] at foundOther
  rw [← foundOther]
  exact inside.2

def SameAccounts (before after : World) : Prop :=
  after.users = before.users ∧ after.clientUsers = before.clientUsers

section

theorem forall_choice {p : Choice → Prop} :
    (∀ choice, p choice) ↔ ∀ failure now random newID idToken claims,
      p ⟨failure, now, random, newID, idToken, claims⟩ :=
  ⟨fun each _ _ _ _ _ _ => each _, fun each _ => each ..⟩

attribute [local simp] forall_choice Option.forall

@[simp high]
theorem ensures_timeNow {α : Type} {env : Env} {Allowed : Choice → Prop} {Post : α → World → Prop}
    {next : Time → Handled α} {world : World} :
    Ensures (exec env) Allowed Post (timeNow >>= next) world ↔
      ∀ choice, Allowed choice → Ensures (exec env) Allowed Post (next choice.now) world := Iff.rfl

@[simp]
theorem accessTokenClaims_orgID (u : AuthUser) (now : Time) :
    accessTokenClaims u now "org_id" = some (.str u.orgID) := rfl

@[simp]
theorem portalTokenClaims_orgID (u : SCIMUser) (now : Time) :
    portalTokenClaims u now "org_id" = some (.str u.orgID) := rfl

variable (env : Env) {Allowed : Choice → Prop} (world : World)

/-- A token of a login is one for the user, who is active. -/
theorem ensures_issueIfActive (req : CallbackRequest) (u : AuthUser) :
    Ensures (exec env) Allowed
      (fun reply now => SameAccounts world now ∧ ∀ token, reply.accessToken = some token →
        u.status = "active" ∧ token.claims "org_id" = some (.str u.orgID))
      (issueIfActive req u) world := by
  simp +contextual [issueIfActive, issueTokens, generateAccessToken, generateRefreshToken, exec, attempt,
    execute, SameAccounts, Reply.accessToken]

/-! ## The two logins -/

theorem staysInside_iff {orgID : String} {before now : World} {reply : Reply} :
    StaysInside orgID before reply now ↔
      (∀ token, reply.accessToken = some token → token.claims "org_id" = some (.str orgID)) ∧
        ForeignKept orgID before.users now.users ∧
        ForeignKept orgID before.clientUsers now.clientUsers :=
  ⟨fun stays => ⟨stays.1, stays.2, stays.3⟩, fun stays => ⟨stays.1, stays.2.1, stays.2.2⟩⟩

attribute [local simp] staysInside_iff Reply.accessToken

theorem ensures_findAndLink (provider subject email orgID : String) :
    Ensures (exec env) Allowed
      (fun result now => now.users = world.users ∧
        ForeignKept orgID world.clientUsers now.clientUsers ∧
        ∀ u, result = .ok u → u.orgID = orgID)
      (findAndLinkProvisionedClientUser provider subject email orgID) world := by
  unfold findAndLinkProvisionedClientUser
  rw [ensures_call]
  intro search _
  simp only [exec]
  cases searched : attempt search
      (.ok (findProvisionedClientUser env world provider subject email orgID)) with
  | error err => exact ⟨rfl, foreignKept_refl, fun u isOk => by cases isOk⟩
  | ok answer =>
    have answerEq := Except.ok.inj (attempt_ok searched)
    cases answer with
    | none => exact ⟨rfl, foreignKept_refl, fun u isOk => by cases isOk⟩
    | some u =>
      obtain ⟨inside, own⟩ :=
        findProvisionedClientUser_some answerEq
      have written : ∀ (choice : Choice) statement,
          (∀ after, statement = .ok after → ∀ other, other ≠ u.id →
            after.rows.lookup other = world.clientUsers.rows.lookup other) →
          (execute choice world () (writeClientUsers world statement)).2.users = world.users ∧
            ForeignKept orgID world.clientUsers
              (execute choice world () (writeClientUsers world statement)).2.clientUsers := by
        intro choice statement others
        refine execute_keeps choice world () _ (fun now => now.users = world.users ∧
            ForeignKept orgID world.clientUsers now.clientUsers)
          ⟨rfl, foreignKept_refl⟩ ?_
        intro after succeeded
        obtain ⟨clientUsers, statementEq, rfl⟩ := writeClientUsers_ok succeeded
        exact ⟨rfl, foreignKept_of_others _ _ orgID u.id (others clientUsers statementEq) own⟩
      by_cases relinks : u.oauthProvider ≠ provider ∨ u.oauthSubject ≠ subject
      · simp only [if_pos relinks]
        rw [ensures_call]
        intro update _
        have kept := written update (world.clientUsers.link env.sees u.id provider subject update.now)
          (fun after linked => link_others env.sees _ after linked)
        simp only [exec]
        cases (execute update world () (writeClientUsers world
            (world.clientUsers.link env.sees u.id provider subject update.now))).1 with
        | error err => exact ⟨kept.1, kept.2, fun u isOk => by cases isOk⟩
        | ok done =>
          refine ⟨kept.1, kept.2, ?_⟩
          intro user isOk
          cases isOk
          exact inside
      · simp only [if_neg relinks]
        rw [ensures_call]
        intro update _
        have kept := written update (world.clientUsers.touch env.sees u.id update.now)
          (fun after touched => touch_others env.sees _ after touched)
        refine ⟨kept.1, kept.2, ?_⟩
        intro user isOk
        cases isOk
        exact inside

theorem ensures_portalLogin (idp : IdPConfig) (subject email : String) :
    Ensures (exec env) Allowed (StaysInside idp.orgID world) (portalLogin env idp subject email)
      world := by
  refine ensures_check (fun _ => by simp) fun _ => ?_
  refine ensures_then (ensures_findAndLink env world _ _ _ _) ?_
  rintro result now ⟨users, clientUsers, inside⟩
  cases result with
  | error err => simp [users, clientUsers]
  | ok user => simp [issuePortalToken, exec, attempt, users, clientUsers, inside user rfl]

/-- What finding or creating a user may do: the user who can log in is of the organization. -/
def Located (orgID : String) (result : Except String (AuthUser × Bool)) (now : World) : Prop :=
  ForeignKept orgID world.users now.users ∧ now.clientUsers = world.clientUsers ∧
    ∀ u created, result = .ok (u, created) → u.status = "active" → u.orgID = orgID

theorem located_error (orgID err : String) : Located world orgID (.error err) world := by
  refine ⟨foreignKept_refl, rfl, ?_⟩
  intro u created isOk
  cases isOk

theorem located_written {α : Type} {orgID : String} (choice : Choice) (answer : α)
    {statement : Except String (Accounts AdminDetails)} {u : AuthUser} (created : Bool)
    (kept : ∀ users, statement = .ok users → ForeignKept orgID world.users users)
    (inside : u.status = "active" → u.orgID = orgID) :
    Located world orgID (.ok (u, created))
      (execute choice world answer (writeUsers world statement)).2 := by
  refine execute_keeps choice world answer _ (Located world orgID (.ok (u, created))) ?_ ?_
  · refine ⟨foreignKept_refl, rfl, ?_⟩
    intro u created isOk
    cases isOk
    exact inside
  · intro after succeeded
    obtain ⟨users, statementEq, rfl⟩ := writeUsers_ok succeeded
    refine ⟨kept users statementEq, rfl, ?_⟩
    intro u created isOk
    cases isOk
    exact inside

theorem insertUser_ok {id orgID email name provider subject : String} {now : Time} {after : World}
    (inserted : insertUser env world id orgID email name provider subject now = .ok after) :
    ForeignKept orgID world.users after.users ∧ after.clientUsers = world.clientUsers := by
  unfold insertUser at inserted
  split at inserted
  · cases inserted
  · obtain ⟨users, registered, ⟨⟩⟩ := bind_ok inserted
    grind [register_others]

theorem ensures_autoProvision (provider subject email name orgID : String) (named : orgID ≠ "") :
    Ensures (exec env) Allowed (Located world orgID)
      (autoProvisionUser provider subject email name orgID) world := by
  have resolved : Ensures (exec env) Allowed (fun found now => found = orgID ∧ now = world)
      (resolveOrgID orgID) world :=
    ensures_check (fun _ => ⟨rfl, rfl⟩) fun unnamed => absurd named unnamed
  refine ensures_then resolved ?_
  rintro found now ⟨rfl, rfl⟩
  refine ensures_check (fun unnamed => absurd unnamed named) fun _ => ?_
  rw [ensures_call]
  intro choice _
  simp [exec]
  rcases execute_cases choice now choice.newID
      (insertUser env now choice.newID found email name provider subject choice.now) with
    ⟨err, notInserted⟩ | ⟨after, inserted, done⟩
  · rw [notInserted]
    exact located_error now found _
  · rw [done]
    obtain ⟨users, clientUsers⟩ := insertUser_ok env now inserted
    refine ⟨users, clientUsers, ?_⟩
    intro u created isOk active
    cases isOk
    rfl

theorem ensures_findOrCreate {idp : IdPConfig} {subject email : String} (name : String)
    (autoProvision : Bool) (named : idp.orgID ≠ "")
    (nobody : ∀ id row, ¬ Reached env world idp subject email id row) :
    Ensures (exec env) Allowed (Located world idp.orgID)
      (findOrCreateOAuthUser idp.providerType subject email name idp.orgID autoProvision)
      world := by
  unfold findOrCreateOAuthUser
  rw [ensures_call]
  intro byLink _
  simp only [exec]
  cases linked : attempt byLink
      (findUser env world fun row => row.linkedTo idp.providerType subject) with
  | ok u =>
    obtain ⟨row, found, visible, matched, orgEq, statusEq⟩ :=
      findUser_ok (attempt_ok linked)
    have inside : row.orgID = idp.orgID := by
      by_contra foreign
      exact nobody u.id row ⟨found, visible, foreign, .inl matched⟩
    rw [ensures_call]
    intro update _
    refine located_written world update () false ?_ fun _ => orgEq.trans inside
    intro users touched
    refine foreignKept_of_others _ _ idp.orgID u.id (touch_others env.sees _ users touched) ?_
    intro other foundOther
    rw [found, some.injEq] at foundOther
    rwa [← foundOther]
  | error err =>
    rw [ensures_call]
    intro byEmail _
    simp only [exec]
    cases addressed : attempt byEmail (findUser env world fun row => row.email = email) with
    | ok u =>
      obtain ⟨row, found, visible, matched, orgEq, statusEq⟩ :=
        findUser_ok (attempt_ok addressed)
      have matched := of_decide_eq_true matched
      have reached : ∀ foreign : row.orgID ≠ idp.orgID, ¬ (row.status = "active" ∨
          world.users.Linkable u.id idp.providerType subject) := fun foreign either =>
        nobody u.id row ⟨found, visible, foreign, .inr ⟨matched, either⟩⟩
      rw [ensures_call]
      intro update _
      refine located_written world update () false ?_ ?_
      · intro users relinked
        refine foreignKept_of_others _ _ idp.orgID u.id (link_others env.sees _ users relinked) ?_
        grind [some.injEq, linkable_of_link]
      · grind
    | error err =>
      refine ensures_check (fun _ => ?_) fun _ => ?_
      · exact located_error world idp.orgID _
      · exact ensures_autoProvision env world _ _ _ _ _ named

theorem ensures_administratorLogin (req : CallbackRequest) (idp : IdPConfig)
    (subject email name : String) (named : idp.orgID ≠ "")
    (nobody : ∀ id row, ¬ Reached env world idp subject email id row) :
    Ensures (exec env) Allowed (StaysInside idp.orgID world)
      (administratorLogin req idp subject email name) world := by
  refine ensures_then (ensures_findOrCreate env world name _ named nobody) ?_
  rintro result now ⟨users, clientUsers, inside⟩
  cases result with
  | error err => simp [users, clientUsers]
  | ok answer =>
    obtain ⟨user, created⟩ := answer
    refine ensures_mono ?_ (ensures_issueIfActive env now req user)
    rintro reply later ⟨⟨sameUsers, sameClientUsers⟩, carries⟩
    rw [staysInside_iff, sameUsers, sameClientUsers, clientUsers]
    refine ⟨?_, users, foreignKept_refl⟩
    intro token hasToken
    obtain ⟨active, claimed⟩ := carries token hasToken
    rw [claimed, inside user created rfl active]

theorem not_ensures_of_written (possible : ∃ choice, Allowed choice) (req : CallbackRequest)
    (orgID id : String) (row : Account AdminDetails)
    (found : world.users.rows.lookup id = some row) (foreign : row.orgID ≠ orgID) (u : AuthUser)
    (now : World) (written : now.users.rows.lookup id ≠ some row) :
    ¬ Ensures (exec env) Allowed (StaysInside orgID world) (issueIfActive req u) now := by
  intro inside
  obtain ⟨reply, later, stays, ⟨sameUsers, _⟩, _⟩ :=
    ensures_both possible inside (ensures_issueIfActive env now req u)
  have kept := stays.users id row found foreign
  rw [sameUsers] at kept
  exact written kept

variable (claims : MapClaims)

theorem not_ensures_of_foreign (req : CallbackRequest) (orgID : String)
    (u : AuthUser) (active : u.status = "active") (foreign : u.orgID ≠ orgID) :
    ¬ Ensures (exec env) (fun choice => choice.claims = claims) (StaysInside orgID world)
      (issueIfActive req u) world := by
  intro inside
  unfold issueIfActive at inside
  rw [if_neg (not_not.mpr active)] at inside
  -- nothing fails
  have stays := eval_ensures (fun _ => { claims := claims }) (fun _ => rfl) inside
  have claimed := stays.token ⟨env.jwtSecret, accessTokenClaims u 0⟩ rfl
  exact foreign (Json.str.inj (some.inj claimed))

theorem reached_not_inside (req : CallbackRequest) (idp : IdPConfig)
    (subject email name id : String) (row : Account AdminDetails)
    (reached : Reached env world idp subject email id row) :
    ¬ Ensures (exec env) (fun choice => choice.claims = claims) (StaysInside idp.orgID world)
      (administratorLogin req idp subject email name) world := by
  obtain ⟨found, visible, foreign, matched⟩ := reached
  intro inside
  rw [administratorLogin, ensures_bind, findOrCreateOAuthUser, ensures_call] at inside
  have possible : ∃ choice : Choice, choice.claims = claims := ⟨{ claims := claims }, rfl⟩
  -- a clock that the row does not show yet
  obtain ⟨later, unseen⟩ : ∃ later : Time, row.lastLoginAt ≠ some later := by
    cases row.lastLoginAt with
    | none => exact ⟨0, by simp⟩
    | some last => exact ⟨last + 1, by simp⟩
  rcases matched with linked | ⟨addressed, matched⟩
  · have search := findUser_of_unique env world (fun row => row.linkedTo idp.providerType subject)
      id row found visible linked fun other otherRow foundOther otherLinked =>
        world.users.links other id otherRow row _ _ foundOther found otherLinked linked
    have inside := inside { claims := claims } rfl
    simp only [exec, attempt, search] at inside
    rw [ensures_call] at inside
    have inside := inside { claims := claims, now := later } rfl
    obtain ⟨touched, touchEq, changed⟩ :=
      touch_ne env.sees world.users id later row found visible unseen
    simp [exec, authUser, touchEq] at inside
    exact not_ensures_of_written env world possible req idp.orgID id row found foreign _ _ changed
      inside
  · have search := findUser_of_unique env world (fun row => row.email = email) id row found visible
      (decide_eq_true addressed) fun other otherRow foundOther otherAddressed =>
        world.users.emails other id otherRow row foundOther found
          ((of_decide_eq_true otherAddressed).trans addressed.symm)
    have inside := inside { claims := claims, failure := some "" } rfl
    simp only [exec, attempt] at inside
    rw [ensures_call] at inside
    have inside := inside { claims := claims } rfl
    simp only [exec, attempt, search] at inside
    rw [ensures_call] at inside
    rcases matched with active | linkable
    · have inside := inside { claims := claims, failure := some "" } rfl
      exact not_ensures_of_foreign env world claims req idp.orgID (authUser id row) active foreign
        inside
    · have inside := inside { claims := claims, now := later } rfl
      obtain ⟨relinked, linkEq, changed⟩ :=
        link_ne env.sees world.users id _ _ later row found visible linkable unseen
      simp [exec, authUser, linkEq] at inside
      exact not_ensures_of_written env world possible req idp.orgID id row found foreign _ _ changed
        inside

def login (req : CallbackRequest) (pending : PendingAuth) (idp : IdPConfig) (claims : MapClaims) :
    Handled Reply :=
  if pending.audience = "user_portal" ∨ pending.audience = "desktop" then
    portalLogin env idp (claimStr claims "sub") (claimOr claims "email" "preferred_username")
  else
    administratorLogin req idp (claimStr claims "sub")
      (claimOr claims "email" "preferred_username") (claimOr claims "name" "preferred_username")

theorem ensures_callback_iff {req : CallbackRequest} {pending : PendingAuth} {idp : IdPConfig}
    (begun : world.pending.lookup req.state = some pending)
    (through : world.idps.lookup pending.idpID = some idp) :
    Ensures (exec env) (fun choice => choice.claims = claims) (StaysInside idp.orgID world)
        (callback env req) world ↔
      (req.code ≠ "" ∧ req.state ≠ "" → idp.enabled = true →
        claimStr claims "sub" ≠ "" ∧ claimOr claims "email" "preferred_username" ≠ "" →
        Ensures (exec env) (fun choice => choice.claims = claims) (StaysInside idp.orgID world)
          (login env req pending idp claims)
          { world with pending := world.pending.erase req.state }) := by
  simp [callback, exec, attempt, begun, through, login]
  constructor
  · intro ensured code state
    -- the clock need not have moved on
    exact ensured code state pending.createdAt (Int.le_add_of_nonneg_left (by decide))
  · intro logsIn code state now _
    exact logsIn code state

end

/-- Whatever the identity provider says, a callback through it stays inside its organization,
unless it is an administrator login that reaches an account of another one. -/
theorem callback_stays_inside_iff (env : Env) (world : World) (req : CallbackRequest)
    (pending : PendingAuth) (idp : IdPConfig) (claims : MapClaims)
    (begun : world.pending.lookup req.state = some pending)
    (through : world.idps.lookup pending.idpID = some idp) (named : idp.orgID ≠ "") :
    (∀ choices : Nat → Choice, (∀ n, (choices n).claims = claims) →
      StaysInside idp.orgID world ((callback env req).eval (exec env) choices world).1
        ((callback env req).eval (exec env) choices world).2) ↔
      (AdministratorLogin req pending idp claims → ∀ id row,
        ¬ Reached env world idp (claimStr claims "sub")
          (claimOr claims "email" "preferred_username") id row) := by
  have possible : ∃ choice : Choice, choice.claims = claims := ⟨{ claims := claims }, rfl⟩
  -- taking the pending authorization leaves the accounts alone
  have sameInside : ∀ reply now,
      StaysInside idp.orgID { world with pending := world.pending.erase req.state } reply now ↔
        StaysInside idp.orgID world reply now := by
    intro reply now
    constructor
    · intro stays
      exact ⟨stays.token, stays.users, stays.clientUsers⟩
    · intro stays
      exact ⟨stays.token, stays.users, stays.clientUsers⟩
  rw [← ensures_iff_eval possible, ensures_callback_iff env world claims begun through]
  constructor
  · intro logsIn reaches id row reached
    have inside := logsIn reaches.complete reaches.enabled reaches.named
    rw [login, if_neg (not_or.mpr reaches.audience)] at inside
    exact reached_not_inside env { world with pending := world.pending.erase req.state } claims req
      idp _ _ _ id row ⟨reached.found, reached.visible, reached.foreign, reached.matched⟩
      (ensures_mono (fun reply now => (sameInside reply now).mpr) inside)
  · intro nobody complete enabled subject
    refine ensures_mono (fun reply now => (sameInside reply now).mp) ?_
    unfold login
    by_cases portal : pending.audience = "user_portal" ∨ pending.audience = "desktop"
    · grind [ensures_portalLogin]
    · rw [if_neg portal]
      refine ensures_administratorLogin env _ req idp _ _ _ named fun id row reached => ?_
      exact nobody ⟨complete, enabled, subject, not_or.mp portal⟩ id row
        ⟨reached.found, reached.visible, reached.foreign, reached.matched⟩

def demoEnv : Env where
  sees := fun orgID => orgID = "org-1"
  lower := id
  jwtSecret := "secret"
  hasSCIM := true

def demoAccounts : Accounts AdminDetails :=
  match Accounts.empty.register demoEnv.sees "ada" "org-1" "ada@one.example" "Ada" "okta" "ada-1"
      ⟨"super_admin", false⟩ 0 with
  | .ok accounts => accounts
  | .error _ => .empty

def demoIdP (id orgID : String) : IdPConfig where
  id := id
  orgID := orgID
  providerType := "okta"
  enabled := true
  clientID := "client"
  issuerURL := "https://idp.example"
  tokenEndpoint := ""
  scimEnabled := false

def demoWorld (idpID : String) : World where
  pending := (∅ : Table String PendingAuth).insert "state" ⟨idpID, "", "", "", 0⟩
  idps := ((∅ : Table String IdPConfig).insert "idp-1" (demoIdP "idp-1" "org-1")).insert "idp-2"
    (demoIdP "idp-2" "org-2")
  organizations := ["org-1"]
  users := demoAccounts
  clientUsers := .empty
  loginSessions := []

def demoClaims (subject : String) : MapClaims :=
  MapClaims.ofList [("sub", .str subject), ("email", .str "ada@one.example")]

/-- A login through the identity provider of the own organization. -/
theorem own_tenant_logged_in :
    ∃ reply after, (reply, after) = (callback demoEnv ⟨"code", "state", "", ""⟩).eval (exec demoEnv)
        (fun _ => { claims := demoClaims "ada-1" }) (demoWorld "idp-1") ∧
      reply.accessToken.isSome = true ∧ StaysInside "org-1" (demoWorld "idp-1") reply after := by
  have own : ∀ entry ∈ demoAccounts.rows.entries, entry.2.orgID = "org-1" := by
    decide +kernel
  have inside := (callback_stays_inside_iff demoEnv (demoWorld "idp-1") ⟨"code", "state", "", ""⟩
    ⟨"idp-1", "", "", "", 0⟩ (demoIdP "idp-1" "org-1") (demoClaims "ada-1") rfl rfl
    (by decide)).mpr (by
      intro _ id row reached
      exact reached.foreign (own ⟨id, row⟩ (lookup_eq_some_iff.mp reached.found)))
  exact ⟨_, _, rfl, by decide +kernel, inside (fun _ => { claims := demoClaims "ada-1" }) fun _ => rfl⟩

/-- The identity provider of the second organization vouches for an address of the first one:
the account is linked to its subject and it gets a token of the first organization. -/
theorem other_tenant_logged_in :
    ∃ reply after, (reply, after) = (callback demoEnv ⟨"code", "state", "", ""⟩).eval (exec demoEnv)
        (fun _ => { claims := demoClaims "mallory" }) (demoWorld "idp-2") ∧
      (demoIdP "idp-2" "org-2").orgID = "org-2" ∧
      (∃ token, reply.accessToken = some token ∧ token.claims "org_id" = some (.str "org-1")) ∧
      (∃ row linked, (demoWorld "idp-2").users.rows.lookup "ada" = some row ∧
        row.orgID = "org-1" ∧ row.linkedTo "okta" "ada-1" = true ∧
        after.users.rows.lookup "ada" = some linked ∧ linked.linkedTo "okta" "mallory" = true) ∧
      ¬ StaysInside "org-2" (demoWorld "idp-2") reply after := by
  refine ⟨_, _, rfl, rfl, ⟨_, rfl, rfl⟩, ⟨_, _, rfl, rfl, rfl, rfl, rfl⟩, ?_⟩
  intro stays
  have claimed := stays.token _ rfl
  exact absurd (Json.str.inj (some.inj claimed)) (by decide)

end ManagementPlane.Sso
