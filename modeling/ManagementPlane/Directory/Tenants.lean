import ManagementPlane.Directory.Requests

/-!
# Tenant isolation of the SCIM API

The handlers put together: a SCIM request is isolated when what it names is of the
organization of its token, and for every other target some request is not.
-/

namespace ManagementPlane.Directory

open GoStrings Interleave Tables Option SCIMHandler
open List hiding lookup_eq_some_iff
open Sso (Account Accounts)

section
variable {env : Env} {orgID : String} {origin : Origin} {world : World}

theorem isolated_refused {status : Nat} {detail : String} :
    Isolated orgID origin world (.error status detail) world :=
  isolated_quiet .refl rfl rfl

theorem quiet_answer {α : Type} {p : Handled (Except String α)} (status : Nat) {reply : α → Reply}
    (quiet : ∀ a, (reply a).shownUsers = [] ∧ (reply a).shownGroups = [])
    (spec : Ends env (fun _ now => Untouched orgID world now) p world) :
    Ends env (Isolated orgID origin world)
      (p >>= fun result => pure (answer status reply result)) world := by
  refine ensures_then spec fun result now untouched => ?_
  exact isolated_answer status untouched fun a _ =>
    isolated_quiet untouched (quiet a).1 (quiet a).2

theorem ask_untouched (q : Query) (f : Except String q.Result → Except String (Option SCIMUser)) :
    Ends env (fun _ now => now = world) (ask q >>= fun result => pure (f result)) world :=
  ends_ask q _ (fun _ => rfl) fun _ => rfl

variable (params : ListParams)

theorem listAdminUsers_isolated :
    Ends env (Isolated orgID origin world) (listAdminUsers origin params) world :=
  quiet_answer _ (fun _ => ⟨rfl, rfl⟩)
    (by simp [SCIMStore.listAdminUsers, forall_choice, exec_query, attempt])

variable (body : Option ScimUserRequest)

theorem createAdminUser_isolated :
    Ends env (Isolated orgID origin world) (createAdminUser orgID origin body) world := by
  cases body with
  | none => exact isolated_refused
  | some req =>
    exact quiet_answer _ (fun _ => ⟨rfl, rfl⟩) (createAdminUser_untouched rfl)

theorem getAdminUser_isolated (id : String) :
    Ends env (Isolated orgID origin world) (getAdminUser origin id) world := by
  refine ensures_then (ask_untouched (.getAdminUser id) (SCIMStore.wrap "scim get admin user")) ?_
  rintro result now rfl
  exact isolated_answerFound _ _ result .refl fun u _ =>
    isolated_quiet .refl rfl rfl

theorem updateAdminUser_isolated (id : String) (body : Option ScimUserRequest) :
    Ends env (Isolated orgID origin world) (SCIMHandler.updateAdminUser origin id body) world := by
  cases body with
  | none => exact isolated_refused
  | some req =>
    exact quiet_answer _ (fun _ => ⟨rfl, rfl⟩) (updateAdminUser_untouched id _)

theorem patchAdminUser_isolated (id : String) (body : Option (List PatchOperation)) :
    Ends env (Isolated orgID origin world) (patchAdminUser origin id body) world := by
  cases body with
  | none => exact isolated_refused
  | some operations =>
    refine ensures_then (ask_untouched (.getAdminUser id) (SCIMStore.wrap "scim get admin user")) ?_
    rintro result now rfl
    match result with
    | .error err | .ok none => exact isolated_refused
    | .ok (some user) =>
      simp only
      cases operations.foldlM applyUserPatch user with
      | error err => exact isolated_refused
      | ok patched =>
        exact quiet_answer _ (fun _ => ⟨rfl, rfl⟩) (updateAdminUser_untouched user.id patched)

theorem listClientUsers_isolated :
    Ends env (Isolated orgID origin world) (listClientUsers orgID origin params) world := by
  refine ensures_then (listClientUsers_own _ _ _) ?_
  rintro result now ⟨rfl, own⟩
  refine isolated_answer 500 .refl fun listed isListed => ?_
  refine ⟨.refl, ?_, fun resource member => by cases member⟩
  intro resource member
  obtain ⟨u, isMember, rfl⟩ := List.mem_map.mp member
  exact (isolated_user 200 .refl (own listed isListed u isMember)).users _ mem_cons_self

theorem createClientUser_isolated :
    Ends env (Isolated orgID origin world) (createClientUser orgID origin body) world := by
  cases body with
  | none => exact isolated_refused
  | some req =>
    refine ensures_then (createClientUser_own rfl) ?_
    rintro result now ⟨untouched, own⟩
    exact isolated_answer 409 untouched fun u isUser =>
      isolated_user 201 untouched (own u isUser)

variable {id : String}

theorem getClientUser_isolated (confined : Confined orgID world (.user id)) :
    Ends env (Isolated orgID origin world) (getClientUser origin id) world := by
  refine ensures_then (getClientUser_own confined.1) ?_
  rintro result now ⟨rfl, own⟩
  exact isolated_answerFound _ _ result .refl fun u isUser =>
    isolated_user 200 .refl (own u isUser).2

theorem updateClientUser_isolated (confined : Confined orgID world (.user id)) :
    Ends env (Isolated orgID origin world) (SCIMHandler.updateClientUser origin id body) world := by
  cases body with
  | none => exact isolated_refused
  | some req =>
    refine ensures_then (updateClientUser_own _ confined.1) ?_
    rintro result now ⟨untouched, own⟩
    exact isolated_answer 404 untouched fun u isUser =>
      isolated_user 200 untouched (own u isUser)

theorem patchClientUser_isolated (body : Option (List PatchOperation))
    (confined : Confined orgID world (.user id)) :
    Ends env (Isolated orgID origin world) (patchClientUser origin id body) world := by
  cases body with
  | none => exact isolated_refused
  | some operations =>
    refine ensures_then (getClientUser_own confined.1) ?_
    rintro result now ⟨rfl, own⟩
    match result with
    | .error err | .ok none => exact isolated_refused
    | .ok (some user) =>
      simp only
      cases operations.foldlM applyUserPatch user with
      | error err => exact isolated_refused
      | ok patched =>
        rw [(own user rfl).1]
        refine ensures_then (updateClientUser_own patched confined.1) ?_
        rintro written later ⟨untouched, ownWritten⟩
        exact isolated_answer 400 untouched fun u isUser =>
          isolated_user 200 untouched (ownWritten u isUser)

theorem membersOfAll_ends (rows : List SCIMGroup) :
    Ends env (fun result now => now = world ∧ ∀ groups, result = .ok groups →
      groups = rows.map fun g => { g with members := membersOf world g.id })
      (SCIMStore.membersOfAll rows) world := by
  induction rows with
  | nil => simp [SCIMStore.membersOfAll]
  | cons g rest ih =>
    refine ensures_then (withMembers_ends g) ?_
    rintro result now ⟨rfl, isGroup⟩
    match result with
    | .error err => simp
    | .ok group =>
      refine ensures_then ih ?_
      rintro others later ⟨rfl, areOthers⟩
      match others with
      | .error err => simp
      | .ok tail => simp [isGroup, areOthers]

theorem listGroups_isolated (confined : Confined orgID world .allGroups) :
    Ends env (Isolated orgID origin world) (listGroups origin params) world := by
  have listed : Ends env (fun result now => now = world ∧ ∀ page, result = .ok page →
      ∀ g ∈ page.1, OwnGroupRecord orgID world g)
      (SCIMStore.listGroups params.parsedFilter params.startIndex params.count) world := by
    apply ends_ask
    · simp
    · intro counted
      apply ends_ask
      · simp
      · intro choice
        refine ensures_then (membersOfAll_ends _) ?_
        rintro result now ⟨rfl, areGroups⟩
        match result with
        | .error err => simp
        | .ok groups =>
          refine ⟨rfl, fun page isPage => ?_⟩
          cases isPage
          intro g member
          rw [areGroups groups rfl] at member
          obtain ⟨row, isRow, rfl⟩ := List.mem_map.mp member
          obtain ⟨entry, stored, rfl⟩ :=
            List.mem_map.mp (mem_of_mem_filter (mem_page isRow))
          have found := lookup_eq_some_iff.mpr stored
          refine ⟨entry.2, found, ?_, rfl⟩
          by_contra isOther
          exact (confined entry.1).1 ⟨entry.2, found, isOther⟩
  refine ensures_then listed ?_
  rintro result now ⟨rfl, own⟩
  refine isolated_answer 500 .refl fun page isPage => ?_
  refine ⟨.refl, fun resource member => (by cases member), ?_⟩
  intro resource member
  obtain ⟨g, isMember, rfl⟩ := List.mem_map.mp member
  exact ownGroup_of_record (own page isPage g isMember) (confined g.id)

theorem getGroup_isolated (confined : Confined orgID world (.group id)) :
    Ends env (Isolated orgID origin world) (getGroup origin id) world := by
  refine ensures_then (getGroup_own confined.1) ?_
  rintro result now ⟨rfl, own⟩
  refine isolated_answerFound _ _ result .refl fun g isGroup => ?_
  grind [isolated_group, Untouched.refl]

theorem members_isolated {now : World} (status : Nat) {groupID : String} {g : SCIMGroup}
    (members : List String) (classified : List String × List String)
    (untouched : Untouched orgID world now) (sameAdmins : now.admins = world.admins)
    (sameUsers : now.clientUsers = world.clientUsers) (sameID : g.id = groupID)
    (own : OwnGroupRecord orgID now g) (confined : Confined orgID now (.group groupID))
    (areOwn : (∀ id ∈ classified.1, ¬ OtherAdmin orgID world id) ∧
      ∀ id ∈ classified.2, ¬ OtherUser orgID world id) :
    Ends env (Isolated orgID origin world)
      (SCIMStore.setGroupMembers groupID classified.1 classified.2 >>= fun result =>
        pure (answer 400
          (fun _ => .group status (groupToSCIM origin { g with members := members })) result))
      now := by
  refine ensures_then (setGroupMembers_own confined
    (by simpa only [OtherAdmin, sameAdmins] using areOwn.1)
    (by simpa [OtherUser, sameUsers] using areOwn.2)) ?_
  rintro result later ⟨replaced, sameGroups⟩
  refine isolated_answer 400 (untouched.trans replaced) fun _ _ => ?_
  refine isolated_group status _ (untouched.trans replaced) ?_ ?_
  · obtain ⟨row, found, isOwn, isRecord⟩ := own
    refine ⟨row, ?_, isOwn, congrArg (fun g : SCIMGroup => { g with members := members }) isRecord⟩
    rwa [sameGroups]
  · rw [sameID]
    exact replaced.confined_group groupID confined

theorem createGroup_isolated (body : Option ScimGroupRequest) (keys : ForeignKeys world) :
    Ends env (Isolated orgID origin world) (createGroup orgID origin body) world := by
  cases body with
  | none => exact isolated_refused
  | some req =>
    refine ensures_then (classifyGroupMemberIDs_own _) ?_
    rintro result now ⟨rfl, areOwn⟩
    match result with
    | .error err => exact isolated_refused
    | .ok classified =>
      have areOwn := areOwn classified rfl
      apply ends_run
      · exact fun err => isolated_refused
      · intro choice created after ran
        obtain ⟨row, groups, isOrg, rfl, inserted, rfl⟩ := insertGroup_ok ran
        have untouched : Untouched orgID now { now with groups := groups } :=
          untouched_groups (inserted.lookup_iff (fun row => row.orgID ≠ orgID) (not_not.mpr isOrg))
        have found : groups.lookup choice.newID = some row := by
          rw [inserted.lookup, if_pos rfl]
        -- nobody was a member of a group that was not there
        have confined : Confined orgID { now with groups := groups } (.group choice.newID) := by
          refine ⟨?_, fun userID => ⟨?_, ?_⟩⟩
          · rintro ⟨other, foundOther, isOther⟩
            grind
          · intro member
            simpa [inserted.fresh] using (keys.adminMembers _ member.1).2
          · intro member
            simpa [inserted.fresh] using (keys.clientMembers _ member.1).2
        refine ensures_check (fun _ => ?_) fun _ => ?_
        · exact isolated_group 201 _ untouched ⟨row, found, isOrg, rfl⟩ confined
        · exact members_isolated 201 _ classified untouched rfl rfl rfl ⟨row, found, isOrg, rfl⟩
            confined areOwn

theorem updateGroup_isolated (body : Option ScimGroupRequest)
    (confined : Confined orgID world (.group id)) :
    Ends env (Isolated orgID origin world) (SCIMHandler.updateGroup origin id body) world := by
  cases body with
  | none => exact isolated_refused
  | some req =>
    refine ensures_then (getGroup_own confined.1) ?_
    rintro result now ⟨rfl, own⟩
    match result with
    | .error err | .ok none => exact isolated_refused
    | .ok (some existing) =>
      obtain ⟨-, isOrg, -⟩ := own existing rfl
      simp only [isOrg]
      refine ensures_then (classifyGroupMemberIDs_own _) ?_
      rintro result later ⟨rfl, areOwn⟩
      match result with
      | .error err => exact isolated_refused
      | .ok classified =>
        refine ensures_then (updateGroup_own _ confined.1) ?_
        rintro written after ⟨untouched, sameAdmins, sameUsers, ownWritten⟩
        match written with
        | .error err => exact isolated_quiet untouched rfl rfl
        | .ok updated =>
          obtain ⟨sameID, isOwn⟩ := ownWritten updated rfl
          have still := untouched.confined_group id confined
          cases listed : req.members with
          | none =>
            refine isolated_group 200 updated untouched isOwn ?_
            rwa [sameID]
          | some members =>
            subst sameID
            exact members_isolated 200 members classified untouched sameAdmins sameUsers rfl isOwn
              still (areOwn classified rfl)

theorem patchGroup_isolated (body : Option (List PatchOperation))
    (confined : Confined orgID world (.group id)) :
    Ends env (Isolated orgID origin world) (patchGroup origin id body) world := by
  cases body with
  | none => exact isolated_refused
  | some operations =>
    refine ensures_then (getGroup_own confined.1) ?_
    rintro result now ⟨rfl, own⟩
    match result with
    | .error err | .ok none => exact isolated_refused
    | .ok (some group) =>
      obtain ⟨rfl, isOrg, -⟩ := own group rfl
      simp only
      cases operations.foldlM applyGroupPatch ⟨group.displayName, group.members⟩ with
      | error err => exact isolated_refused
      | ok draft =>
        simp [isOrg]
        refine ensures_then (classifyGroupMemberIDs_own _) ?_
        rintro result later ⟨rfl, areOwn⟩
        match result with
        | .error err => exact isolated_refused
        | .ok classified =>
          refine ensures_then (updateGroup_own _ confined.1) ?_
          rintro written after ⟨untouched, sameAdmins, sameUsers, ownWritten⟩
          match written with
          | .error err => exact isolated_quiet untouched rfl rfl
          | .ok updated =>
            obtain ⟨sameID, isOwn⟩ := ownWritten updated rfl
            exact members_isolated 200 draft.members classified untouched sameAdmins sameUsers sameID
              isOwn (untouched.confined_group group.id confined) (areOwn classified rfl)

theorem deleteGroup_isolated (confined : Confined orgID world (.group id)) :
    Ends env (Isolated orgID origin world) (SCIMHandler.deleteGroup id) world := by
  refine quiet_answer _ (fun _ => ⟨rfl, rfl⟩) (run_untouched fun choice result after ran => ?_)
  cases ran
  exact untouched_deleteGroup confined

theorem route_isolated {call : Call} (keys : ForeignKeys world)
    (confined : Confined orgID world call.target) :
    Ends env (Isolated orgID origin world) (route orgID origin call) world := by
  cases call with
  | serviceProviderConfig | schemas | resourceTypes =>
    exact isolated_quiet .refl rfl rfl
  | listAdminUsers params => exact listAdminUsers_isolated params
  | createAdminUser body => exact createAdminUser_isolated body
  | getAdminUser id => exact getAdminUser_isolated id
  | updateAdminUser id body => exact updateAdminUser_isolated id body
  | patchAdminUser id body => exact patchAdminUser_isolated id body
  | deleteAdminUser id =>
    exact quiet_answer _ (fun _ => ⟨rfl, rfl⟩) (deleteAdminUser_untouched confined)
  | listClientUsers params => exact listClientUsers_isolated params
  | createClientUser body => exact createClientUser_isolated body
  | getClientUser id => exact getClientUser_isolated confined
  | updateClientUser id body => exact updateClientUser_isolated body confined
  | patchClientUser id body => exact patchClientUser_isolated body confined
  | deleteClientUser id =>
    exact quiet_answer _ (fun _ => ⟨rfl, rfl⟩) (deleteClientUser_untouched confined)
  | listGroups params => exact listGroups_isolated params confined
  | createGroup body => exact createGroup_isolated body keys
  | getGroup id => exact getGroup_isolated confined
  | updateGroup id body => exact updateGroup_isolated body confined
  | patchGroup id body => exact patchGroup_isolated body confined
  | deleteGroup id => exact deleteGroup_isolated confined

end

section
variable {env : Env} {orgID : String} {origin : Origin} {world : World} {α : Type}

theorem ends_answered {Post : α → World → Prop} {q : Query}
    {next : Except String q.Result → Handled α} (ends : Ends env Post (ask q >>= next) world) :
    Ends env Post (next (.ok (q.run env {} world))) world :=
  ends {} trivial

variable {id : String}

theorem confined_adminUser (isolated : ∀ call : Call, call.target = .adminUser id →
      Ends env (Isolated orgID origin world) (route orgID origin call) world) :
    Confined orgID world (.adminUser id) := by
  intro groupID member
  have deleted := isolated (.deleteAdminUser id) rfl {} trivial
  have gone := ((deleted.untouched.adminMembers _).mp member).1
  exact of_decide_eq_true (mem_filter.mp gone).2 rfl

theorem confined_user (isolated : ∀ call : Call, call.target = .user id →
      Ends env (Isolated orgID origin world) (route orgID origin call) world) :
    Confined orgID world (.user id) := by
  constructor
  · rintro ⟨row, found, isOther⟩
    have shown : Isolated orgID origin world (answerFound "User not found"
        (fun u => .user 200 (clientUserToSCIM origin u))
        (.ok ((world.clientUsers.rows.lookup id).map (clientRecord id)))) world :=
      isolated (.getClientUser id) rfl {} trivial
    rw [found] at shown
    obtain ⟨own, foundOwn, isOwn, -⟩ := shown.users _ mem_cons_self
    have same : some row = some own := found.symm.trans foundOwn
    cases same
    exact isOther isOwn
  · intro groupID member
    have deleted := isolated (.deleteClientUser id) rfl {} trivial
    have gone := ((deleted.untouched.clientMembers _).mp member).1
    exact of_decide_eq_true (mem_filter.mp gone).2 rfl

theorem mem_membersOf {userID groupID : String}
    (member : (userID, groupID) ∈ world.adminGroups ∨ (userID, groupID) ∈ world.clientGroups) :
    userID ∈ membersOf world groupID := by
  refine List.mem_map.mpr ⟨(userID, groupID), mem_filter.mpr ⟨?_, decide_eq_true rfl⟩, rfl⟩
  exact mem_append.mpr member

theorem confined_of_shown {row : Group} (found : world.groups.lookup id = some row)
    (own : OwnGroup orgID origin world
      (groupToSCIM origin { groupRecord id row with members := membersOf world id })) :
    Confined orgID world (.group id) := by
  obtain ⟨⟨shown, members, foundShown, isOwn, -⟩, outside⟩ := own
  have same := found.symm.trans foundShown
  cases same
  refine ⟨?_, fun userID => ⟨?_, ?_⟩⟩
  · rintro ⟨other, foundOther, isOther⟩
    grind
  · intro member
    exact (outside userID (mem_membersOf (.inl member.1))).1 member
  · intro member
    exact (outside userID (mem_membersOf (.inr member.1))).2 member

theorem confined_of_absent (keys : ForeignKeys world)
    (absent : world.groups.lookup id = none) : Confined orgID world (.group id) := by
  refine ⟨by simp [OtherGroup, absent], fun userID => ⟨?_, ?_⟩⟩
  · intro member
    simpa [absent] using (keys.adminMembers _ member.1).2
  · intro member
    simpa [absent] using (keys.clientMembers _ member.1).2

theorem confined_group (keys : ForeignKeys world) (id : String)
    (isolated : ∀ call : Call, call.target = .group id →
      Ends env (Isolated orgID origin world) (route orgID origin call) world) :
    Confined orgID world (.group id) := by
  cases found : world.groups.lookup id with
  | none => exact confined_of_absent keys found
  | some row =>
    have read := ends_answered (isolated (.getGroup id) rfl)
    have isAnswer : (Query.getGroup id).run env {} world = some (groupRecord id row) := by
      simp [Query.run, found]
    rw [isAnswer] at read
    have shown : Isolated orgID origin world (.group 200
        (groupToSCIM origin { groupRecord id row with members := membersOf world id })) world :=
      read {} trivial
    exact confined_of_shown found (shown.groups _ mem_cons_self)

theorem page_of_group (env : Env) {row : Group} (found : world.groups.lookup id = some row) :
    ∃ k : Nat, (Query.pageGroups "" 1 k).run env {} world = [groupRecord id row] := by
  have listed : groupRecord id row ∈ sortBy (MapOrder.asStored : MapOrder SCIMGroup)
      (fun row => -((SCIMGroup.createdAt row).getD 0)) (matchingGroups env world "") := by
    refine (sortBy_perm ..).mem_iff.mpr (mem_filter.mpr ⟨?_, rfl⟩)
    exact List.mem_map.mpr ⟨⟨id, row⟩, lookup_eq_some_iff.mp found, rfl⟩
  obtain ⟨k, bound, isEntry⟩ := mem_iff_getElem.mp listed
  refine ⟨k, ?_⟩
  change ((sortBy ..).drop k).take 1 = _
  rw [drop_eq_getElem_cons bound, isEntry]
  rfl

theorem confined_allGroups (keys : ForeignKeys world)
    (isolated : ∀ call : Call, call.target = .allGroups →
      Ends env (Isolated orgID origin world) (route orgID origin call) world) :
    Confined orgID world .allGroups := by
  intro id
  cases found : world.groups.lookup id with
  | none => exact confined_of_absent keys found
  | some row =>
    obtain ⟨k, isPage⟩ := page_of_group env found
    let params : ListParams := { startIndex := k + 1, count := 1 }
    have offset : SCIMStore.pageOffset params.startIndex = k := by
      change SCIMStore.pageOffset ((k : Int) + 1) = k
      unfold SCIMStore.pageOffset
      split_ifs <;> omega
    have answered : (Query.pageGroups params.parsedFilter (SCIMStore.pageLimit params.count)
        (SCIMStore.pageOffset params.startIndex)).run env {} world = [groupRecord id row] := by
      rwa [offset]
    have paged := ends_answered (ends_answered (isolated (.listGroups params) rfl))
    rw [answered] at paged
    have shown : Isolated orgID origin world (.groups ⟨_, _, _,
        [groupToSCIM origin { groupRecord id row with members := membersOf world id }]⟩) world :=
      paged {} trivial
    exact confined_of_shown found (shown.groups _ mem_cons_self)

end

def tokenOrganization (env : Env) (world : World) (authorization : String) : Option String :=
  if hasPrefix authorization bearerPrefix then
    (Query.validateSCIMToken (env.hashSCIMToken (trimPrefix authorization bearerPrefix))).run env {}
      world
  else none

section
variable {env : Env} {orgID authorization : String} {origin : Origin} {world : World}

theorem scim_ends_iff (call : Call)
    (authorized : tokenOrganization env world authorization = some orgID) :
    Ends env (Isolated orgID origin world) (scim env ⟨authorization, origin, call⟩) world ↔
      Ends env (Isolated orgID origin world) (route orgID origin call) world := by
  unfold tokenOrganization at authorized
  split_ifs at authorized with bearer
  rw [scim, if_neg (not_not.mpr bearer)]
  constructor
  · intro ends
    have answered := ends_answered ends
    rw [authorized] at answered
    exact answered
  · intro ends
    apply ends_ask
    · exact fun err => isolated_refused
    · intro choice
      have sameAnswer : (Query.validateSCIMToken (env.hashSCIMToken
          (trimPrefix authorization bearerPrefix))).run env choice world = some orgID := authorized
      rwa [sameAnswer]

end

/-- With a token of an organization, the requests for a target are isolated exactly when the
target is confined to that organization. -/
theorem scim_isolated_iff_confined (env : Env) (db : Database) (orgID authorization : String)
    (origin : Origin) (target : Target)
    (authorized : tokenOrganization env db.world authorization = some orgID) :
    (∀ call : Call, call.target = target →
      Ends env (Isolated orgID origin db.world) (scim env ⟨authorization, origin, call⟩) db.world) ↔
      Confined orgID db.world target := by
  constructor
  · intro isolated
    have routed := fun call named => (scim_ends_iff call authorized).mp (isolated call named)
    cases target with
    | nothing => trivial
    | adminUser id => exact confined_adminUser routed
    | user id => exact confined_user routed
    | group id => exact confined_group db.keys id routed
    | allGroups => exact confined_allGroups db.keys routed
  · intro confined call named
    subst named
    exact (scim_ends_iff call authorized).mpr (route_isolated db.keys confined)

def demoUser (orgID email name : String) : Account Profile where
  orgID := orgID
  email := email
  name := name
  status := "active"
  oauthProvider := none
  oauthSubject := none
  lastLoginAt := none
  details := { createdAt := 0, updatedAt := 0 }

/-- Two organizations with a client user each; the first one has a SCIM token. -/
def demoDatabase : Database where
  world :=
    { organizations := ["org-a", "org-b"]
      providers := (∅ : Table String Provider).insert "okta" ⟨"org-a", some "token-a", true⟩
      admins := .empty
      clientUsers := .ofRows [("alice", demoUser "org-a" "alice@a.example" "Alice"),
        ("bob", demoUser "org-b" "bob@b.example" "Bob")]
      groups := ∅
      adminGroups := []
      clientGroups := []
      connectorGroups := ∅
      connectorUsers := ∅ }
  keys :=
    { adminMembers := fun pair member => by cases member
      clientMembers := fun pair member => by cases member }

theorem own_user_confined :
    tokenOrganization demoEnv demoDatabase.world "Bearer token-a" = some "org-a" ∧
      ∀ call : Call, call.target = .user "alice" →
        Ends demoEnv (Isolated "org-a" ⟨true, "scim.example"⟩ demoDatabase.world)
          (scim demoEnv ⟨"Bearer token-a", ⟨true, "scim.example"⟩, call⟩) demoDatabase.world := by
  have authorized : tokenOrganization demoEnv demoDatabase.world "Bearer token-a" = some "org-a" := by
    decide +kernel
  refine ⟨authorized, (scim_isolated_iff_confined demoEnv demoDatabase "org-a" "Bearer token-a" _
    (.user "alice") authorized).mpr ⟨?_, fun groupID member => by cases member.1⟩⟩
  rintro ⟨row, found, isOther⟩
  have own : ((demoDatabase.world.clientUsers.rows.lookup "alice").map fun row => row.orgID) =
      some "org-a" := by
    decide +kernel
  rw [found] at own
  exact isOther (some.inj own)

/-- The first organization replaces the client user of the second one. -/
def demoReplacement : Reply × World :=
  (scim demoEnv ⟨"Bearer token-a", ⟨true, "scim.example"⟩,
    .updateClientUser "bob" (some { userName := "mallory@a.example" })⟩).eval (exec demoEnv)
    (fun _ => {}) demoDatabase.world

theorem other_user_replaced :
    tokenOrganization demoEnv demoDatabase.world "Bearer token-a" = some "org-a" ∧
      ((demoDatabase.world.clientUsers.rows.lookup "bob").map fun row => (row.orgID, row.email)) =
        some ("org-b", "bob@b.example") ∧
      ((demoReplacement.2.clientUsers.rows.lookup "bob").map fun row => (row.orgID, row.email)) =
        some ("org-b", "mallory@a.example") ∧
      (demoReplacement.1.shownUsers.map fun resource => resource.id) = ["bob"] ∧
      ¬ Isolated "org-a" ⟨true, "scim.example"⟩ demoDatabase.world demoReplacement.1
        demoReplacement.2 := by
  have before : ((demoDatabase.world.clientUsers.rows.lookup "bob").map fun row =>
      (row.orgID, row.email)) = some ("org-b", "bob@b.example") := by
    decide +kernel
  have after : ((demoReplacement.2.clientUsers.rows.lookup "bob").map fun row =>
      (row.orgID, row.email)) = some ("org-b", "mallory@a.example") := by
    decide +kernel
  refine ⟨by decide +kernel, before, after, by decide +kernel, ?_⟩
  intro isolated
  obtain ⟨row, found, isRow⟩ := map_eq_some_iff.mp before
  obtain ⟨isOrg, isEmail⟩ := Prod.mk.inj isRow
  have other : row.orgID ≠ "org-a" := by
    rw [isOrg]
    decide
  rw [(isolated.untouched.users "bob" row other).mp found, map_some, isRow] at after
  exact absurd after (by decide)

end ManagementPlane.Directory
