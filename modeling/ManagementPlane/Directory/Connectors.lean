import ManagementPlane.Directory.Passes

/-!
# Two connectors of one organization

A pass of one connector finds the users to suspend by organization and provider alone, and it
prunes and refills every directory group of the organization. So a user that another connector
has provisioned is left alone exactly when the user is not active and is in no such group.
-/

open Option
open List hiding lookup_eq_some_iff

namespace ManagementPlane.Sso.Accounts

open Tables

variable {Details : Type} (accounts : Accounts Details)

theorem amend_same (id : String) (f : Account Details → Account Details)
    (same : ∀ row, (f row).email = row.email ∧ (f row).oauthProvider = row.oauthProvider ∧
      (f row).oauthSubject = row.oauthSubject) :
    ∃ written, accounts.amend id f = .ok written := by
  unfold amend
  cases found : accounts.rows.lookup id with
  | none => exact ⟨_, rfl⟩
  | some row =>
    obtain ⟨sameEmail, sameProvider, sameSubject⟩ := same row
    have addressFree : ¬ accounts.addressTaken id (f row).email = true := by
      intro taken
      obtain ⟨entry, stored, matched⟩ := List.any_eq_true.mp taken
      simp at matched
      exact matched.1 (accounts.emails entry.1 id entry.2 row (lookup_eq_some_iff.mpr stored)
        found (matched.2.trans sameEmail))
    have linkFree : ¬ accounts.linkTaken id (f row) = true := by
      intro taken
      obtain ⟨entry, stored, matched⟩ := List.any_eq_true.mp taken
      simp [sameProvider, sameSubject] at matched
      obtain ⟨⟨⟨⟨another, hasProvider⟩, hasSubject⟩, isProvider⟩, isSubject⟩ := matched
      obtain ⟨provider, ofProvider⟩ := isSome_iff_exists.mp hasProvider
      obtain ⟨subject, ofSubject⟩ := isSome_iff_exists.mp hasSubject
      refine another (accounts.links entry.1 id entry.2 row provider subject
        (lookup_eq_some_iff.mpr stored) found ?_ ?_)
      · simp [Account.linkedTo, ofProvider, ofSubject]
      · simp [Account.linkedTo, ← isProvider, ← isSubject, ofProvider, ofSubject]
    have free := not_or.mpr ⟨addressFree, linkFree⟩
    simp only [put, dif_neg free]
    exact ⟨_, rfl⟩

end ManagementPlane.Sso.Accounts

namespace ManagementPlane.Directory

open Interleave Tables ProvisioningStore
open Sso (Account Accounts)

/-- A client user that another connector has provisioned under a SID that the snapshot of this
one does not have. -/
structure Foreign (connectorID : String) (world : World) (id sid : String) (row : Account Profile) :
    Prop where
  found : world.clientUsers.rows.lookup id = some row
  provisioned : ∃ other ≠ connectorID, row.details.idpID = some other
  external : row.details.scimExternalID = some sid
  missing : ∀ u ∈ snapshotOf world connectorID, u.sid ≠ sid

/-- Status, profile and memberships are as before. -/
structure SameUser (id : String) (world now : World) : Prop where
  row : now.clientUsers.rows.lookup id = world.clientUsers.rows.lookup id
  memberships : ∀ g, (id, g) ∈ now.clientGroups ↔ (id, g) ∈ world.clientGroups

/-- The user is not active as a directory user of the organization and is in no group that a pass
prunes or refills. -/
structure OutOfReach (world : World) (orgID id : String) (row : Account Profile) : Prop where
  inactive : ¬ (fromDirectory orgID row = true ∧ row.status = "active")
  groups : ∀ g group, (id, g) ∈ world.clientGroups → world.groups.lookup g = some group →
    rewrites world orgID group = false

section
variable {env : Env} {world : World} {connectorID orgID domain id sid : String}
variable {row : Account Profile}

theorem Foreign.present (foreign : Foreign connectorID world id sid row) :
    ∀ other, other = id → (world.clientUsers.rows.lookup other).isSome := by
  intro other same
  rw [same, foreign.found]
  rfl

theorem Foreign.unmatched (foreign : Foreign connectorID world id sid row) (u : SnapUser)
    (member : u ∈ snapshotOf world connectorID) :
    Unmatched (fun other => other = id) world orgID u.sid := by
  intro other otherRow same isRow matched
  rw [same, foreign.found] at isRow
  cases isRow
  rw [foreign.external] at matched
  exact foreign.missing u member (some.inj matched.2).symm

theorem same_of_outOfReach (keys : ForeignKeys world)
    (foreign : Foreign connectorID world id sid row) (out : OutOfReach world orgID id row) :
    Ends env (fun _ now => SameUser id world now)
      (reconcile connectorID orgID domain) world := by
  have inactive : Inactive (fun other => other = id) world orgID := by
    intro other otherRow same isRow
    rw [same, foreign.found] at isRow
    cases isRow
    exact out.inactive
  refine ensures_mono ?_ (reconcile_kept domain foreign.present
    (fun u member _ => foreign.unmatched u member) inactive)
  intro _ now kept
  refine ⟨kept.1 id rfl, fun g => kept.2 (id, g) rfl ?_⟩
  intro member
  obtain ⟨group, found⟩ := isSome_iff_exists.mp (keys.clientMembers _ member).2
  exact ⟨group, found, out.groups g group member found⟩

end

/-- No operation fails by itself, and rows of pairs arrive in the given order. -/
def Calm (order : MapOrder (String × String)) (choice : Choice) : Prop :=
  choice.failure = none ∧ choice.pairs = order

theorem calm_possible (order : MapOrder (String × String)) : ∃ choice, Calm order choice :=
  ⟨{ pairs := order }, rfl, rfl⟩

section
variable {α : Type} {env : Env} {order : MapOrder (String × String)} {world : World}
variable {Post : α → World → Prop}

theorem calm_of_ends {p : Handled α} (ends : Ends env Post p world) :
    Ensures (exec env) (Calm order) Post p world :=
  ensures_fewer (fun _ _ => trivial) ends

theorem calm_ask (q : Query) (next : Except String q.Result → Handled α)
    (answered : ∀ choice, Calm order choice →
      Ensures (exec env) (Calm order) Post (next (.ok (q.run env choice world))) world) :
    Ensures (exec env) (Calm order) Post (ask q >>= next) world := by
  intro choice calm
  change Ensures (exec env) (Calm order) Post (next (attempt choice (.ok (q.run env choice world))))
    world
  rw [attempt, calm.1]
  exact answered choice calm

theorem calm_run (s : Statement) (next : Except String s.Result → Handled α)
    (failed : ∀ (choice : Choice) err, s.run choice.now choice.newID world = .error err →
      Ensures (exec env) (Calm order) Post (next (.error err)) world)
    (ran : ∀ (choice : Choice) result after, s.run choice.now choice.newID world = .ok (result, after) →
      Ensures (exec env) (Calm order) Post (next (.ok result)) after) :
    Ensures (exec env) (Calm order) Post (run s >>= next) world := by
  intro choice calm
  simp [exec, attempt, calm.1]
  cases did : s.run choice.now choice.newID world with
  | error err => exact failed choice err did
  | ok written => exact ran choice written.1 written.2 did

theorem bridgeAll_completes (orgID : String) (groups : List (String × String)) :
    ∀ (res : BridgeResult) (world : World), Ensures (exec env) (Calm order)
      (fun result _ => ∃ bridged, result = .ok bridged) (DirectoryStore.bridgeAll orgID res groups)
      world := by
  induction groups with
  | nil => exact fun res world => ⟨res, rfl⟩
  | cons g rest ih =>
    intro res world
    have one : Ensures (exec env) (Calm order) (fun result _ => ∃ bridged, result = .ok bridged)
        (DirectoryStore.bridgeGroup orgID res g) world := by
      apply calm_ask
      intro choice _
      cases (Query.bridgedGroup orgID g.1).run env choice world with
      | none =>
        apply calm_run
        · exact fun choice err _ => ⟨_, rfl⟩
        · exact fun choice result after _ => ⟨_, rfl⟩
      | some existingID => exact ensures_skip fun _ _ => ⟨_, rfl⟩
    refine ensures_then one ?_
    rintro result now ⟨bridged, rfl⟩
    exact ih bridged now

theorem bridgeAll_stays (orgID g : String) (group : Group) (res : BridgeResult)
    (groups : List (String × String)) (found : world.groups.lookup g = some group) :
    Ends env (fun _ now => GroupStays world now g group)
      (DirectoryStore.bridgeAll orgID res groups) world :=
  ensures_of_calls (fun choice _ _ isLink stays => stays_linked choice stays isLink) _ world
    (bridgeAll_calls orgID groups res) ⟨rfl, ⟨group, found, rfl⟩, fun _ => Iff.rfl⟩

theorem bridgeGroups_completes (connectorID orgID : String) :
    Ensures (exec env) (Calm order) (fun result _ => ∃ bridged, result = .ok bridged)
      (DirectoryStore.bridgeGroups connectorID orgID) world := by
  apply calm_ask
  intro choice _
  refine ensures_then (bridgeAll_completes orgID _ {} world) ?_
  rintro result now ⟨bridged, rfl⟩
  apply calm_run
  · exact fun choice err _ => ⟨_, rfl⟩
  · exact fun choice result after _ => ⟨_, rfl⟩

theorem bridgeGroups_prunes (connectorID : String) {orgID g : String} {group : Group}
    (found : world.groups.lookup g = some group) (pruned : prunes world orgID group = true) :
    Ensures (exec env) (Calm order) (fun _ now => now.groups.lookup g = none)
      (DirectoryStore.bridgeGroups connectorID orgID) world := by
  apply calm_ask
  intro choice _
  refine ensures_then (ensures_and (bridgeAll_completes orgID _ {} world)
    (calm_of_ends (bridgeAll_stays orgID g group {} _ found))) ?_
  rintro result now ⟨⟨bridged, rfl⟩, stays⟩
  obtain ⟨rowNow, isNow, origin⟩ := stays.group
  apply calm_run
  · intro choice err ran
    cases ran
  · intro choice result after ran
    cases ran
    change (dropGroups now fun _ other => prunes now orgID other).groups.lookup g = none
    rw [lookup_dropGroups, isNow, bind_some, prunes_congr stays.connectors origin, pruned]
    rfl

theorem suspendAll_completes (rows : List (String × String)) :
    ∀ world : World, Ensures (exec env) (Calm order) (fun result _ => result = .ok ())
      (suspendAll rows) world := by
  induction rows with
  | nil => exact fun world => rfl
  | cons r rest ih =>
    intro world
    apply calm_run
    · intro choice err ran
      obtain ⟨written, did⟩ := world.clientUsers.amend_same r.1
        (connectorStatus choice.now "suspended" offboardedReason) fun row => ⟨rfl, rfl, rfl⟩
      simp only [Statement.run, amendClientUser, did, bind, Except.bind, pure, Except.pure,
        Except.map] at ran
      cases ran
    · intro choice result after _
      exact ensures_skip fun _ now => ih now

theorem offboardMissing_completes (orgID : String) (inOrg : List String) (world : World) :
    Ensures (exec env) (Calm order) (fun result _ => ∃ count, result = .ok count)
      (offboardMissing orgID inOrg) world := by
  apply calm_ask
  intro choice _
  refine ensures_then (suspendAll_completes _ world) fun result now completes => ?_
  subst completes
  exact ⟨_, rfl⟩

end

/-! ## Users that a pass reaches -/

section
variable {env : Env} {order : MapOrder (String × String)} {world : World}
variable {connectorID orgID domain id sid : String} {row : Account Profile}

/-- What is known when a calm pass comes to the memberships: the groups are those that bridging
has left, the client users gathered are others, and an active directory user is suspended. -/
structure Offboarded (orgID id : String) (row : Account Profile) (bridged now : World)
    (gathered : Onboarding) : Prop where
  groups : now.groups = bridged.groups
  others : GatheredOthers (fun other => other = id) now gathered
  suspended : ∃ rowNow, now.clientUsers.rows.lookup id = some rowNow ∧
    (fromDirectory orgID row = true → row.status = "active" → rowNow.status = "suspended")

section
variable (foreign : Foreign connectorID world id sid row)

include foreign

theorem offboarded_of_foreign {bridged : World}
    (bridges : Bridged orgID world bridged) (enabled : EnabledGroups) {users : List SnapUser}
    (snapshot : ∀ u ∈ users, u ∈ snapshotOf world connectorID) :
    Ensures (exec env) (Calm order) (fun gathered onboarded => Ensures (exec env) (Calm order)
        (fun result now => (∃ count, result = .ok count) ∧ Offboarded orgID id row bridged now gathered)
        (offboardMissing orgID gathered.inOrg) onboarded)
      (onboard orgID connectorID domain enabled users {}) bridged := by
  have kept : KeptRows (fun other => other = id) world bridged := by
    intro other _
    rw [bridges.users]
  refine calm_of_ends (ensures_mono ?_ (ensures_and (ensures_and
    (onboard_kept orgID connectorID domain enabled foreign.present users
      (fun u member _ => foreign.unmatched u (snapshot u member)) {} bridged kept
      fun other cid listed => by simp at listed)
    (onboard_inOrg orgID connectorID domain enabled users {} bridged))
    (onboard_groups orgID connectorID domain enabled users {} bridged)))
  rintro gathered onboarded ⟨⟨⟨keptNow, others⟩, inOrg⟩, -, sameGroups⟩
  have found : onboarded.clientUsers.rows.lookup id = some row := by
    rw [keptNow id rfl, foreign.found]
  have outside : row.details.scimExternalID.getD "" ∉ gathered.inOrg := by
    rw [foreign.external, getD_some, inOrg]
    intro listed
    rcases listed with already | ⟨u, member, -, same⟩
    · cases already
    · exact foreign.missing u (snapshot u member) same
  refine ensures_mono ?_ (ensures_and (offboardMissing_completes orgID gathered.inOrg onboarded)
    (calm_of_ends (ensures_and (offboardMissing_offboards orgID gathered.inOrg onboarded)
      (offboardMissing_groups orgID gathered.inOrg onboarded))))
  rintro result now ⟨⟨count, completes⟩, stays, sameAgain⟩
  refine ⟨⟨count, completes⟩, sameAgain.trans sameGroups, ?_, ?_⟩
  · intro other cid listed
    obtain ⟨another, isThere⟩ := others other cid listed
    obtain ⟨cidRow, isRow⟩ := isSome_iff_exists.mp isThere
    obtain ⟨rowAfter, isAfter, -⟩ := stays cid cidRow isRow
    exact ⟨another, isSome_iff_exists.mpr ⟨rowAfter, isAfter⟩⟩
  · obtain ⟨rowAfter, isAfter, -, hit⟩ := stays id row found
    exact ⟨rowAfter, isAfter, fun isOwn isActive => hit count completes isOwn isActive outside⟩

theorem reconcile_stages {Inv Post : World → Prop}
    (bridges : Ensures (exec env) (Calm order) (fun _ now => Inv now)
      (DirectoryStore.bridgeGroups connectorID orgID) world)
    (finish : ∀ bridged now gathered users, Inv bridged →
      Offboarded orgID id row bridged now gathered →
      Ensures (exec env) (Calm order) (fun _ now => Post now)
        (setMemberships users gathered.clientIDs
          (enabledGroups (order.visit (importedGroups bridged orgID))).entries) now) :
    Ensures (exec env) (Calm order) (fun _ now => Post now)
      (reconcile connectorID orgID domain) world := by
  refine ensures_then (ensures_and (bridgeGroups_completes connectorID orgID)
    (ensures_and bridges (calm_of_ends (bridgeGroups_bridged env connectorID orgID world)))) ?_
  rintro result bridged ⟨⟨counts, rfl⟩, inv, isBridged⟩
  apply calm_ask
  intro groupsChoice calmGroups
  have isRows : (Query.importedGroups orgID).run env groupsChoice bridged =
      order.visit (importedGroups bridged orgID) := by
    rw [← calmGroups.2]
    rfl
  rw [isRows]
  apply calm_ask
  intro snapshotChoice _
  have snapshot : ∀ u ∈ (Query.loadSnapshot connectorID).run env snapshotChoice bridged,
      u ∈ snapshotOf world connectorID := by
    intro u member
    have listed := (snapshotChoice.snapshot.perm _).subset member
    unfold snapshotOf at listed ⊢
    rw [isBridged.connectorUsers] at listed
    exact listed
  refine ensures_then (offboarded_of_foreign foreign isBridged _ snapshot) ?_
  intro gathered onboarded offboards
  refine ensures_then offboards ?_
  rintro result now ⟨⟨count, rfl⟩, offboarded⟩
  exact ensures_then (finish bridged now gathered _ inv offboarded) fun _ _ done => done

theorem reconcile_suspends
    (isOwn : fromDirectory orgID row = true) (isActive : row.status = "active") :
    Ensures (exec env) (Calm order) (fun _ now => ∃ rowNow,
        now.clientUsers.rows.lookup id = some rowNow ∧ rowNow.status = "suspended")
      (reconcile connectorID orgID domain) world := by
  refine reconcile_stages foreign (calm_of_ends (ensures_mono (fun _ _ _ => trivial)
    (bridgeGroups_bridged env connectorID orgID world))) ?_
  intro bridged now gathered users _ offboarded
  obtain ⟨rowNow, isNow, suspended⟩ := offboarded.suspended
  refine calm_of_ends (ensures_mono ?_ (setMemberships_users users gathered.clientIDs _ now))
  intro _ later same
  rw [same]
  exact ⟨rowNow, isNow, suspended isOwn isActive⟩

theorem reconcile_prunes {g : String} {group : Group} (found : world.groups.lookup g = some group)
    (pruned : prunes world orgID group = true) :
    Ensures (exec env) (Calm order) (fun _ now => now.groups.lookup g = none)
      (reconcile connectorID orgID domain) world := by
  refine reconcile_stages foreign (bridgeGroups_prunes connectorID found pruned) ?_
  intro bridged now gathered users gone offboarded
  refine calm_of_ends (ensures_mono ?_ (setMemberships_groups users gathered.clientIDs _ now))
  intro _ later same
  rwa [same, offboarded.groups]

end

def putLast (pair : String × String) : MapOrder (String × String) where
  visit list := if list.contains pair then list.erase pair ++ [pair] else list
  perm := by
    intro list
    split_ifs with member
    · exact perm_append_comm.trans (perm_cons_erase (contains_iff_mem.mp member)).symm
    · exact List.Perm.refl _

theorem entries_putLast (gsid g : String) (rows : List (String × String)) (member : (gsid, g) ∈ rows) :
    ∃ rest, (enabledGroups ((putLast (gsid, g)).visit rows)).entries = ⟨gsid, g⟩ :: rest := by
  refine ⟨List.kerase gsid (enabledGroups (rows.erase (gsid, g))).entries, ?_⟩
  simp only [putLast, if_pos (contains_iff_mem.mpr member), enabledGroups, foldl_append, foldl_cons,
    foldl_nil]
  rfl

theorem reconcile_empties (foreign : Foreign connectorID world id sid row) {g gsid : String}
    {group : Group} (found : world.groups.lookup g = some group)
    (kept : prunes world orgID group = false) (imported : group.origin = (orgID, "ldap", some gsid, true)) :
    Ensures (exec env) (Calm (putLast (gsid, g))) (fun _ now => (id, g) ∉ now.clientGroups)
      (reconcile connectorID orgID domain) world := by
  refine reconcile_stages foreign (calm_of_ends (bridgeGroups_stays connectorID found kept)) ?_
  intro bridged now gathered users stays offboarded
  obtain ⟨rowNow, isNow, origin⟩ := stays.group
  have listed : (gsid, g) ∈ importedGroups bridged orgID := by
    rw [imported] at origin
    simp [Group.origin] at origin
    exact (mem_importedGroups bridged orgID gsid g).mpr
      ⟨rowNow, isNow, origin.1, origin.2.1, origin.2.2.2, origin.2.2.1⟩
  obtain ⟨rest, isFirst⟩ := entries_putLast gsid g _ listed
  rw [isFirst]
  have others := fun other member =>
    memberIDs_others users gathered gsid offboarded.others other member
  apply calm_run
  · intro choice err failed
    have succeeds : ¬ (∃ other ∈ memberIDs users gathered.clientIDs gsid,
        (now.clientUsers.rows.lookup other).isNone = true) := by
      rintro ⟨other, member, isNone⟩
      have isThere := (others other member).2
      rw [← not_isNone, isNone] at isThere
      cases isThere
    have isThere : now.groups.lookup g = some rowNow := by
      rwa [offboarded.groups]
    simp only [Statement.run, replaceMembers, isThere, isNone_some, Bool.false_eq_true,
      and_false, if_false, List.any_eq_true] at failed
    rw [if_neg succeeds] at failed
    cases failed
  · intro choice result after ran
    obtain ⟨done, replace, ⟨⟩⟩ := map_ok ran
    obtain ⟨-, -, rfl⟩ := replaceMembers_ok replace
    have gone : (id, g) ∉ addMembers g (memberIDs users gathered.clientIDs gsid)
        (now.clientGroups.filter fun old => old.2 ≠ g) := by
      rw [mem_addMembers]
      intro either
      rcases either with old | ⟨member, -⟩
      · exact of_decide_eq_true (mem_filter.mp old).2 rfl
      · exact (others id member).1 rfl
    refine calm_of_ends (ensures_mono ?_ (setMemberships_kept users gathered rest (id, g) _
      offboarded.others rfl fun member => absurd member gone))
    intro _ later same
    rwa [same]

theorem foreignKeys_ends (keys : ForeignKeys world) {α : Type} (p : Handled α) :
    Ends env (fun _ now => ForeignKeys now) p world := by
  induction p generalizing world with
  | done a => exact keys
  | call op next ih => exact fun choice _ => ih _ (foreignKeys_exec env choice op keys)

end

/-- A pass leaves a user of another connector alone, however its operations turn out, exactly when
the user is out of its reach. -/
theorem other_connector_kept_iff (env : Env) (db : Database) (connectorID orgID domain id sid : String)
    (row : Account Profile) (foreign : Foreign connectorID db.world id sid row) :
    Ends env (fun _ now => SameUser id db.world now)
      (ProvisioningStore.reconcile connectorID orgID domain) db.world ↔
      OutOfReach db.world orgID id row := by
  constructor
  · intro same
    constructor
    · intro reached
      obtain ⟨_, now, isSame, rowNow, isNow, suspended⟩ := ensures_both (calm_possible .asStored)
        (calm_of_ends same) (reconcile_suspends foreign reached.1 reached.2)
      rw [isSame.row, foreign.found] at isNow
      cases isNow
      rw [reached.2] at suspended
      exact absurd suspended (by decide)
    · intro g group member found
      rw [rewrites, Bool.or_eq_false_iff]
      have kept : prunes db.world orgID group = false := by
        rw [← Bool.not_eq_true]
        intro pruned
        obtain ⟨_, now, ⟨isSame, keys⟩, gone⟩ := ensures_both (calm_possible .asStored)
          (calm_of_ends (ensures_and same (foreignKeys_ends db.keys _)))
          (reconcile_prunes foreign found pruned)
        have isThere := (keys.clientMembers _ ((isSame.memberships g).mpr member)).2
        rw [gone] at isThere
        cases isThere
      refine ⟨kept, ?_⟩
      rw [← Bool.not_eq_true]
      intro imported
      simp at imported
      obtain ⟨⟨⟨isOrg, isSource⟩, enabled⟩, hasSID⟩ := imported
      obtain ⟨gsid, external⟩ := isSome_iff_exists.mp hasSID
      have origin : group.origin = (orgID, "ldap", some gsid, true) := by
        simp [Group.origin, isOrg, isSource, enabled, external]
      obtain ⟨_, now, isSame, gone⟩ := ensures_both (calm_possible (putLast (gsid, g)))
        (calm_of_ends same) (reconcile_empties foreign found kept origin)
      exact gone ((isSame.memberships g).mpr member)
  · exact same_of_outOfReach db.keys foreign

def westernUser (email name sid status : String) : Account Profile where
  orgID := "org"
  email := email
  name := name
  status := status
  oauthProvider := some provisionSource
  oauthSubject := some sid
  lastLoginAt := none
  details :=
    { scimExternalID := some sid
      idpID := some "ad-west"
      statusSource := some "connector"
      createdAt := 0
      updatedAt := 0 }

def importedGroup (name sid : String) : Group where
  orgID := "org"
  displayName := name
  externalID := some sid
  source := "ldap"
  importEnabled := true
  createdAt := 0
  updatedAt := 0

/-- Dora is an active member of the western sales group; Emil has left it. -/
def connectorsDatabase : Database where
  world :=
    { organizations := ["org"]
      providers := ∅
      admins := .empty
      clientUsers := .ofRows [("dora", westernUser "dora@org.example" "Dora" "W-1" "active"),
        ("emil", westernUser "emil@org.example" "Emil" "W-2" "suspended")]
      groups := ((∅ : Table String Group).insert "sales" (importedGroup "Sales" "G-W")).insert "staff"
        (importedGroup "Staff" "G-E")
      adminGroups := []
      clientGroups := [("dora", "sales")]
      connectorGroups := ((∅ : Table (String × String) ConnectorGroup).insert ("ad-west", "G-W")
        ⟨some "Sales", none, true⟩).insert ("ad-east", "G-E") ⟨some "Staff", none, true⟩
      connectorUsers := ((∅ : Table (String × String) ConnectorUser).insert ("ad-west", "W-1")
        { email := some "dora@org.example", enabled := some true,
          groupSIDs := some (.arr [.str "G-W"]) }).insert ("ad-east", "E-1")
        { email := some "finn@org.example", enabled := some true,
          groupSIDs := some (.arr [.str "G-E"]) } }
  keys :=
    { adminMembers := fun pair member => by cases member
      clientMembers := by
        intro pair member
        rw [mem_singleton.mp member]
        decide +kernel }

theorem emil_kept :
    Foreign "ad-east" connectorsDatabase.world "emil" "W-2"
        (westernUser "emil@org.example" "Emil" "W-2" "suspended") ∧
      Ends demoEnv (fun _ now => SameUser "emil" connectorsDatabase.world now)
        (ProvisioningStore.reconcile "ad-east" "org" "org.example") connectorsDatabase.world := by
  have foreign : Foreign "ad-east" connectorsDatabase.world "emil" "W-2"
      (westernUser "emil@org.example" "Emil" "W-2" "suspended") := by
    refine ⟨rfl, ⟨"ad-west", by decide, rfl⟩, rfl, ?_⟩
    decide +kernel
  refine ⟨foreign, (other_connector_kept_iff demoEnv connectorsDatabase "ad-east" "org"
    "org.example" "emil" "W-2" _ foreign).mpr ⟨by decide, ?_⟩⟩
  intro g group member
  simp [connectorsDatabase] at member

def easternPass : World :=
  ((ProvisioningStore.reconcile "ad-east" "org" "org.example").eval (exec demoEnv)
    (fun _ => { newID := "finn" }) connectorsDatabase.world).2

theorem dora_suspended :
    Foreign "ad-east" connectorsDatabase.world "dora" "W-1"
        (westernUser "dora@org.example" "Dora" "W-1" "active") ∧
      ((easternPass.clientUsers.rows.lookup "dora").map fun row => row.status) = some "suspended" ∧
      ("dora", "sales") ∉ easternPass.clientGroups ∧
      ¬ SameUser "dora" connectorsDatabase.world easternPass := by
  have gone : ("dora", "sales") ∉ easternPass.clientGroups := by decide +kernel
  refine ⟨⟨rfl, ⟨"ad-west", by decide, rfl⟩, rfl, by decide +kernel⟩, by decide +kernel, gone, ?_⟩
  intro same
  exact gone ((same.memberships "sales").mpr (by decide +kernel))

end ManagementPlane.Directory
