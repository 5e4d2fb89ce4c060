import ManagementPlane.Directory.Passes

/-!
# Leavers

A pass that completes leaves no active directory user outside the organization's part of the
snapshot. It knows the directory users by their provider, and a login that finds an account by
its e-mail address writes another provider into the row. Over runs of passes and logins, the
users that a connector has ever provisioned are suspended once they have left, as long as no
login finds a directory user by e-mail.
-/

namespace ManagementPlane.Directory

open Interleave Runs Tables Option ProvisioningStore
open List hiding lookup_eq_some_iff
open Sso (Account Accounts)

/-- The SID is one of a snapshot user that belongs into the organization. -/
def InOrganization (world : World) (connectorID orgID sid : String) : Prop :=
  ∃ u ∈ snapshotOf world connectorID, u.sid = sid ∧ Joins world orgID u

/-- Every active directory user of the organization is in its part of the snapshot. -/
def OnlyMembersActive (connectorID orgID : String) (world : World) : Prop :=
  ∀ id row, world.clientUsers.rows.lookup id = some row → fromDirectory orgID row = true →
    row.status = "active" →
      InOrganization world connectorID orgID (row.details.scimExternalID.getD "")

section
variable {env : Env} {world : World} {connectorID orgID domain : String}

theorem offboardMissing_listed (inOrg : List String) :
    Ends env (fun result now => ∀ count, result = .ok count → ∀ id row,
        now.clientUsers.rows.lookup id = some row → fromDirectory orgID row = true →
        row.status = "active" → row.details.scimExternalID.getD "" ∈ inOrg)
      (offboardMissing orgID inOrg) world := by
  refine ensures_mono ?_ (ensures_and (offboardMissing_noNew orgID inOrg world)
    (offboardMissing_offboards orgID inOrg world))
  intro result now both count completes id row found isOwn isActive
  obtain ⟨noNew, offboards⟩ := both
  cases before : world.clientUsers.rows.lookup id with
  | none =>
    rw [noNew id before] at found
    cases found
  | some rowBefore =>
    obtain ⟨rowAfter, isAfter, kept, hit⟩ := offboards id rowBefore before
    rw [found] at isAfter
    cases isAfter
    rcases kept with rfl | ⟨time, rfl⟩
    · grind
    · change "suspended" = "active" at isActive
      exact absurd isActive (by decide)

theorem reconcile_onlyMembers :
    Ends env (fun result now => ∀ counts, result = .ok counts → OnlyMembersActive connectorID orgID now)
      (reconcile connectorID orgID domain) world := by
  refine ensures_then (bridgeGroups_bridged env connectorID orgID world) fun result bridged _ => ?_
  cases result with
  | error err => exact fun counts isOk => by cases isOk
  | ok bridgeCounts =>
    apply ends_ask
    · exact fun err counts isOk => by cases isOk
    · intro groupsChoice
      apply ends_ask
      · exact fun err counts isOk => by cases isOk
      · intro snapshotChoice
        refine ensures_then (ensures_and (ensures_and
          (onboard_inOrg orgID connectorID domain _ _ {} bridged) (onboard_groups _ _ _ _ _ _ bridged))
          (connectorUsers_same env _ bridged)) ?_
        rintro gathered onboarded ⟨⟨inOrg, -, sameGroups⟩, sameUsers⟩
        refine ensures_then (ensures_and (ensures_and (offboardMissing_listed gathered.inOrg)
          (offboardMissing_groups orgID gathered.inOrg onboarded))
          (connectorUsers_same env _ onboarded)) ?_
        rintro result offboarded ⟨⟨listed, groupsStill⟩, usersStill⟩
        cases result with
        | error err => exact fun counts isOk => by cases isOk
        | ok count =>
          refine ensures_then (ensures_and (ensures_and
            (setMemberships_users _ _ _ offboarded) (setMemberships_groups _ _ _ offboarded))
            (connectorUsers_same env _ offboarded)) ?_
          rintro result now ⟨⟨sameAccounts, groupsNow⟩, usersNow⟩
          intro counts _ id row found isOwn isActive
          rw [sameAccounts] at found
          have isListed := listed count rfl id row found isOwn isActive
          rw [inOrg] at isListed
          rcases isListed with already | ⟨u, member, inside, same⟩
          · cases already
          · have sameImports : importedGroups now orgID = importedGroups bridged orgID := by
              unfold importedGroups
              rw [groupsNow, groupsStill, sameGroups]
            have sameSnapshot : snapshotOf now connectorID = snapshotOf bridged connectorID := by
              unfold snapshotOf
              rw [usersNow, usersStill, sameUsers]
            refine ⟨u, ?_, same, joins_of_belongs ?_ inside⟩
            · rw [sameSnapshot]
              exact (snapshotChoice.snapshot.perm _).subset member
            · intro pair isPair
              rw [sameImports]
              exact (groupsChoice.pairs.perm _).subset isPair

end

/-! ## Provisioned users -/

/-- A client user that a connector has provisioned and that only connectors have managed since. -/
def Provisioned (orgID : String) (world : World) (sid id : String) : Prop :=
  ∃ row, world.clientUsers.rows.lookup id = some row ∧ fromDirectory orgID row = true ∧
    row.details.scimExternalID = some sid ∧ (row.status = "active" ∨ row.status = "suspended")

def refreshes (id : String) (event : Event Op Op.Ans) : Bool :=
  match event with
  | ⟨.statement (.updateDirectoryUser other _ _), .ok _⟩ => other = id
  | _ => false

/-- The SID and the client user that an operation of a pass provisions: one that is inserted, or
one that is found and refreshed. -/
def provisions (orgID : String) (log : List (Event Op Op.Ans)) (event : Event Op Op.Ans) :
    Option (String × String) :=
  match event with
  | ⟨.statement (.insertDirectoryUser org _ _ sid _), .ok id⟩ =>
    if org = orgID then some (sid, id) else none
  | ⟨.query (.findDirectoryUser org sid), .ok (some (id, _))⟩ =>
    if org = orgID ∧ log.any (refreshes id) then some (sid, id) else none
  | _ => none

def provisioned (orgID : String) (log : List (Event Op Op.Ans)) : List (String × String) :=
  log.filterMap (provisions orgID log)

/-- How the operations of a pass may change a client user: the organization, the provider and the
SID stay, and a status that is set is `active` or `suspended`. -/
inductive Managed : Option (Account Profile) → Option (Account Profile) → Prop
  | absent : Managed none none
  | created (row : Account Profile) (active : row.status = "active") : Managed none (some row)
  | kept (row after : Account Profile) (org : after.orgID = row.orgID)
      (provider : after.oauthProvider = row.oauthProvider)
      (external : after.details.scimExternalID = row.details.scimExternalID)
      (status : after.status = row.status ∨ after.status = "active" ∨ after.status = "suspended") :
      Managed (some row) (some after)

theorem Managed.refl (row : Option (Account Profile)) : Managed row row := by
  cases row with
  | none => exact .absent
  | some row => exact .kept row row rfl rfl rfl (.inl rfl)

def Op.reconciles (orgID : String) (op : Op) : Prop :=
  op.bridges orgID ∨ op.onboards orgID ∨ op.offboards ∨ op.refills

section
variable {env : Env} {orgID : String} {world : World}

theorem managed_amended {after : World} {changed : String} {f : Account Profile → Account Profile}
    (amended : Amended world.clientUsers.rows after.clientUsers.rows changed f)
    (managed : ∀ row, Managed (some row) (some (f row))) (id : String) :
    Managed (world.clientUsers.rows.lookup id) (after.clientUsers.rows.lookup id) := by
  rw [amended]
  split_ifs
  · cases world.clientUsers.rows.lookup id with
    | none => exact .absent
    | some row => exact managed row
  · exact Managed.refl _

theorem managed_exec (choice : Choice) (world : World) {op : Op} (reconciles : op.reconciles orgID)
    (id : String) :
    Managed (world.clientUsers.rows.lookup id)
      ((exec env choice world op).2.clientUsers.rows.lookup id) := by
  by_cases other : op.writesClientUsers = false
  · rw [(exec_frame env choice world op).1 other]
    exact Managed.refl _
  · cases op with
    | query q => exact Managed.refl _
    | statement s =>
      rcases statement_cases env choice world s with ⟨err, did⟩ | ⟨result, after, ran, did⟩
      · rw [did]
        exact Managed.refl _
      · rw [did]
        cases s with
        | updateDirectoryUser changed name email =>
          obtain ⟨users, amended, rfl⟩ := amended_updateDirectoryUser ran
          refine managed_amended amended ?_ id
          exact fun row => .kept row _ rfl rfl rfl (.inr (.inl rfl))
        | insertDirectoryUser org email name sid connectorID =>
          obtain ⟨row, users, -, -, active, -, -, -, -, -, inserted, rfl⟩ :=
            insertDirectoryUser_ok ran
          rw [inserted.lookup]
          split_ifs with here
          · rw [here, inserted.fresh]
            exact .created row active
          · exact Managed.refl _
        | suspendDirectoryUser changed =>
          obtain ⟨done, suspend, ⟨⟩⟩ := map_ok ran
          obtain ⟨users, amended, rfl⟩ := amendClientUser_ok suspend
          refine managed_amended amended ?_ id
          exact fun row => .kept row _ rfl rfl rfl (.inr (.inr rfl))
        | _ =>
          first
          | exact absurd rfl other
          | rcases reconciles with (isLink | isPrune) | onboards | offboards | refills
            · cases isLink
            · cases isPrune
            · cases onboards
            · cases offboards
            · cases refills

/-- What stays of the rows of provisioned users. -/
structure LogKept (orgID : String) (state : World × List (Event Op Op.Ans)) : Prop where
  found : ∀ sid id status, ⟨.query (.findDirectoryUser orgID sid), .ok (some (id, status))⟩ ∈ state.2 →
    ∃ row, state.1.clientUsers.rows.lookup id = some row ∧ fromDirectory orgID row = true ∧
      row.details.scimExternalID = some sid
  inserted : ∀ email name sid connectorID id,
    ⟨.statement (.insertDirectoryUser orgID email name sid connectorID), .ok id⟩ ∈ state.2 →
      Provisioned orgID state.1 sid id
  refreshed : ∀ id name email, ⟨.statement (.updateDirectoryUser id name email), .ok ()⟩ ∈ state.2 →
    ∀ row, state.1.clientUsers.rows.lookup id = some row →
      row.status = "active" ∨ row.status = "suspended"

theorem Managed.of_some {row : Account Profile} {now : Option (Account Profile)}
    (managed : Managed (some row) now) : ∃ after, now = some after ∧
      fromDirectory orgID after = fromDirectory orgID row ∧
      after.details.scimExternalID = row.details.scimExternalID ∧
      (after.status = row.status ∨ after.status = "active" ∨ after.status = "suspended") := by
  cases managed with
  | kept _ after org provider external status =>
    refine ⟨after, rfl, ?_, external, status⟩
    rw [fromDirectory, fromDirectory, org, provider]

theorem Provisioned.managed {now : World} {sid id : String}
    (provisioned : Provisioned orgID world sid id)
    (managed : ∀ id, Managed (world.clientUsers.rows.lookup id) (now.clientUsers.rows.lookup id)) :
    Provisioned orgID now sid id := by
  obtain ⟨row, found, isOwn, isSID, status⟩ := provisioned
  have step := managed id
  rw [found] at step
  obtain ⟨after, isNow, own, external, statusNow⟩ := step.of_some
  exact ⟨after, isNow, own.trans isOwn, external.trans isSID, by grind⟩

theorem logKept_new (choice : Choice) (world : World) (op : Op) :
    LogKept orgID ((exec env choice world op).2, [⟨op, (exec env choice world op).1⟩]) := by
  constructor
  · intro sid id status member
    have same := mem_singleton.mp member
    obtain rfl : op = .query (.findDirectoryUser orgID sid) := (congrArg Event.op same).symm
    have answered := (eq_of_heq (Event.mk.inj same).2).symm
    have isFound := (query_ok answered).symm
    obtain ⟨row, found, isOwn, isSID, -⟩ :=
      (mem_directoryUsers world orgID sid id status).mp (mem_of_findDirectoryUser isFound)
    exact ⟨row, found, isOwn, isSID⟩
  · intro email name sid connectorID id member
    have same := mem_singleton.mp member
    obtain rfl : op = .statement (.insertDirectoryUser orgID email name sid connectorID) :=
      (congrArg Event.op same).symm
    have answered := (eq_of_heq (Event.mk.inj same).2).symm
    rcases statement_cases env choice world (.insertDirectoryUser orgID email name sid connectorID) with
      ⟨err, did⟩ | ⟨result, after, ran, did⟩
    · rw [did] at answered
      cases answered
    · rw [did] at answered ⊢
      cases answered
      obtain ⟨row, users, rfl, isOrg, active, isProvider, -, isSID, -, -, inserted, rfl⟩ :=
        insertDirectoryUser_ok ran
      refine ⟨row, ?_, ?_, isSID, .inl active⟩
      · change users.rows.lookup choice.newID = some row
        rw [inserted.lookup, if_pos rfl]
      · simp [fromDirectory, isOrg, isProvider]
  · intro id name email member row found
    have same := mem_singleton.mp member
    obtain rfl : op = .statement (.updateDirectoryUser id name email) :=
      (congrArg Event.op same).symm
    have answered := (eq_of_heq (Event.mk.inj same).2).symm
    rcases statement_cases env choice world (.updateDirectoryUser id name email) with
      ⟨err, did⟩ | ⟨result, after, ran, did⟩
    · rw [did] at answered
      cases answered
    · rw [did] at found
      obtain ⟨users, amended, rfl⟩ := amended_updateDirectoryUser ran
      rw [amended, if_pos rfl] at found
      obtain ⟨old, -, rfl⟩ := map_eq_some_iff.mp found
      exact .inl rfl

variable {log : List (Event Op Op.Ans)}

theorem LogKept.managed {now : World} (kept : LogKept orgID (world, log))
    (managed : ∀ id, Managed (world.clientUsers.rows.lookup id) (now.clientUsers.rows.lookup id)) :
    LogKept orgID (now, log) := by
  constructor
  · intro sid id status member
    obtain ⟨row, found, isOwn, isSID⟩ := kept.found sid id status member
    have step := managed id
    rw [found] at step
    obtain ⟨after, isNow, own, external, _⟩ := step.of_some
    exact ⟨after, isNow, own.trans isOwn, external.trans isSID⟩
  · intro email name sid connectorID id member
    exact (kept.inserted email name sid connectorID id member).managed managed
  · intro id name email member row found
    have step := managed id
    rw [found] at step
    cases before : world.clientUsers.rows.lookup id with
    | none =>
      rw [before] at step
      cases step with
      | created _ active => exact .inl active
    | some rowBefore =>
      rw [before] at step
      cases step with
      | kept _ _ _ _ _ status =>
        rcases status with same | set
        · rw [same]
          exact kept.refreshed id name email member rowBefore before
        · exact set

theorem LogKept.concat {more : List (Event Op Op.Ans)}
    (kept : LogKept orgID (world, log)) (keptMore : LogKept orgID (world, more)) :
    LogKept orgID (world, log ++ more) := by
  constructor
  · intro sid id status member
    rcases mem_append.mp member with old | isNew
    · exact kept.found sid id status old
    · exact keptMore.found sid id status isNew
  · intro email name sid connectorID id member
    rcases mem_append.mp member with old | isNew
    · exact kept.inserted email name sid connectorID id old
    · exact keptMore.inserted email name sid connectorID id isNew
  · intro id name email member
    rcases mem_append.mp member with old | isNew
    · exact kept.refreshed id name email old
    · exact keptMore.refreshed id name email isNew

theorem LogKept.provisioned (kept : LogKept orgID (world, log)) (sid id : String)
    (member : (sid, id) ∈ Directory.provisioned orgID log) : Provisioned orgID world sid id := by
  obtain ⟨event, isEvent, isPair⟩ := mem_filterMap.mp member
  unfold provisions at isPair
  split at isPair
  · split_ifs at isPair with isOrg
    cases isPair
    subst isOrg
    exact kept.inserted _ _ _ _ _ isEvent
  · split_ifs at isPair with both
    cases isPair
    obtain ⟨rfl, refreshed⟩ := both
    obtain ⟨update, isUpdate, isRefresh⟩ := List.any_eq_true.mp refreshed
    obtain ⟨row, found, isOwn, isSID⟩ := kept.found _ _ _ isEvent
    refine ⟨row, found, isOwn, isSID, ?_⟩
    unfold refreshes at isRefresh
    split at isRefresh
    · have sameID := of_decide_eq_true isRefresh
      subst sameID
      exact kept.refreshed _ _ _ isUpdate row found
    · cases isRefresh
  · cases isPair

end

/-! ## What passes and logins do to provisioned users -/

section
variable {env : Env} {world : World} {orgID : String}

theorem reconcile_calls (connectorID domain : String) :
    Calls (Op.reconciles orgID) (reconcile connectorID orgID domain) := by
  have asks : ∀ q : Query, (Op.query q).reconciles orgID := fun q => .inr (.inl trivial)
  have wider {α : Type} {p : Handled α} {part : Op → Prop} (calls : Calls part p)
      (isPart : ∀ op, part op → op.reconciles orgID) : Calls (Op.reconciles orgID) p :=
    calls_mono isPart calls
  refine calls_bind (wider (bridgeGroups_calls connectorID orgID) fun _ => .inl) ?_
  have onboards := fun enabled users =>
    wider (onboard_calls orgID connectorID domain enabled users {}) fun _ part => .inr (.inl part)
  have offboards := fun inOrg =>
    wider (offboardMissing_calls orgID inOrg) fun _ part => .inr (.inr (.inl part))
  have refills := fun users clientIDs entries =>
    wider (setMemberships_calls users clientIDs entries) fun _ part => .inr (.inr (.inr part))
  simp [reconcileUsers, forall_except, asks, onboards, offboards, refills]

theorem reconcile_provisions (connectorID domain : String) :
    Ensures (recorded (exec env)) (fun _ => True) (fun _ state => LogKept orgID state ∧
        ∀ sid id, Provisioned orgID world sid id → Provisioned orgID state.1 sid id)
      (reconcile connectorID orgID domain) (world, []) := by
  refine ensures_of_calls ?_ _ (world, []) (reconcile_calls connectorID domain)
    ⟨⟨fun _ _ _ member => (by cases member), fun _ _ _ _ _ member => (by cases member),
      fun _ _ _ member => (by cases member)⟩, fun _ _ provisioned => provisioned⟩
  rintro choice state op reconciles ⟨kept, still⟩
  have managed : ∀ id, Managed (state.1.clientUsers.rows.lookup id)
      ((exec env choice state.1 op).2.clientUsers.rows.lookup id) :=
    managed_exec choice state.1 reconciles
  exact ⟨(kept.managed managed).concat (logKept_new choice state.1 op),
    fun sid id provisioned => (still sid id provisioned).managed managed⟩

def StillProvisioned (orgID : String) (world now : World) : Prop :=
  ∀ sid id, Provisioned orgID world sid id → Provisioned orgID now sid id

theorem StillProvisioned.refl (orgID : String) (world : World) :
    StillProvisioned orgID world world := fun _ _ provisioned => provisioned

abbrev KeepsProvisioned {α : Type} (env : Env) (orgID : String) (world : World)
    (program : Handled α) : Prop :=
  Ends env (fun _ now => StillProvisioned orgID world now) program world

theorem touch_provisioned (changed : String) :
    KeepsProvisioned env orgID world (run (.touchClientUser changed)) := by
  apply ends_run
  · exact fun err => StillProvisioned.refl orgID world
  · intro choice result after ran
    obtain ⟨users, touched, ⟨⟩⟩ := map_ok ran
    have amended := world.clientUsers.touch_amended touched
    intro sid id provisioned
    refine provisioned.managed (managed_amended amended ?_)
    exact fun row => .kept row _ rfl rfl rfl (.inl rfl)

theorem link_provisioned (changed provider subject : String)
    (other : ∀ row, world.clientUsers.rows.lookup changed = some row →
      fromDirectory orgID row = false) :
    KeepsProvisioned env orgID world
      (run (.linkClientUser changed provider subject)) := by
  apply ends_run
  · exact fun err => StillProvisioned.refl orgID world
  · intro choice result after ran
    obtain ⟨users, linked, ⟨⟩⟩ := map_ok ran
    have amended := world.clientUsers.link_amended linked
    rintro sid id ⟨row, found, isOwn, isSID, status⟩
    refine ⟨row, ?_, isOwn, isSID, status⟩
    have another : id ≠ changed := by
      grind
    rwa [amended, if_neg another]

theorem register_provisioned (org email name provider subject : String) :
    KeepsProvisioned env orgID world
      (run (.registerClientUser org email name provider subject)) := by
  apply ends_run
  · exact fun err => StillProvisioned.refl orgID world
  · intro choice result after ran
    obtain ⟨row, users, -, -, -, -, inserted, rfl⟩ :=
      registerClientUser_ok ran
    rintro sid id ⟨old, found, isOwn, isSID, status⟩
    refine ⟨old, ?_, isOwn, isSID, status⟩
    have another : id ≠ choice.newID := by
      rintro rfl
      rw [inserted.fresh] at found
      cases found
    rwa [inserted.lookup, if_neg another]

def NotByEmail (orgID : String) (world : World) (matched : Account Profile → Prop) : Prop :=
  ∀ id row, world.clientUsers.rows.lookup id = some row → matched row →
    fromDirectory orgID row = false

variable (provider subject email name loginOrg : String)

theorem autoProvision_provisioned :
    KeepsProvisioned env orgID world
      (SCIMStore.autoProvisionClientUser provider subject email name loginOrg) := by
  refine ensures_then (?resolves : Ends env (fun _ now => now = world) _ world)
    fun resolved now same => ?_
  case resolves =>
    refine ensures_check (fun _ => rfl) fun _ => ?_
    apply ends_ask
    · exact fun err => rfl
    · intro choice
      cases Query.firstOrganization.run env choice world <;> exact rfl
  subst same
  refine ensures_check (fun _ => StillProvisioned.refl orgID now) fun _ => ?_
  have registers : Ends env (fun _ later => StillProvisioned orgID now later)
      (run (.registerClientUser resolved email name provider subject)) now :=
    register_provisioned resolved email name provider subject
  refine ensures_then registers fun result later still => ?_
  cases result <;> exact still

theorem linkByEmail_provisioned (notByEmail : NotByEmail orgID world fun row => row.email = email) :
    KeepsProvisioned env orgID world
      (SCIMStore.linkByEmailOrCreateClientUser provider subject email name loginOrg) := by
  apply ends_ask
  · exact fun err => autoProvision_provisioned provider subject email name loginOrg
  · intro choice
    have isAnswer : (Query.findClientUserByEmail email).run env choice world =
        (findRow (fun row => row.email = email) world.clientUsers.rows).map
          fun found => clientRecord found.1 found.2 := rfl
    rw [isAnswer]
    cases found : findRow (fun row => row.email = email) world.clientUsers.rows with
    | none => exact autoProvision_provisioned provider subject email name loginOrg
    | some entry =>
      obtain ⟨id, row⟩ := entry
      obtain ⟨isRow, matched⟩ := findRow_some found
      have links : KeepsProvisioned env orgID world
          (run (.linkClientUser id provider subject)) := by
        apply link_provisioned
        intro other isOther
        rw [isRow] at isOther
        cases isOther
        exact notByEmail id row isRow (of_decide_eq_true matched)
      exact ensures_then links fun _ _ still => still

theorem findOrCreate_provisioned
    (notByEmail : NotByEmail orgID world fun row => row.email = email) :
    KeepsProvisioned env orgID world
      (SCIMStore.findOrCreateClientUser provider subject email name loginOrg) := by
  have byEmail : KeepsProvisioned env orgID world
      (SCIMStore.linkByEmailOrCreateClientUser provider subject email name loginOrg) :=
    linkByEmail_provisioned provider subject email name loginOrg notByEmail
  apply ends_ask
  · exact fun err => byEmail
  · intro choice
    cases (Query.findLinkedClientUser provider subject).run env choice world with
    | none => exact byEmail
    | some u =>
      have touches : KeepsProvisioned env orgID world
          (run (.touchClientUser u.id)) := touch_provisioned u.id
      exact ensures_then touches fun _ _ still => still

theorem provisionedClientUser_some {choice : Choice} {provider subject email loginOrg : String}
    {u : SCIMUser}
    (found : provisionedClientUser env choice world provider subject email loginOrg = some u) :
    ∃ row, world.clientUsers.rows.lookup u.id = some row ∧ u = clientRecord u.id row ∧
      row.orgID = loginOrg ∧
      (row.linkedTo provider subject = true ∨ env.lower row.email = env.lower email) := by
  have listed : ∀ matched : Account Profile → Bool,
      (choice.users.visit (clientsWhere world matched)).head? = some u →
      ∃ row, world.clientUsers.rows.lookup u.id = some row ∧ u = clientRecord u.id row ∧
        matched row = true := by
    intro matched isHead
    have member := (choice.users.perm _).subset (mem_of_head? isHead)
    obtain ⟨entry, stored, rfl⟩ := List.mem_map.mp member
    obtain ⟨isStored, isMatched⟩ := mem_filter.mp stored
    exact ⟨entry.2, lookup_eq_some_iff.mpr isStored, rfl, isMatched⟩
  rcases or_eq_some_iff.mp found with byLink | ⟨-, byEmail⟩
  all_goals grind

theorem findAndLink_provisioned (provider subject : String) {email loginOrg : String}
    (notByEmail : NotByEmail orgID world fun row =>
      row.orgID = loginOrg ∧ env.lower row.email = env.lower email) :
    KeepsProvisioned env orgID world
      (SCIMStore.findAndLinkProvisionedClientUser provider subject email loginOrg) := by
  apply ends_ask
  · exact fun err => StillProvisioned.refl orgID world
  · intro choice
    have isAnswer : (Query.findProvisionedClientUser provider subject email loginOrg).run env choice
        world = provisionedClientUser env choice world provider subject email loginOrg := rfl
    rw [isAnswer]
    cases found : provisionedClientUser env choice world provider subject email loginOrg with
    | none => exact StillProvisioned.refl orgID world
    | some u =>
      obtain ⟨row, isRow, isRecord, isOrg, matched⟩ := provisionedClientUser_some found
      simp only
      split_ifs with relinks
      · have links : KeepsProvisioned env orgID world
            (run (.linkClientUser u.id provider subject)) := by
          apply link_provisioned
          intro other isOther
          rw [isRow] at isOther
          cases isOther
          rcases matched with linked | byEmail
          · -- a row that has the link is not linked again
            simp [Account.linkedTo] at linked
            rw [isRecord] at relinks
            simp [clientRecord, linked.1, linked.2] at relinks
          · exact notByEmail u.id row isRow ⟨isOrg, byEmail⟩
        refine ensures_then links fun result now still => ?_
        cases result <;> exact still
      · have touches : KeepsProvisioned env orgID world
            (run (.touchClientUser u.id)) := touch_provisioned u.id
        exact ensures_then touches fun _ _ still => still

end

/-- The tables, with everyone that a connector has ever provisioned: connector, SID and user. -/
structure Tracked where
  world : World
  ledger : List (String × String × String)

/-- A pass, a login in either way, or anything that leaves the client users alone. -/
inductive Move where
  | reconcile (connectorID domain : String) (choices : Nat → Choice)
  | findOrCreate (provider subject email name loginOrg : String) (choices : Nat → Choice)
  | findAndLink (provider subject email loginOrg : String) (choices : Nat → Choice)
  | elsewhere (other : World)

def pass (env : Env) (orgID : String) (world : World) (connectorID domain : String)
    (choices : Nat → Choice) : Except String ReconcileResult × (World × List (Event Op Op.Ans)) :=
  (ProvisioningStore.reconcile connectorID orgID domain).eval (recorded (exec env)) choices (world, [])

def track (env : Env) (orgID : String) (state : Tracked) : Move → Tracked
  | .reconcile connectorID domain choices =>
    let done := pass env orgID state.world connectorID domain choices
    { world := done.2.1
      ledger := state.ledger ++
        (provisioned orgID done.2.2).map fun entry => (connectorID, entry.1, entry.2) }
  | .findOrCreate provider subject email name loginOrg choices =>
    { state with
      world := ((SCIMStore.findOrCreateClientUser provider subject email name loginOrg).eval
        (exec env) choices state.world).2 }
  | .findAndLink provider subject email loginOrg choices =>
    { state with
      world := ((SCIMStore.findAndLinkProvisionedClientUser provider subject email loginOrg).eval
        (exec env) choices state.world).2 }
  | .elsewhere other =>
    { state with world := { other with clientUsers := state.world.clientUsers } }

/-- The login finds no directory user of the organization by the e-mail address. -/
def ByLink (env : Env) (orgID : String) (world : World) : Move → Prop
  | .findOrCreate _ _ email _ _ _ => NotByEmail orgID world fun row => row.email = email
  | .findAndLink _ _ email loginOrg _ =>
    NotByEmail orgID world fun row => row.orgID = loginOrg ∧ env.lower row.email = env.lower email
  | _ => True

/-- The rows of everyone in the ledger are still those of directory users. -/
def LedgerKept (orgID : String) (state : Tracked) : Prop :=
  ∀ entry ∈ state.ledger, Provisioned orgID state.world entry.2.1 entry.2.2

section
variable (env : Env) (orgID : String) (world : World) (connectorID domain : String)
variable (choices : Nat → Choice)

theorem pass_provisions :
    LogKept orgID (pass env orgID world connectorID domain choices).2 ∧
      StillProvisioned orgID world (pass env orgID world connectorID domain choices).2.1 :=
  eval_ensures choices (fun _ => trivial) (reconcile_provisions connectorID domain)

theorem pass_onlyMembers {counts : ReconcileResult}
    (completes : (pass env orgID world connectorID domain choices).1 = .ok counts) :
    OnlyMembersActive connectorID orgID (pass env orgID world connectorID domain choices).2.1 :=
  eval_ensures choices
    (fun _ => trivial) (ensures_recorded reconcile_onlyMembers []) counts completes

end

theorem track_ledger (env : Env) (orgID : String) (state : Tracked) (move : Move)
    (kept : LedgerKept orgID state) (byLink : ByLink env orgID state.world move) :
    LedgerKept orgID (track env orgID state move) := by
  cases move with
  | reconcile connectorID domain choices =>
    have done := pass_provisions env orgID state.world connectorID domain choices
    intro entry member
    rcases mem_append.mp member with old | isNew
    · exact done.2 _ _ (kept entry old)
    · obtain ⟨pair, isPair, rfl⟩ := List.mem_map.mp isNew
      exact done.1.provisioned pair.1 pair.2 isPair
  | findOrCreate provider subject email name loginOrg choices =>
    have still : StillProvisioned orgID state.world
        (track env orgID state
          (.findOrCreate provider subject email name loginOrg choices)).world :=
      eval_ensures choices (fun _ => trivial)
        (findOrCreate_provisioned provider subject email name loginOrg byLink)
    exact fun entry member => still _ _ (kept entry member)
  | findAndLink provider subject email loginOrg choices =>
    have still := eval_ensures choices (fun _ => trivial)
        (findAndLink_provisioned provider subject byLink)
    exact fun entry member => still _ _ (kept entry member)
  | elsewhere other => exact kept

def Suspended (world : World) (id : String) : Prop :=
  ((world.clientUsers.rows.lookup id).map fun row => row.status) = some "suspended"

/-- In every run whose logins find no directory user by e-mail, a pass that completes leaves
suspended everyone whom its connector has ever provisioned and who is not in the organization's
part of the snapshot. -/
theorem leavers_suspended (env : Env) (orgID : String) (world : World) (moves : List Move)
    (connectorID domain : String) (choices : Nat → Choice) (counts : ReconcileResult)
    (byLink : ∀ visit ∈ visits (track env orgID) ⟨world, []⟩ moves,
      ByLink env orgID visit.1.world visit.2)
    (completes : (pass env orgID (Runs.run (track env orgID) ⟨world, []⟩ moves).world connectorID domain
      choices).1 = .ok counts) :
    let after := track env orgID (Runs.run (track env orgID) ⟨world, []⟩ moves)
      (.reconcile connectorID domain choices)
    ∀ sid id, (connectorID, sid, id) ∈ after.ledger →
      ¬ InOrganization after.world connectorID orgID sid → Suspended after.world id := by
  intro after sid id member left
  have before := run_invariant_of (track env orgID) (fun state move => ByLink env orgID state.world move)
      (LedgerKept orgID) (track_ledger env orgID) ⟨world, []⟩ moves
      (fun entry isEntry => by cases isEntry) byLink
  have kept : LedgerKept orgID after := track_ledger env orgID _ _ before trivial
  obtain ⟨row, found, isOwn, isSID, status⟩ := kept _ member
  rcases status with isActive | isSuspended
  · have inside := pass_onlyMembers env orgID _ connectorID domain choices completes id row
      found isOwn isActive
    rw [isSID] at inside
    exact absurd inside left
  · rw [Suspended, found, map_some, isSuspended]

def leaversWorld : World where
  organizations := ["org"]
  providers := ∅
  admins := .empty
  clientUsers := .empty
  groups := (∅ : Table String Group).insert "staff"
    { orgID := "org"
      displayName := "Staff"
      externalID := some "G-1"
      source := "ldap"
      importEnabled := true
      createdAt := 0
      updatedAt := 0 }
  adminGroups := []
  clientGroups := []
  connectorGroups := (∅ : Table (String × String) ConnectorGroup).insert ("ad", "G-1")
    ⟨some "Staff", none, true⟩
  connectorUsers := (∅ : Table (String × String) ConnectorUser).insert ("ad", "S-1")
    { email := some "greta@org.example"
      enabled := some true
      groupSIDs := some (.arr [.str "G-1"]) }

/-- A pass in which the id generator delivers `greta`. -/
def joins : Move := .reconcile "ad" "org.example" fun _ => { newID := "greta" }

def leaves : Move := .elsewhere { leaversWorld with connectorUsers := ∅ }

def loggedIn : Move := .findOrCreate "okta" "00u1" "greta@org.example" "Greta" "org" fun _ => {}

def trackedFrom (moves : List Move) : Tracked :=
  Runs.run (track demoEnv "org") ⟨leaversWorld, []⟩ moves

theorem left_organization {moves : List Move}
    (empty : (snapshotOf (trackedFrom moves).world "ad").length = 0) :
    ¬ InOrganization (trackedFrom moves).world "ad" "org" "S-1" := by
  rintro ⟨u, member, -⟩
  rw [eq_nil_of_length_eq_zero empty] at member
  cases member

theorem greta_suspended :
    ("ad", "S-1", "greta") ∈ (trackedFrom [joins, leaves, joins]).ledger ∧
      ¬ InOrganization (trackedFrom [joins, leaves, joins]).world "ad" "org" "S-1" ∧
      Suspended (trackedFrom [joins, leaves, joins]).world "greta" := by
  have listed : ("ad", "S-1", "greta") ∈ (trackedFrom [joins, leaves, joins]).ledger := by
    decide +kernel
  have left : ¬ InOrganization (trackedFrom [joins, leaves, joins]).world "ad" "org" "S-1" :=
    left_organization (by decide +kernel)
  have isOk : (pass demoEnv "org" (trackedFrom [joins, leaves]).world "ad" "org.example"
      fun _ => { newID := "greta" }).1.toBool = true := by
    decide +kernel
  cases completes : (pass demoEnv "org" (trackedFrom [joins, leaves]).world "ad" "org.example"
      fun _ => { newID := "greta" }).1 with
  | error err =>
    rw [completes] at isOk
    cases isOk
  | ok counts =>
    refine ⟨listed, left, leavers_suspended demoEnv "org" leaversWorld [joins, leaves] "ad"
      "org.example" (fun _ => { newID := "greta" }) counts ?_ completes "S-1" "greta" listed left⟩
    intro visit member
    simp [visits] at member
    rcases member with rfl | rfl <;> exact trivial

theorem greta_still_active :
    ("ad", "S-1", "greta") ∈ (trackedFrom [joins, loggedIn, leaves, joins]).ledger ∧
      (pass demoEnv "org" (trackedFrom [joins, loggedIn, leaves]).world "ad" "org.example"
        fun _ => { newID := "greta" }).1.toBool = true ∧
      ¬ InOrganization (trackedFrom [joins, loggedIn, leaves, joins]).world "ad" "org" "S-1" ∧
      ((trackedFrom [joins, loggedIn, leaves, joins]).world.clientUsers.rows.lookup "greta").map
        (fun row => row.status) = some "active" := by
  refine ⟨by decide +kernel, by decide +kernel, left_organization (by decide +kernel), ?_⟩
  decide +kernel

end ManagementPlane.Directory
