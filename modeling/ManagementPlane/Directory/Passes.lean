import ManagementPlane.Directory.Bridging

/-!
# What a reconciliation leaves alone

A pass changes a client user only in two ways: it finds the user under the SID of a snapshot
user that belongs into the organization, or it finds the user active and under no such SID.
Everything that follows about whole runs rests on the lemmas here, one for each part of a pass.
-/

namespace ManagementPlane.Directory

open Interleave Tables Option ProvisioningStore Bool
open List hiding lookup_eq_some_iff
open Policy (Time)
open Sso (Account Accounts)

/-! ## Client users that a pass keeps -/

/-- The client users of `keep` have the rows they had at the start. -/
def KeptRows (keep : String → Prop) (start now : World) : Prop :=
  ∀ id, keep id → now.clientUsers.rows.lookup id = start.clientUsers.rows.lookup id

/-- No client user of `keep` is the user of a SID. -/
def Unmatched (keep : String → Prop) (start : World) (orgID sid : String) : Prop :=
  ∀ id row, keep id → start.clientUsers.rows.lookup id = some row →
    ¬ (fromDirectory orgID row = true ∧ row.details.scimExternalID = some sid)

variable {env : Env} {keep : String → Prop} {start world : World}

variable {id orgID : String} {row : Account Profile}

theorem kept_amended (kept : KeptRows keep start world) {clientUsers : Accounts Profile}
    {f : Account Profile → Account Profile}
    (amended : Amended world.clientUsers.rows clientUsers.rows id f) (other : ¬ keep id) :
    KeptRows keep start { world with clientUsers := clientUsers } := by
  intro keptID isKept
  have another : keptID ≠ id := fun same => other (same ▸ isKept)
  rw [amended, if_neg another]
  exact kept keptID isKept

theorem kept_inserted (kept : KeptRows keep start world)
    (present : ∀ id, keep id → (start.clientUsers.rows.lookup id).isSome)
    {clientUsers : Accounts Profile}
    (inserted : Inserted world.clientUsers.rows clientUsers.rows id row) :
    KeptRows keep start { world with clientUsers := clientUsers } := by
  intro keptID isKept
  have another : keptID ≠ id := by
    intro same
    have isThere := present keptID isKept
    rw [← kept keptID isKept, same, inserted.fresh] at isThere
    cases isThere
  rw [inserted.lookup, if_neg another]
  exact kept keptID isKept

theorem mem_directoryUsers (world : World) (orgID sid id status : String) :
    (id, status) ∈ directoryUsers world orgID sid ↔ ∃ row,
      world.clientUsers.rows.lookup id = some row ∧ fromDirectory orgID row = true ∧
        row.details.scimExternalID = some sid ∧ row.status = status := by
  simp [directoryUsers]
  grind [lookup_eq_some_iff]

theorem mem_of_findDirectoryUser {choice : Choice} {sid : String} {found : String × String}
    (isFound : (Query.findDirectoryUser orgID sid).run env choice world = some found) :
    found ∈ directoryUsers world orgID sid :=
  (choice.pairs.perm _).subset (mem_of_head? isFound)

theorem amended_updateDirectoryUser {now : Time} {newID name email : String} {after : World}
    {result : (Statement.updateDirectoryUser id name email).Result}
    (ran : (Statement.updateDirectoryUser id name email).run now newID world = .ok (result, after)) :
    ∃ clientUsers, Amended world.clientUsers.rows clientUsers.rows id
        (fun row => connectorStatus now "active" onboardedReason
          { row with name := name, email := email }) ∧
      after = { world with clientUsers := clientUsers } := by
  obtain ⟨done, update, ⟨⟩⟩ := map_ok ran
  exact updateDirectoryUser_ok update

def Grows (world now : World) : Prop :=
  ∀ id, (world.clientUsers.rows.lookup id).isSome → (now.clientUsers.rows.lookup id).isSome

theorem Grows.refl (world : World) : Grows world world := fun _ present => present

theorem upsertClientUser_kept (orgID connectorID domain : String) (u : SnapUser)
    (kept : KeptRows keep start world)
    (present : ∀ id, keep id → (start.clientUsers.rows.lookup id).isSome)
    (unmatched : Unmatched keep start orgID u.sid) :
    Ends env (fun result now => KeptRows keep start now ∧ Grows world now ∧
      ∀ id changed, result = .ok (id, changed) →
        ¬ keep id ∧ (now.clientUsers.rows.lookup id).isSome)
      (upsertClientUser orgID connectorID domain u) world := by
  have failed : ∀ err : String, KeptRows keep start world ∧ Grows world world ∧
      ∀ (id : String) (changed : Bool), Except.error err = .ok (id, changed) →
        ¬ keep id ∧ (world.clientUsers.rows.lookup id).isSome :=
    fun err => ⟨kept, Grows.refl world, fun id changed isOk => by cases isOk⟩
  refine ensures_check (fun _ => failed _) fun _ => ?_
  apply ends_ask
  · exact fun err => failed err
  · intro choice
    cases isFound : (Query.findDirectoryUser orgID u.sid).run env choice world with
    | none =>
      apply ends_run
      · exact fun err => failed _
      · intro choice newID after ran
        obtain ⟨row, users, rfl, -, -, -, -, -, -, -, inserted, rfl⟩ :=
          insertDirectoryUser_ok ran
        refine ⟨kept_inserted kept present inserted, inserted.isSome, ?_⟩
        intro id changed isOk
        cases isOk
        constructor
        · intro isKept
          have isThere := present _ isKept
          rw [← kept _ isKept, inserted.fresh] at isThere
          cases isThere
        · change (users.rows.lookup choice.newID).isSome
          rw [inserted.lookup, if_pos rfl]
          rfl
    | some found =>
      obtain ⟨id, status⟩ := found
      obtain ⟨row, isRow, isOwn, isSID, -⟩ :=
        (mem_directoryUsers world orgID u.sid id status).mp (mem_of_findDirectoryUser isFound)
      have other : ¬ keep id := by
        intro isKept
        rw [kept id isKept] at isRow
        exact unmatched id row isKept isRow ⟨isOwn, isSID⟩
      apply ends_run
      · exact fun err => failed _
      · intro choice result after ran
        obtain ⟨users, amended, rfl⟩ := amended_updateDirectoryUser ran
        refine ⟨kept_amended kept amended other, ?_, ?_⟩
        · exact fun another isThere => (amended.isSome another).trans isThere
        · intro updated changed isOk
          cases isOk
          exact ⟨other, (amended.isSome id).trans (isSome_iff_exists.mpr ⟨row, isRow⟩)⟩

/-- The client users that onboarding has gathered exist and are not among those to keep. -/
def GatheredOthers (keep : String → Prop) (now : World) (gathered : Onboarding) : Prop :=
  ∀ sid id, gathered.clientIDs.lookup sid = some id →
    ¬ keep id ∧ (now.clientUsers.rows.lookup id).isSome

theorem onboard_kept (orgID connectorID domain : String) (enabled : EnabledGroups)
    (present : ∀ id, keep id → (start.clientUsers.rows.lookup id).isSome) (users : List SnapUser)
    (unmatched : ∀ u ∈ users, belongs enabled u = true → Unmatched keep start orgID u.sid) :
    ∀ (gathered : Onboarding) (world : World), KeptRows keep start world →
    GatheredOthers keep world gathered →
    Ends env (fun gathered now => KeptRows keep start now ∧ GatheredOthers keep now gathered)
      (onboard orgID connectorID domain enabled users gathered) world := by
  induction users with
  | nil => exact fun gathered world kept others => ⟨kept, others⟩
  | cons u rest ih =>
    intro gathered world kept others
    have goesOn := ih fun other member => unmatched other (mem_cons_of_mem _ member)
    rw [onboard]
    split_ifs with inside
    · have matched := unmatched u mem_cons_self inside
      refine ensures_then (upsertClientUser_kept orgID connectorID domain u kept present matched) ?_
      rintro result now ⟨keptNow, grows, added⟩
      have othersNow := fun sid id listed => (others sid id listed).imp_right (grows id)
      match result with
      | .error err => exact goesOn _ now keptNow othersNow
      | .ok (id, changed) =>
        refine goesOn _ now keptNow fun sid other listed => ?_
        rw [lookup_insert_if] at listed
        split_ifs at listed
        · cases listed
          exact added _ changed rfl
        · exact othersNow sid other listed
    · exact goesOn gathered world kept others

theorem onboard_inOrg (orgID connectorID domain : String) (enabled : EnabledGroups)
    (users : List SnapUser) :
    ∀ (gathered : Onboarding) (world : World),
    Ends env (fun result _ => ∀ sid, sid ∈ result.inOrg ↔ sid ∈ gathered.inOrg ∨
        ∃ u ∈ users, belongs enabled u = true ∧ u.sid = sid)
      (onboard orgID connectorID domain enabled users gathered) world := by
  induction users with
  | nil => exact fun gathered world sid => by simp
  | cons u rest ih =>
    intro gathered world
    rw [onboard]
    split_ifs with inside
    · apply ensures_skip
      grind
    · grind

/-- The client users of `keep` have the memberships they had. -/
def KeptMembers (keep : String → Prop) (world now : World) : Prop :=
  ∀ pair : String × String, keep pair.1 → (pair ∈ now.clientGroups ↔ pair ∈ world.clientGroups)

theorem suspendAll_kept (rows : List (String × String)) :
    ∀ world : World, (∀ r ∈ rows, ¬ keep r.1) → KeptRows keep start world →
    Ends env (fun _ now => KeptRows keep start now ∧ KeptMembers keep world now)
      (suspendAll rows) world := by
  induction rows with
  | nil => exact fun world others kept => ⟨kept, fun _ _ => Iff.rfl⟩
  | cons r rest ih =>
    intro world others kept
    have other := others r mem_cons_self
    apply ends_run
    · exact fun err => ⟨kept, fun _ _ => Iff.rfl⟩
    · intro choice result after ran
      obtain ⟨done, suspend, ⟨⟩⟩ := map_ok ran
      obtain ⟨users, amended, rfl⟩ := amendClientUser_ok suspend
      have keptNow := kept_amended kept amended other
      have goesOn := fun now => ih now fun other member => others other (mem_cons_of_mem _ member)
      apply ends_run
      · exact fun err => goesOn _ keptNow
      · intro choice result after ran
        cases ran
        refine ensures_mono ?_ (goesOn _ keptNow)
        intro result now later
        refine ⟨later.1, fun pair isKept => (later.2 pair isKept).trans ?_⟩
        have another : pair.1 ≠ r.1 := fun same => other (same ▸ isKept)
        simp [another]

theorem mem_activeDirectoryUsers (world : World) (orgID id sid : String) :
    (id, sid) ∈ activeDirectoryUsers world orgID ↔ ∃ row,
      world.clientUsers.rows.lookup id = some row ∧ fromDirectory orgID row = true ∧
        row.status = "active" ∧ row.details.scimExternalID.getD "" = sid := by
  simp [activeDirectoryUsers]
  grind [lookup_eq_some_iff]

/-- No client user of `keep` is an active user of the directory. -/
def Inactive (keep : String → Prop) (start : World) (orgID : String) : Prop :=
  ∀ id row, keep id → start.clientUsers.rows.lookup id = some row →
    ¬ (fromDirectory orgID row = true ∧ row.status = "active")

theorem offboardMissing_kept (inOrg : List String) (kept : KeptRows keep start world)
    (inactive : Inactive keep start orgID) :
    Ends env (fun _ now => KeptRows keep start now ∧ KeptMembers keep world now)
      (offboardMissing orgID inOrg) world := by
  apply ends_ask
  · exact fun err => ⟨kept, fun _ _ => Iff.rfl⟩
  · intro choice
    refine ensures_then (suspendAll_kept _ world ?_ kept) ?_
    · intro r member isKept
      have listed := (choice.pairs.perm _).subset (mem_of_mem_filter member)
      obtain ⟨row, found, isOwn, isActive, -⟩ :=
        (mem_activeDirectoryUsers world orgID r.1 r.2).mp listed
      rw [kept r.1 isKept] at found
      exact inactive r.1 row isKept found ⟨isOwn, isActive⟩
    · intro result now keptNow
      cases result <;> exact keptNow

def Offboards (row after : Account Profile) : Prop :=
  after = row ∨ ∃ time, after = connectorStatus time "suspended" offboardedReason row

theorem Offboards.trans {first second third : Account Profile} (before : Offboards first second)
    (after : Offboards second third) : Offboards first third := by
  rcases before with rfl | ⟨time, rfl⟩
  · exact after
  · rcases after with rfl | ⟨later, rfl⟩
    · exact .inr ⟨time, rfl⟩
    · exact .inr ⟨later, rfl⟩

theorem Offboards.suspended {after : Account Profile} (offboards : Offboards row after)
    (suspended : row.status = "suspended") : after.status = "suspended" := by
  rcases offboards with rfl | ⟨time, rfl⟩
  · exact suspended
  · rfl

theorem offboards_suspend {now : Time} {newID other : String} {after : World}
    {result : (Statement.suspendDirectoryUser other).Result}
    (ran : (Statement.suspendDirectoryUser other).run now newID world = .ok (result, after))
    (found : world.clientUsers.rows.lookup id = some row) :
    ∃ rowAfter, after.clientUsers.rows.lookup id = some rowAfter ∧ Offboards row rowAfter ∧
      (id = other → rowAfter.status = "suspended") := by
  obtain ⟨done, suspend, ⟨⟩⟩ := map_ok ran
  obtain ⟨users, amended, rfl⟩ := amendClientUser_ok suspend
  rw [amended, found]
  split_ifs with here
  · exact ⟨_, rfl, .inr ⟨now, rfl⟩, fun _ => rfl⟩
  · exact ⟨row, rfl, .inl rfl, fun same => absurd same here⟩

def NoNew (world now : World) : Prop :=
  ∀ id, world.clientUsers.rows.lookup id = none → now.clientUsers.rows.lookup id = none

theorem suspendAll_noNew (rows : List (String × String)) :
    ∀ world : World, Ends env (fun _ now => NoNew world now) (suspendAll rows)
      world := by
  induction rows with
  | nil => exact fun world id absent => absent
  | cons r rest ih =>
    intro world
    apply ends_run
    · exact fun err id absent => absent
    · intro choice result after ran
      obtain ⟨done, suspend, ⟨⟩⟩ := map_ok ran
      obtain ⟨users, amended, rfl⟩ := amendClientUser_ok suspend
      have absentStill : NoNew world { world with clientUsers := users } := by
        intro id absent
        rw [amended, absent]
        split_ifs <;> rfl
      have goesOn := fun now (same : NoNew world now) => ensures_mono
        (fun _ _ later id absent => later id (same id absent)) (ih now)
      apply ends_run
      · exact fun err => goesOn _ absentStill
      · rintro choice result after ⟨⟩
        exact goesOn _ absentStill

theorem offboardMissing_noNew (orgID : String) (inOrg : List String) (world : World) :
    Ends env (fun _ now => NoNew world now) (offboardMissing orgID inOrg) world := by
  apply ends_ask
  · exact fun err id absent => absent
  · intro choice
    refine ensures_then (suspendAll_noNew _ world) fun result now noNew => ?_
    cases result <;> exact noNew

theorem suspendAll_offboards (rows : List (String × String)) :
    ∀ world : World, Ends env (fun result now => ∀ id row,
      world.clientUsers.rows.lookup id = some row → ∃ rowAfter,
        now.clientUsers.rows.lookup id = some rowAfter ∧ Offboards row rowAfter ∧
          (result = .ok () → id ∈ rows.map Prod.fst → rowAfter.status = "suspended"))
      (suspendAll rows) world := by
  induction rows with
  | nil =>
    intro world id row found
    exact ⟨row, found, .inl rfl, fun _ member => by cases member⟩
  | cons r rest ih =>
    intro world
    apply ends_run
    · intro err id row found
      exact ⟨row, found, .inl rfl, fun isOk => by cases isOk⟩
    · intro choice result after ran
      have goesOn : ∀ between : World, between.clientUsers = after.clientUsers →
          Ends env (fun result now => ∀ id row, world.clientUsers.rows.lookup id = some row →
            ∃ rowAfter, now.clientUsers.rows.lookup id = some rowAfter ∧ Offboards row rowAfter ∧
              (result = .ok () → id ∈ (r :: rest).map Prod.fst → rowAfter.status = "suspended"))
            (suspendAll rest) between := by
        intro between same
        refine ensures_mono ?_ (ih between)
        intro result now offboards id row found
        obtain ⟨rowBetween, isBetween, first, hit⟩ := offboards_suspend ran found
        rw [← same] at isBetween
        obtain ⟨rowAfter, isAfter, second, later⟩ := offboards id rowBetween isBetween
        refine ⟨rowAfter, isAfter, first.trans second, fun isOk member => ?_⟩
        rw [map_cons, mem_cons] at member
        rcases member with here | isLater
        · exact second.suspended (hit here)
        · exact later isOk isLater
      apply ends_run
      · exact fun err => goesOn after rfl
      · intro choice cleared afterClear clear
        cases clear
        exact goesOn _ rfl

theorem offboardMissing_offboards (orgID : String) (inOrg : List String) (world : World) :
    Ends env (fun result now => ∀ id row, world.clientUsers.rows.lookup id = some row →
      ∃ rowAfter, now.clientUsers.rows.lookup id = some rowAfter ∧ Offboards row rowAfter ∧
        ∀ count, result = .ok count → fromDirectory orgID row = true → row.status = "active" →
          row.details.scimExternalID.getD "" ∉ inOrg → rowAfter.status = "suspended")
      (offboardMissing orgID inOrg) world := by
  apply ends_ask
  · intro err id row found
    exact ⟨row, found, .inl rfl, fun count isOk => by cases isOk⟩
  · intro choice
    refine ensures_then (suspendAll_offboards _ world) fun result now offboards => ?_
    have suspends : ∀ id row, world.clientUsers.rows.lookup id = some row →
        fromDirectory orgID row = true → row.status = "active" →
        row.details.scimExternalID.getD "" ∉ inOrg →
        id ∈ ((choice.pairs.visit (activeDirectoryUsers world orgID)).filter
          fun r => r.2 ∉ inOrg).map Prod.fst := by
      intro id row found isOwn isActive isOutside
      have listed := (mem_activeDirectoryUsers world orgID id _).mpr ⟨row, found, isOwn, isActive, rfl⟩
      refine List.mem_map.mpr ⟨(id, row.details.scimExternalID.getD ""), ?_, rfl⟩
      exact mem_filter.mpr ⟨(choice.pairs.perm _).symm.subset listed, by simpa using isOutside⟩
    cases result with
    | error err =>
      intro id row found
      grind
    | ok _ =>
      intro id row found
      obtain ⟨rowAfter, isAfter, offboarded, hit⟩ := offboards id row found
      exact ⟨rowAfter, isAfter, offboarded, fun count _ isOwn isActive isOutside =>
        hit rfl (suspends id row found isOwn isActive isOutside)⟩

theorem users_of_calls {α : Type} {p : Handled α}
    (calls : Calls (fun op => op.writesClientUsers = false) p) :
    Ends env (fun _ now => now.clientUsers = world.clientUsers) p world :=
  ensures_of_calls
    (fun choice now _ other same => ((exec_frame env choice now _).1 other).trans same)
    p world calls rfl

def Op.refills : Op → Prop
  | .statement (.replaceMembers ..) => True
  | _ => False

theorem Op.refills.other {op : Op} (refills : op.refills) :
    op.writesClientUsers = false ∧ op.writesGroups = false := by
  cases op with
  | query q => cases refills
  | statement s => cases s <;> first | exact ⟨rfl, rfl⟩ | cases refills

variable (users : List SnapUser) (clientIDs : Table String String)

variable (entries : List (Sigma fun _ : String => String))

theorem setMemberships_calls :
    Calls Op.refills (setMemberships users clientIDs entries) := by
  induction entries with
  | nil => exact trivial
  | cons entry rest ih =>
    simp [setMemberships, forall_except, Op.refills, ih]

theorem setMemberships_users (world : World) :
    Ends env (fun _ now => now.clientUsers = world.clientUsers)
      (setMemberships users clientIDs entries) world :=
  users_of_calls (calls_mono (fun _ refills => refills.other.1) (setMemberships_calls ..))

theorem memberIDs_others (gathered : Onboarding) (gsid : String)
    (others : GatheredOthers keep world gathered) (id : String)
    (member : id ∈ memberIDs users gathered.clientIDs gsid) :
    ¬ keep id ∧ (world.clientUsers.rows.lookup id).isSome := by
  obtain ⟨u, -, isMember⟩ := mem_filterMap.mp member
  split_ifs at isMember
  exact others u.sid id isMember

theorem setMemberships_kept (gathered : Onboarding)
    (entries : List (Sigma fun _ : String => String)) (pair : String × String) :
    ∀ world : World, GatheredOthers keep world gathered → keep pair.1 →
    (pair ∈ world.clientGroups → ∀ entry ∈ entries, entry.2 ≠ pair.2) →
    Ends env (fun _ now => pair ∈ now.clientGroups ↔ pair ∈ world.clientGroups)
      (setMemberships users gathered.clientIDs entries) world := by
  induction entries with
  | nil => exact fun world others isKept elsewhere => Iff.rfl
  | cons entry rest ih =>
    intro world others isKept elsewhere
    apply ends_run
    · exact fun err => Iff.rfl
    · intro choice result after ran
      obtain ⟨done, replace, ⟨⟩⟩ := map_ok ran
      obtain ⟨-, -, rfl⟩ := replaceMembers_ok replace
      have unchanged : pair ∈ addMembers entry.2
          (memberIDs users gathered.clientIDs entry.1)
          (world.clientGroups.filter fun old => old.2 ≠ entry.2) ↔ pair ∈ world.clientGroups := by
        rw [mem_addMembers, mem_filter, decide_eq_true_eq]
        constructor
        · intro either
          rcases either with ⟨old, -⟩ | ⟨joins, -⟩
          · exact old
          · exact absurd isKept (memberIDs_others users gathered entry.1 others pair.1 joins).1
        · grind
      refine ensures_mono (fun _ now later => later.trans unchanged) (ih _ others isKept ?_)
      grind

def Op.onboards (orgID : String) : Op → Prop
  | .query _ => True
  | .statement (.updateDirectoryUser ..) => True
  | .statement (.insertDirectoryUser org ..) => org = orgID
  | _ => False

theorem Op.onboards.other {op : Op} (onboards : op.onboards orgID) :
    op.writesMemberships = false ∧ op.writesGroups = false := by
  cases op with
  | query q => exact ⟨rfl, rfl⟩
  | statement s => cases s <;> first | exact ⟨rfl, rfl⟩ | cases onboards

theorem onboard_calls (orgID connectorID domain : String) (enabled : EnabledGroups)
    (users : List SnapUser) (gathered : Onboarding) : Calls (Op.onboards orgID)
      (onboard orgID connectorID domain enabled users gathered) := by
  induction users generalizing gathered with
  | nil => exact trivial
  | cons u rest ih =>
    simp [onboard, upsertClientUser, forall_except, Option.forall, Op.onboards, ih]

theorem onboard_groups (orgID connectorID domain : String) (enabled : EnabledGroups)
    (users : List SnapUser) (gathered : Onboarding) (world : World) :
    Ends env (fun _ now => now.clientGroups = world.clientGroups ∧ now.groups = world.groups)
      (onboard orgID connectorID domain enabled users gathered) world := by
  refine ensures_of_calls ?_ _ world (onboard_calls orgID connectorID domain enabled users gathered)
    ⟨rfl, rfl⟩
  intro choice now op onboards same
  exact ⟨((exec_frame env choice now op).2.2.1 onboards.other.1).trans same.1,
    ((exec_frame env choice now op).2.1 onboards.other.2).trans same.2⟩

def Op.offboards : Op → Prop
  | .query _ => True
  | .statement (.suspendDirectoryUser _) => True
  | .statement (.clearClientGroups _) => True
  | _ => False

theorem Op.offboards.other {op : Op} (offboards : op.offboards) : op.writesGroups = false := by
  cases op with
  | query q => rfl
  | statement s => cases s <;> first | rfl | cases offboards

theorem suspendAll_calls (rows : List (String × String)) :
    Calls Op.offboards (suspendAll rows) := by
  induction rows with
  | nil => exact trivial
  | cons r rest ih => simp [suspendAll, forall_except, Op.offboards, ih]

theorem offboardMissing_calls (orgID : String) (inOrg : List String) :
    Calls Op.offboards (offboardMissing orgID inOrg) := by
  simp [offboardMissing, suspendAll_calls, forall_except, Op.offboards]

theorem groups_of_calls {α : Type} {p : Handled α}
    (calls : Calls (fun op => op.writesGroups = false) p) :
    Ends env (fun _ now => now.groups = world.groups) p world :=
  ensures_of_calls
    (fun choice now _ other same => ((exec_frame env choice now _).2.1 other).trans same) p world calls
    rfl

theorem setMemberships_groups (world : World) :
    Ends env (fun _ now => now.groups = world.groups)
      (setMemberships users clientIDs entries) world :=
  groups_of_calls (calls_mono (fun _ refills => refills.other.2) (setMemberships_calls ..))

theorem offboardMissing_groups (orgID : String) (inOrg : List String) (world : World) :
    Ends env (fun _ now => now.groups = world.groups)
      (offboardMissing orgID inOrg) world :=
  groups_of_calls (calls_mono (fun _ offboards => offboards.other) (offboardMissing_calls orgID inOrg))

/-- A user of the snapshot that is enabled and a member of an imported group. -/
def Joins (world : World) (orgID : String) (u : SnapUser) : Prop :=
  u.enabled = true ∧ ∃ sid ∈ u.groupSIDs, ∃ id, (sid, id) ∈ importedGroups world orgID

variable {rows : List (String × String)}

theorem lookup_enabledGroups_mem {sid : String} :
    (enabledGroups rows).lookup sid = some id → (sid, id) ∈ rows := by
  have longer : ∀ (rows : List (String × String)) (table : EnabledGroups),
      (rows.foldl (fun groups row => groups.insert row.1 row.2) table).lookup sid = some id →
        (sid, id) ∈ rows ∨ table.lookup sid = some id := by
    intro rows
    induction rows with
    | nil => exact fun table found => .inr found
    | cons row rest ih =>
      grind [lookup_insert_if]
  intro found
  exact (longer rows ∅ found).resolve_right fun isEmpty => by simp at isEmpty

theorem joins_of_belongs {u : SnapUser} (subset : ∀ pair ∈ rows, pair ∈ importedGroups world orgID)
    (inside : belongs (enabledGroups rows) u = true) : Joins world orgID u := by
  simp [belongs, intersectsGroups] at inside
  obtain ⟨isEnabled, sid, member, isImported⟩ := inside
  obtain ⟨id, found⟩ := isSome_iff_exists.mp isImported
  exact ⟨isEnabled, sid, member, id, subset _ (lookup_enabledGroups_mem found)⟩

def rewrites (world : World) (orgID : String) (row : Group) : Bool :=
  prunes world orgID row ||
    (row.orgID = orgID && row.source = "ldap" && row.importEnabled && row.externalID.isSome)

/-- If the membership is there, its group is one that a pass leaves alone. -/
def SafeMember (world : World) (orgID : String) (pair : String × String) : Prop :=
  pair ∈ world.clientGroups →
    ∃ row, world.groups.lookup pair.2 = some row ∧ rewrites world orgID row = false

theorem bridgeGroups_member (connectorID orgID : String) (pair : String × String)
    (safe : SafeMember world orgID pair) :
    Ends env (fun _ now => pair ∈ now.clientGroups ↔ pair ∈ world.clientGroups)
      (DirectoryStore.bridgeGroups connectorID orgID) world := by
  by_cases member : pair ∈ world.clientGroups
  · obtain ⟨row, found, left⟩ := safe member
    rw [rewrites, or_eq_false_iff] at left
    exact ensures_mono (fun _ now stays => stays.members pair.1)
      (bridgeGroups_stays connectorID found left.1)
  · refine ensures_mono ?_ (bridgeGroups_bridged env connectorID orgID world)
    intro _ now bridged
    exact ⟨bridged.members pair, fun isMember => absurd isMember member⟩

theorem safe_elsewhere {pair : String × String} (safe : SafeMember world orgID pair)
    (subset : ∀ imported ∈ rows, imported ∈ importedGroups world orgID)
    (member : pair ∈ world.clientGroups) {entry : Sigma fun _ : String => String}
    (listed : entry ∈ (enabledGroups rows).entries) : entry.2 ≠ pair.2 := by
  intro same
  obtain ⟨row, found, left⟩ := safe member
  obtain ⟨other, isOther, isOrg, isSource, enabled, external⟩ :=
    (mem_importedGroups world orgID entry.1 entry.2).mp (subset _
      (lookup_enabledGroups_mem (lookup_eq_some_iff.mpr listed)))
  rw [same, found] at isOther
  cases isOther
  simp [rewrites, isOrg, isSource, enabled, external] at left

/-- A pass keeps the users that are active under no directory row and that no user who joins
matches, with their memberships in groups that it leaves alone. -/
theorem reconcile_kept {connectorID : String} (domain : String)
    (present : ∀ id, keep id → (world.clientUsers.rows.lookup id).isSome)
    (unmatched : ∀ u ∈ snapshotOf world connectorID, Joins world orgID u →
      Unmatched keep world orgID u.sid) (inactive : Inactive keep world orgID) :
    Ends env (fun _ now => KeptRows keep world now ∧ ∀ pair, keep pair.1 → SafeMember world orgID pair →
        (pair ∈ now.clientGroups ↔ pair ∈ world.clientGroups))
      (reconcile connectorID orgID domain) world := by
  have bridges := ensures_and (bridgeGroups_bridged env connectorID orgID world)
    (ensures_forall fun pair => ensures_forall fun safe =>
      bridgeGroups_member connectorID orgID pair safe)
  refine ensures_then bridges ?_
  rintro result bridgedWorld ⟨bridged, members⟩
  have kept : KeptRows keep world bridgedWorld := by
    intro id _
    rw [bridged.users]
  have early : KeptRows keep world bridgedWorld ∧ ∀ pair, keep pair.1 → SafeMember world orgID pair →
      (pair ∈ bridgedWorld.clientGroups ↔ pair ∈ world.clientGroups) :=
    ⟨kept, fun pair _ safe => members pair safe⟩
  cases result with
  | error err => exact early
  | ok counts =>
    apply ends_ask
    · exact fun err => early
    · intro groupsChoice
      have subset : ∀ imported ∈ (Query.importedGroups orgID).run env groupsChoice bridgedWorld,
          imported ∈ importedGroups world orgID :=
        fun imported listed => bridged.imported imported ((groupsChoice.pairs.perm _).subset listed)
      apply ends_ask
      · exact fun err => early
      · intro snapshotChoice
        refine ensures_then (ensures_and (onboard_kept orgID connectorID domain _ present _ ?_ {} _
          kept fun sid id listed => by simp at listed) (onboard_groups ..)) ?_
        · intro u member inside
          refine unmatched u ?_ (joins_of_belongs subset inside)
          have listed := (snapshotChoice.snapshot.perm _).subset member
          unfold snapshotOf at listed ⊢
          rw [bridged.connectorUsers] at listed
          exact listed
        · rintro gathered onboarded ⟨⟨keptNow, others⟩, sameGroups, -⟩
          have membersNow : ∀ pair, keep pair.1 → SafeMember world orgID pair →
              (pair ∈ onboarded.clientGroups ↔ pair ∈ world.clientGroups) := by
            grind
          refine ensures_then (ensures_and (offboardMissing_kept gathered.inOrg keptNow inactive)
            (offboardMissing_offboards orgID gathered.inOrg onboarded)) ?_
          rintro result offboarded ⟨⟨keptStill, membersStill⟩, stays⟩
          have membersLater : ∀ pair, keep pair.1 → SafeMember world orgID pair →
              (pair ∈ offboarded.clientGroups ↔ pair ∈ world.clientGroups) :=
            fun pair isKept safe => (membersStill pair isKept).trans (membersNow pair isKept safe)
          have othersStill : GatheredOthers keep offboarded gathered := by
            intro sid id listed
            obtain ⟨other, isThere⟩ := others sid id listed
            grind [isSome_iff_exists]
          cases result with
          | error err => exact ⟨keptStill, membersLater⟩
          | ok count =>
            refine ensures_then (ensures_and (setMemberships_users _ _ _ offboarded)
              (ensures_forall fun pair => ensures_forall fun isKept : keep pair.1 =>
                ensures_forall fun safe : SafeMember world orgID pair =>
                  setMemberships_kept _ gathered _ pair offboarded othersStill isKept ?_)) ?_
            · grind [safe_elsewhere]
            · rintro result now ⟨same, membersNow⟩
              refine ⟨fun id isKept => ?_, fun pair isKept safe => ?_⟩
              · rw [same]
                exact keptStill id isKept
              · exact (membersNow pair isKept safe).trans (membersLater pair isKept safe)

end ManagementPlane.Directory
