import ManagementPlane.Directory.Store
import ManagementPlane.Lib.Alone

/-!
# What the statements of the directory do

For each statement that succeeds, the row that it inserts, changes or removes; the other
tables of the world it leaves are those it found. From this follows that no statement
leaves a membership without its user or its group.
-/

open List Option

namespace ManagementPlane.Sso.Accounts

open Tables
open Policy (Time)

variable {Details : Type} (accounts : Accounts Details) {after : Accounts Details}

theorem add_inserted {id : String} {row : Account Details}
    (added : accounts.add id row = .ok after) : Inserted accounts.rows after.rows id row where
  fresh := (accounts.lookup_add id id row after added).1
  lookup := fun other => (accounts.lookup_add id other row after added).2

theorem amend_amended {id : String} {f : Account Details → Account Details}
    {result : Option (Account Details)} (written : accounts.amend id f = .ok (result, after)) :
    Amended accounts.rows after.rows id f :=
  fun other => (accounts.lookup_amend id other f result after written).2

theorem touch_amended {id : String} {now : Time}
    (touched : accounts.touch (fun _ => true) id now = .ok after) :
    Amended accounts.rows after.rows id fun row => { row with lastLoginAt := some now } := by
  unfold touch at touched
  split at touched
  · grind [amended_of_absent]
  · cases touched
    exact fun other => lookup_updateRow ..

theorem link_amended {id provider subject : String} {now : Time}
    (linked : accounts.link (fun _ => true) id provider subject now = .ok after) :
    Amended accounts.rows after.rows id fun row =>
      { row with
        oauthProvider := some provider
        oauthSubject := some subject
        lastLoginAt := some now } := by
  unfold link at linked
  split at linked
  · grind [amended_of_absent]
  · split_ifs at linked with hidden long held
    · contradiction
    · cases linked
      exact fun other => lookup_updateRow ..

theorem register_inserted {id orgID email name provider subject : String} {details : Details}
    {now : Time} (registered : accounts.register (fun _ => true) id orgID email name provider
      subject details now = .ok after) :
    Inserted accounts.rows after.rows id
      { orgID := orgID
        email := email
        name := name
        status := "active"
        oauthProvider := some provider
        oauthSubject := some subject
        lastLoginAt := some now
        details := details } := by
  unfold register at registered
  split_ifs at registered with hidden long used
  cases registered
  refine ⟨?_, fun other => lookup_insert_if ..⟩
  exact not_isSome_iff_eq_none.mp fun present => used (.inl present)

end ManagementPlane.Sso.Accounts

namespace ManagementPlane.Directory

open Interleave Tables
open Policy (Time)
open Sso (Account Accounts)

section
variable {now : Time} {newID : String} {world after : World}

attribute [local simp] bind Except.bind throw throwThe MonadExceptOf.throw pure Except.pure

theorem insertAdminUser_ok {u result : SCIMUser}
    (ran : insertAdminUser now newID world u = .ok (result, after)) :
    ∃ row admins, row.orgID = u.orgID ∧ result = adminRecord newID row ∧
      Inserted world.admins.rows admins.rows newID row ∧ after = { world with admins := admins } := by
  unfold insertAdminUser at ran
  simp at ran
  split_ifs at ran
  split at ran <;> cases ran
  rename_i added
  exact ⟨_, _, rfl, rfl, world.admins.add_inserted added, rfl⟩

variable {id : String} {result : Option SCIMUser}

theorem updateAdminUser_ok {u : SCIMUser}
    (ran : updateAdminUser now world id u = .ok (result, after)) :
    ∃ f admins, (∀ row, (f row).orgID = row.orgID) ∧
      Amended world.admins.rows admins.rows id f ∧ after = { world with admins := admins } := by
  unfold updateAdminUser at ran
  simp at ran
  split_ifs at ran
  split at ran <;> cases ran
  rename_i written
  refine ⟨_, _, ?_, world.admins.amend_amended written, rfl⟩
  exact fun row => rfl

theorem insertClientUser_ok {u result : SCIMUser}
    (ran : insertClientUser now newID world u = .ok (result, after)) :
    ∃ row clientUsers, row.orgID = u.orgID ∧ row.oauthProvider = nilIfEmpty u.oauthProvider ∧
      result = clientRecord newID row ∧
      Inserted world.clientUsers.rows clientUsers.rows newID row ∧
      after = { world with clientUsers := clientUsers } := by
  unfold insertClientUser at ran
  simp at ran
  split_ifs at ran
  split at ran <;> cases ran
  rename_i added
  exact ⟨_, _, rfl, rfl, rfl, world.clientUsers.add_inserted added, rfl⟩

theorem updateClientUser_ok {u : SCIMUser}
    (ran : updateClientUser now world id u = .ok (result, after)) :
    ∃ clientUsers, result = ((world.clientUsers.rows.lookup id).map (scimUpdate now u)).map
        (clientRecord id) ∧
      Amended world.clientUsers.rows clientUsers.rows id (scimUpdate now u) ∧
      after = { world with clientUsers := clientUsers } := by
  unfold updateClientUser at ran
  simp at ran
  split_ifs at ran
  split at ran <;> cases ran
  rename_i written
  refine ⟨_, ?_, world.clientUsers.amend_amended written, rfl⟩
  rw [(world.clientUsers.lookup_amend id id _ _ _ written).1]

theorem insertGroupRow_ok {row : Group} (ran : insertGroupRow newID world row = .ok after) :
    ∃ groups, Inserted world.groups groups newID row ∧ after = { world with groups := groups } := by
  unfold insertGroupRow at ran
  simp only [bind, Except.bind, throw, throwThe, MonadExceptOf.throw, pure, Except.pure] at ran
  split_ifs at ran with missing long used
  cases ran
  rw [Bool.or_eq_true, not_or] at used
  exact ⟨_, ⟨not_isSome_iff_eq_none.mp used.1, fun other => lookup_insert_if ..⟩, rfl⟩

theorem insertGroup_ok {g result : SCIMGroup}
    (ran : insertGroup now newID world g = .ok (result, after)) :
    ∃ row groups, row.orgID = g.orgID ∧ result = groupRecord newID row ∧
      Inserted world.groups groups newID row ∧ after = { world with groups := groups } := by
  unfold insertGroup at ran
  simp at ran
  grind [insertGroupRow_ok]

theorem amendGroup_ok {f : Group → Group} {result : Option Group}
    (ran : amendGroup world id f = .ok (result, after)) :
    ∃ groups, result = (world.groups.lookup id).map f ∧ Amended world.groups groups id f ∧
      after = { world with groups := groups } := by
  unfold amendGroup at ran
  cases found : world.groups.lookup id with
  | none =>
    simp only [found] at ran
    cases ran
    exact ⟨world.groups, rfl, amended_of_absent found, rfl⟩
  | some row =>
    simp [found] at ran
    split_ifs at ran
    cases ran
    refine ⟨_, rfl, ?_, rfl⟩
    intro other
    rw [lookup_insert_if]
    split_ifs with here
    · rw [here, found]
      rfl
    · rfl

theorem updateGroup_ok {g : SCIMGroup} {result : Option SCIMGroup}
    (ran : updateGroup now world id g = .ok (result, after)) :
    ∃ f groups, (∀ row, f row = { row with
        displayName := g.displayName
        externalID := nilIfEmpty g.externalID
        updatedAt := now }) ∧
      result = ((world.groups.lookup id).map f).map (groupRecord id) ∧
      Amended world.groups groups id f ∧ after = { world with groups := groups } := by
  unfold updateGroup at ran
  simp at ran
  split at ran <;> cases ran
  rename_i written
  obtain ⟨groups, isRow, amended, same⟩ := amendGroup_ok written
  refine ⟨_, groups, ?_, ?_, amended, same⟩
  · exact fun row => rfl
  · exact congrArg (Option.map (groupRecord id)) isRow

theorem mem_addMembers {groupID : String} {members : List String} {rows : List (String × String)}
    {pair : String × String} :
    pair ∈ addMembers groupID members rows ↔ pair ∈ rows ∨ (pair.1 ∈ members ∧ pair.2 = groupID) := by
  unfold addMembers
  induction members generalizing rows with
  | nil => simp
  | cons id rest ih =>
    obtain ⟨user, group⟩ := pair
    rw [foldl_cons, ih]
    split_ifs with here
    · constructor
      all_goals grind
    · grind

theorem setGroupMembers_ok {groupID : String} {adminIDs clientIDs : List String}
    (ran : setGroupMembers world groupID adminIDs clientIDs = .ok after) :
    (adminIDs ≠ [] ∨ clientIDs ≠ [] → (world.groups.lookup groupID).isSome) ∧
      (∀ id ∈ adminIDs, (world.admins.rows.lookup id).isSome) ∧
      (∀ id ∈ clientIDs, (world.clientUsers.rows.lookup id).isSome) ∧
      after =
        { world with
          adminGroups := addMembers groupID adminIDs
            (world.adminGroups.filter fun entry => entry.2 ≠ groupID)
          clientGroups := addMembers groupID clientIDs
            (world.clientGroups.filter fun entry => entry.2 ≠ groupID) } := by
  unfold setGroupMembers at ran
  split_ifs at ran with missing admins clients
  cases ran
  simp at missing admins clients
  simpa [isSome_iff_ne_none] using ⟨missing, admins, clients⟩

theorem replaceMembers_ok {groupID : String} {memberIDs : List String}
    (ran : replaceMembers world groupID memberIDs = .ok after) :
    (memberIDs ≠ [] → (world.groups.lookup groupID).isSome) ∧
      (∀ id ∈ memberIDs, (world.clientUsers.rows.lookup id).isSome) ∧
      after =
        { world with
          clientGroups := addMembers groupID memberIDs
            (world.clientGroups.filter fun entry => entry.2 ≠ groupID) } := by
  unfold replaceMembers at ran
  split_ifs at ran with missing clients
  cases ran
  simp at missing clients
  simpa [isSome_iff_ne_none] using ⟨missing, clients⟩

theorem amendClientUser_ok {f : Account Profile → Account Profile}
    (ran : amendClientUser world id f = .ok after) :
    ∃ clientUsers, Amended world.clientUsers.rows clientUsers.rows id f ∧
      after = { world with clientUsers := clientUsers } := by
  unfold amendClientUser at ran
  simp at ran
  split at ran <;> cases ran
  rename_i written
  exact ⟨_, world.clientUsers.amend_amended written, rfl⟩

theorem updateDirectoryUser_ok {name email : String}
    (ran : updateDirectoryUser now world id name email = .ok after) :
    ∃ clientUsers, Amended world.clientUsers.rows clientUsers.rows id
        (fun row => connectorStatus now "active" onboardedReason
          { row with name := name, email := email }) ∧
      after = { world with clientUsers := clientUsers } := by
  unfold updateDirectoryUser at ran
  simp at ran
  split_ifs at ran
  exact amendClientUser_ok ran

theorem insertDirectoryUser_ok {orgID email name sid connectorID result : String}
    (ran : insertDirectoryUser now newID world orgID email name sid connectorID =
      .ok (result, after)) :
    ∃ row clientUsers, result = newID ∧ row.orgID = orgID ∧ row.status = "active" ∧
      row.oauthProvider = some provisionSource ∧ row.oauthSubject = some sid ∧
      row.details.scimExternalID = some sid ∧ row.details.idpID = some connectorID ∧
      row.details.statusSource = some "connector" ∧
      Inserted world.clientUsers.rows clientUsers.rows newID row ∧
      after = { world with clientUsers := clientUsers } := by
  unfold insertDirectoryUser at ran
  simp at ran
  split_ifs at ran
  split at ran <;> cases ran
  rename_i added
  exact ⟨_, _, rfl, rfl, rfl, rfl, rfl, rfl, rfl, rfl, world.clientUsers.add_inserted added, rfl⟩

theorem registerClientUser_ok {orgID email name provider subject : String} {result : SCIMUser}
    (ran : registerClientUser now newID world orgID email name provider subject =
      .ok (result, after)) :
    ∃ row clientUsers, row.orgID = orgID ∧ row.oauthProvider = some provider ∧
      row.oauthSubject = some subject ∧ result.id = newID ∧
      Inserted world.clientUsers.rows clientUsers.rows newID row ∧
      after = { world with clientUsers := clientUsers } := by
  unfold registerClientUser at ran
  simp at ran
  split_ifs at ran
  split at ran <;> cases ran
  rename_i added
  exact ⟨_, _, rfl, rfl, rfl, rfl, world.clientUsers.register_inserted added, rfl⟩

theorem reactivateClientUser_ok {orgID actorID reason : String}
    (ran : reactivateClientUser now world orgID id actorID reason = .ok (result, after)) :
    ∃ f clientUsers, Amended world.clientUsers.rows clientUsers.rows id f ∧
      after = { world with clientUsers := clientUsers } := by
  unfold reactivateClientUser at ran
  simp at ran
  split_ifs at ran
  · cases ran
    refine ⟨fun row => row, world.clientUsers, ?_, rfl⟩
    intro other
    simp
  · split at ran
    · cases ran
    · rename_i written
      cases ran
      exact ⟨_, _, world.clientUsers.amend_amended written, rfl⟩

theorem lookup_dropGroups (world : World) (drops : String → Group → Bool) (id : String) :
    (dropGroups world drops).groups.lookup id =
      (world.groups.lookup id).bind fun row => if drops id row then none else some row :=
  lookup_updateAll ..

end

/-! ## Foreign keys -/

/-- Both ends of every membership are there. -/
structure ForeignKeys (world : World) : Prop where
  adminMembers : ∀ pair ∈ world.adminGroups,
    (world.admins.rows.lookup pair.1).isSome ∧ (world.groups.lookup pair.2).isSome
  clientMembers : ∀ pair ∈ world.clientGroups,
    (world.clientUsers.rows.lookup pair.1).isSome ∧ (world.groups.lookup pair.2).isSome

structure Database where
  world : World
  keys : ForeignKeys world

section
variable {world after : World}

section
variable (keys : ForeignKeys world)

include keys

theorem ForeignKeys.withAdmins (admins : Accounts AdminProfile)
    (grows : ∀ id, (world.admins.rows.lookup id).isSome → (admins.rows.lookup id).isSome) :
    ForeignKeys { world with admins := admins } where
  adminMembers := fun pair member =>
    ⟨grows _ (keys.adminMembers pair member).1, (keys.adminMembers pair member).2⟩
  clientMembers := keys.clientMembers

theorem ForeignKeys.withClientUsers (clientUsers : Accounts Profile)
    (grows : ∀ id, (world.clientUsers.rows.lookup id).isSome → (clientUsers.rows.lookup id).isSome) :
    ForeignKeys { world with clientUsers := clientUsers } where
  adminMembers := keys.adminMembers
  clientMembers := fun pair member =>
    ⟨grows _ (keys.clientMembers pair member).1, (keys.clientMembers pair member).2⟩

theorem ForeignKeys.withGroups (groups : Table String Group)
    (grows : ∀ id, (world.groups.lookup id).isSome → (groups.lookup id).isSome) :
    ForeignKeys { world with groups := groups } where
  adminMembers := fun pair member =>
    ⟨(keys.adminMembers pair member).1, grows _ (keys.adminMembers pair member).2⟩
  clientMembers := fun pair member =>
    ⟨(keys.clientMembers pair member).1, grows _ (keys.clientMembers pair member).2⟩

theorem foreignKeys_deleteAdminUser (id : String) : ForeignKeys (deleteAdminUser world id).2 where
  adminMembers := by
    intro pair member
    obtain ⟨old, other⟩ := mem_filter.mp member
    refine ⟨?_, (keys.adminMembers pair old).2⟩
    rw [deleteAdminUser, Accounts.lookup_remove, if_neg (of_decide_eq_true other)]
    exact (keys.adminMembers pair old).1
  clientMembers := keys.clientMembers

theorem foreignKeys_deleteClientUser (id : String) : ForeignKeys (deleteClientUser world id).2 where
  adminMembers := keys.adminMembers
  clientMembers := by
    intro pair member
    obtain ⟨old, other⟩ := mem_filter.mp member
    refine ⟨?_, (keys.clientMembers pair old).2⟩
    rw [deleteClientUser, Accounts.lookup_remove, if_neg (of_decide_eq_true other)]
    exact (keys.clientMembers pair old).1

end

theorem isSome_dropGroups {drops : String → Group → Bool} {id : String}
    (present : (world.groups.lookup id).isSome)
    (stays : (!((world.groups.lookup id).map (drops id)).getD false) = true) :
    ((dropGroups world drops).groups.lookup id).isSome := by
  rw [lookup_dropGroups]
  grind [isSome_iff_exists]

theorem foreignKeys_dropGroups (keys : ForeignKeys world) (drops : String → Group → Bool) :
    ForeignKeys (dropGroups world drops) where
  adminMembers := by
    intro pair member
    obtain ⟨old, stays⟩ := mem_filter.mp member
    exact ⟨(keys.adminMembers pair old).1, isSome_dropGroups (keys.adminMembers pair old).2 stays⟩
  clientMembers := by
    intro pair member
    obtain ⟨old, stays⟩ := mem_filter.mp member
    exact ⟨(keys.clientMembers pair old).1, isSome_dropGroups (keys.clientMembers pair old).2 stays⟩

theorem foreignKeys_setGroupMembers (keys : ForeignKeys world) {groupID : String}
    {adminIDs clientIDs : List String}
    (ran : setGroupMembers world groupID adminIDs clientIDs = .ok after) : ForeignKeys after := by
  obtain ⟨group, admins, clients, rfl⟩ := setGroupMembers_ok ran
  constructor
  · intro pair member
    rcases mem_addMembers.mp member with old | ⟨isNew, same⟩
    · exact keys.adminMembers pair (mem_of_mem_filter old)
    · grind
  · intro pair member
    rcases mem_addMembers.mp member with old | ⟨isNew, same⟩
    · exact keys.clientMembers pair (mem_of_mem_filter old)
    · grind

theorem foreignKeys_replaceMembers (keys : ForeignKeys world) {groupID : String}
    {memberIDs : List String} (ran : replaceMembers world groupID memberIDs = .ok after) :
    ForeignKeys after := by
  obtain ⟨group, clients, rfl⟩ := replaceMembers_ok ran
  constructor
  · exact keys.adminMembers
  · intro pair member
    rcases mem_addMembers.mp member with old | ⟨isNew, same⟩
    · exact keys.clientMembers pair (mem_of_mem_filter old)
    · grind

end

def Statement.writesClientUsers : Statement → Bool
  | .insertClientUser _ | .updateClientUser .. | .deleteClientUser _ | .touchClientUser _
  | .linkClientUser .. | .registerClientUser .. | .updateDirectoryUser .. | .insertDirectoryUser ..
  | .suspendDirectoryUser _ | .reactivateClientUser .. => true
  | _ => false

def Statement.writesGroups : Statement → Bool
  | .insertGroup _ | .updateGroup .. | .deleteGroup _ | .renameGroup .. | .insertBridgedGroup ..
  | .pruneGroups _ => true
  | _ => false

def Statement.writesMemberships : Statement → Bool
  | .deleteAdminUser _ | .deleteClientUser _ | .deleteGroup _ | .setGroupMembers .. | .pruneGroups _
  | .clearClientGroups _ | .replaceMembers .. => true
  | _ => false

/-- What a statement can do to the tables that it writes: accounts and groups are added and
amended, and what is deleted takes its memberships with it. -/
inductive Effect (world : World) (s : Statement) : World → Prop
  | admins (admins : Accounts AdminProfile)
      (grows : ∀ id, (world.admins.rows.lookup id).isSome → (admins.rows.lookup id).isSome) :
      Effect world s { world with admins := admins }
  | users (writes : s.writesClientUsers = true) (users : Accounts Profile)
      (grows : ∀ id, (world.clientUsers.rows.lookup id).isSome → (users.rows.lookup id).isSome) :
      Effect world s { world with clientUsers := users }
  | groups (writes : s.writesGroups = true) (groups : Table String Group)
      (grows : ∀ id, (world.groups.lookup id).isSome → (groups.lookup id).isSome) :
      Effect world s { world with groups := groups }
  | deletedAdmin (id : String) : Effect world s (deleteAdminUser world id).2
  | deletedUser (id : String) (writes : s.writesClientUsers = true ∧ s.writesMemberships = true) :
      Effect world s (deleteClientUser world id).2
  | dropped (drops : String → Group → Bool)
      (writes : s.writesGroups = true ∧ s.writesMemberships = true) :
      Effect world s (dropGroups world drops)
  | members {after : World} {groupID : String} {adminIDs clientIDs : List String}
      (writes : s.writesMemberships = true)
      (set : setGroupMembers world groupID adminIDs clientIDs = .ok after) : Effect world s after
  | replaced {after : World} {groupID : String} {memberIDs : List String}
      (writes : s.writesMemberships = true)
      (replace : replaceMembers world groupID memberIDs = .ok after) : Effect world s after
  | cleared (stays : String × String → Bool) (writes : s.writesMemberships = true) :
      Effect world s { world with clientGroups := world.clientGroups.filter stays }

theorem effect_run {now : Time} {newID : String} {world after : World} {s : Statement}
    {result : s.Result} (ran : s.run now newID world = .ok (result, after)) : Effect world s after := by
  cases s with
  | insertAdminUser u =>
    obtain ⟨row, admins, -, -, inserted, rfl⟩ := insertAdminUser_ok ran
    exact .admins admins inserted.isSome
  | updateAdminUser id u =>
    obtain ⟨f, admins, -, amended, rfl⟩ := updateAdminUser_ok ran
    exact .admins admins fun other => (amended.isSome other).trans
  | deleteAdminUser id =>
    cases ran
    exact .deletedAdmin id
  | insertClientUser u =>
    obtain ⟨row, users, -, -, -, inserted, rfl⟩ := insertClientUser_ok ran
    exact .users rfl users inserted.isSome
  | updateClientUser id u =>
    obtain ⟨users, -, amended, rfl⟩ := updateClientUser_ok ran
    exact .users rfl users fun other => (amended.isSome other).trans
  | deleteClientUser id =>
    cases ran
    exact .deletedUser id ⟨rfl, rfl⟩
  | insertGroup g =>
    obtain ⟨row, groups, -, -, inserted, rfl⟩ := insertGroup_ok ran
    exact .groups rfl groups inserted.isSome
  | updateGroup id g =>
    obtain ⟨f, groups, -, -, amended, rfl⟩ := updateGroup_ok ran
    exact .groups rfl groups fun other => (amended.isSome other).trans
  | deleteGroup id | pruneGroups orgID =>
    cases ran
    exact .dropped _ ⟨rfl, rfl⟩
  | setGroupMembers groupID adminIDs clientIDs =>
    obtain ⟨done, set, ⟨⟩⟩ := map_ok ran
    exact .members rfl set
  | touchClientUser id =>
    obtain ⟨users, touched, ⟨⟩⟩ := map_ok ran
    exact .users rfl users fun other =>
      ((world.clientUsers.touch_amended touched).isSome other).trans
  | linkClientUser id provider subject =>
    obtain ⟨users, linked, ⟨⟩⟩ := map_ok ran
    exact .users rfl users fun other =>
      ((world.clientUsers.link_amended linked).isSome other).trans
  | registerClientUser orgID email name provider subject =>
    obtain ⟨row, users, -, -, -, -, inserted, rfl⟩ :=
      registerClientUser_ok ran
    exact .users rfl users inserted.isSome
  | renameGroup id name =>
    obtain ⟨written, amend, ⟨⟩⟩ := map_ok ran
    obtain ⟨groups, -, amended, isAfter⟩ := amendGroup_ok amend
    rw [isAfter]
    exact .groups rfl groups fun other => (amended.isSome other).trans
  | insertBridgedGroup orgID name sid =>
    obtain ⟨done, insert, ⟨⟩⟩ := map_ok ran
    obtain ⟨groups, inserted, rfl⟩ := insertGroupRow_ok insert
    exact .groups rfl groups inserted.isSome
  | updateDirectoryUser id name email =>
    obtain ⟨done, update, ⟨⟩⟩ := map_ok ran
    obtain ⟨users, amended, rfl⟩ := updateDirectoryUser_ok update
    exact .users rfl users fun other => (amended.isSome other).trans
  | insertDirectoryUser orgID email name sid connectorID =>
    obtain ⟨row, users, -, -, -, -, -, -, -, -, inserted, rfl⟩ :=
      insertDirectoryUser_ok ran
    exact .users rfl users inserted.isSome
  | suspendDirectoryUser id =>
    obtain ⟨done, suspend, ⟨⟩⟩ := map_ok ran
    obtain ⟨users, amended, rfl⟩ := amendClientUser_ok suspend
    exact .users rfl users fun other => (amended.isSome other).trans
  | clearClientGroups id =>
    cases ran
    exact .cleared _ rfl
  | replaceMembers groupID memberIDs =>
    obtain ⟨done, replace, ⟨⟩⟩ := map_ok ran
    exact .replaced rfl replace
  | reactivateClientUser orgID id actorID reason =>
    obtain ⟨f, users, amended, rfl⟩ :=
      reactivateClientUser_ok ran
    exact .users rfl users fun other => (amended.isSome other).trans

theorem foreignKeys_run {now : Time} {newID : String} {world after : World} {s : Statement}
    {result : s.Result} (ran : s.run now newID world = .ok (result, after))
    (keys : ForeignKeys world) : ForeignKeys after := by
  cases effect_run ran with
  | admins admins grows => exact keys.withAdmins admins grows
  | users _ users grows => exact keys.withClientUsers users grows
  | groups _ groups grows => exact keys.withGroups groups grows
  | deletedAdmin id => exact foreignKeys_deleteAdminUser keys id
  | deletedUser id => exact foreignKeys_deleteClientUser keys id
  | dropped drops => exact foreignKeys_dropGroups keys drops
  | members _ set => exact foreignKeys_setGroupMembers keys set
  | replaced _ replace => exact foreignKeys_replaceMembers keys replace
  | cleared stays =>
    exact ⟨keys.adminMembers, fun pair member =>
      keys.clientMembers pair (mem_of_mem_filter member)⟩

theorem foreignKeys_exec (env : Env) (choice : Choice) {world : World} (op : Op)
    (keys : ForeignKeys world) : ForeignKeys (exec env choice world op).2 := by
  cases op with
  | query q => exact keys
  | statement s =>
    rcases statement_cases env choice world s with ⟨err, failed⟩ | ⟨result, after, ran, did⟩
    · rwa [failed]
    · rw [did]
      exact foreignKeys_run ran keys

variable {α : Type} {env : Env} {Post : α → World → Prop} {world : World}

/-- However its operations turn out, the program ends with the postcondition. -/
abbrev Ends (env : Env) (Post : α → World → Prop) : Handled α → World → Prop :=
  Ensures (exec env) (fun _ => True) Post

theorem ends_ask (q : Query) (next : Except String q.Result → Handled α)
    (failed : ∀ err, Ends env Post (next (.error err)) world)
    (answered : ∀ choice, Ends env Post (next (.ok (q.run env choice world))) world) :
    Ends env Post (ask q >>= next) world := by
  intro choice _
  change Ends env Post (next (attempt choice (.ok (q.run env choice world)))) world
  cases failure : choice.failure with
  | some err =>
    rw [attempt, failure]
    exact failed err
  | none =>
    rw [attempt, failure]
    exact answered choice

theorem ends_run (s : Statement) (next : Except String s.Result → Handled α)
    (failed : ∀ err, Ends env Post (next (.error err)) world)
    (ran : ∀ (choice : Choice) result after, s.run choice.now choice.newID world = .ok (result, after) →
      Ends env Post (next (.ok result)) after) :
    Ends env Post (run s >>= next) world := by
  intro choice _
  rcases statement_cases env choice world s with ⟨err, did⟩ | ⟨result, after, wrote, did⟩
  · rw [did]
    exact failed err
  · rw [did]
    exact ran choice result after wrote

end ManagementPlane.Directory
