import ManagementPlane.Directory.Reconcile

/-!
# Bridging the groups of a connector

Which tables a statement writes, and what bridging does: it leaves the users alone, imports no
group, adds no member and drops a group with its members only if no connector lets it through.
-/

namespace ManagementPlane.Directory

open Interleave Tables Option
open Policy (Time)
open Sso (Account Accounts)

/-- What a statement does not write is as it was; the snapshots no statement writes. -/
structure StatementFrame (s : Statement) (world after : World) : Prop where
  users : s.writesClientUsers = false → after.clientUsers = world.clientUsers
  groups : s.writesGroups = false → after.groups = world.groups
  members : s.writesMemberships = false → after.clientGroups = world.clientGroups
  connectorUsers : after.connectorUsers = world.connectorUsers
  connectorGroups : after.connectorGroups = world.connectorGroups

theorem frame_run {now : Time} {newID : String} {world after : World} {s : Statement}
    {result : s.Result} (ran : s.run now newID world = .ok (result, after)) :
    StatementFrame s world after := by
  cases effect_run ran with
  | members writes set =>
    obtain ⟨-, -, -, rfl⟩ := setGroupMembers_ok set
    exact ⟨fun _ => rfl, fun _ => rfl, by simp [writes], rfl, rfl⟩
  | replaced writes replace =>
    obtain ⟨-, -, rfl⟩ := replaceMembers_ok replace
    exact ⟨fun _ => rfl, fun _ => rfl, by simp [writes], rfl, rfl⟩
  | deletedAdmin id => exact ⟨fun _ => rfl, fun _ => rfl, fun _ => rfl, rfl, rfl⟩
  | _ => constructor <;> simp_all [deleteClientUser, dropGroups]

def Op.writesClientUsers : Op → Bool
  | .query _ => false
  | .statement s => s.writesClientUsers

def Op.writesGroups : Op → Bool
  | .query _ => false
  | .statement s => s.writesGroups

def Op.writesMemberships : Op → Bool
  | .query _ => false
  | .statement s => s.writesMemberships

theorem exec_frame (env : Env) (choice : Choice) (world : World) (op : Op) :
    (op.writesClientUsers = false → (exec env choice world op).2.clientUsers = world.clientUsers) ∧
    (op.writesGroups = false → (exec env choice world op).2.groups = world.groups) ∧
    (op.writesMemberships = false → (exec env choice world op).2.clientGroups = world.clientGroups) ∧
    (exec env choice world op).2.connectorUsers = world.connectorUsers ∧
      (exec env choice world op).2.connectorGroups = world.connectorGroups := by
  cases op with
  | query q => exact ⟨fun _ => rfl, fun _ => rfl, fun _ => rfl, rfl, rfl⟩
  | statement s =>
    rcases statement_cases env choice world s with ⟨err, did⟩ | ⟨result, after, ran, did⟩
    · simp [did]
    · obtain ⟨users, groups, members, connectorUsers, connectorGroups⟩ := frame_run ran
      rw [did]
      exact ⟨users, groups, members, connectorUsers, connectorGroups⟩

theorem connectorUsers_same {α : Type} (env : Env) (p : Handled α) (world : World) :
    Ends env (fun _ now => now.connectorUsers = world.connectorUsers) p world := by
  suffices later : ∀ now : World, now.connectorUsers = world.connectorUsers →
      Ends env (fun _ after => after.connectorUsers = world.connectorUsers) p now from later world rfl
  induction p with
  | done a => exact fun now same => same
  | call op next ih =>
    intro now same choice _
    exact ih _ _ ((exec_frame env choice now op).2.2.2.1.trans same)

/-! ## Bridging -/

theorem mem_importedGroups (world : World) (orgID sid id : String) :
    (sid, id) ∈ importedGroups world orgID ↔ ∃ row, world.groups.lookup id = some row ∧
      row.orgID = orgID ∧ row.source = "ldap" ∧ row.importEnabled = true ∧
        row.externalID = some sid := by
  simp only [importedGroups, List.mem_filterMap]
  constructor
  · rintro ⟨entry, stored, isPair⟩
    split_ifs at isPair with imported
    obtain ⟨external, isExternal, ⟨⟩⟩ := map_eq_some_iff.mp isPair
    simp at imported
    exact ⟨entry.2, lookup_eq_some_iff.mpr stored, imported.1.1, imported.1.2, imported.2,
      isExternal⟩
  · grind [lookup_eq_some_iff]

def Op.links : Op → Prop
  | .query _ => True
  | .statement (.renameGroup ..) => True
  | .statement (.insertBridgedGroup ..) => True
  | _ => False

def Op.bridges (orgID : String) (op : Op) : Prop :=
  op.links ∨ op = .statement (.pruneGroups orgID)

attribute [local simp] forall_except Option.forall Op.links

theorem bridgeAll_calls (orgID : String) (groups : List (String × String)) (res : BridgeResult) :
    Calls Op.links (DirectoryStore.bridgeAll orgID res groups) := by
  induction groups generalizing res with
  | nil => exact trivial
  | cons g rest ih => simp [DirectoryStore.bridgeAll, DirectoryStore.bridgeGroup, ih]

theorem bridgeGroups_calls (connectorID orgID : String) :
    Calls (Op.bridges orgID) (DirectoryStore.bridgeGroups connectorID orgID) := by
  have bridges : ∀ groups, Calls (Op.bridges orgID) (DirectoryStore.bridgeAll orgID {} groups) :=
    fun groups => calls_mono (fun op => .inl) (bridgeAll_calls orgID groups {})
  simp [DirectoryStore.bridgeGroups, Op.bridges, bridges]

def Group.origin (row : Group) : String × String × Option String × Bool :=
  (row.orgID, row.source, row.externalID, row.importEnabled)

theorem prunes_congr {world now : World} {orgID : String} {row other : Group}
    (connectors : now.connectorGroups = world.connectorGroups) (same : other.origin = row.origin) :
    prunes now orgID other = prunes world orgID row := by
  obtain ⟨sameOrg, sameSource, sameExternal, -⟩ : other.orgID = row.orgID ∧
      other.source = row.source ∧ other.externalID = row.externalID ∧
      other.importEnabled = row.importEnabled := by
    simpa [Group.origin] using same
  rw [prunes, prunes, syncedSIDs, syncedSIDs, connectors, sameOrg, sameSource, sameExternal]

/-- A group that is still there, with its members. -/
structure GroupStays (start now : World) (g : String) (row : Group) : Prop where
  connectors : now.connectorGroups = start.connectorGroups
  group : ∃ rowNow, now.groups.lookup g = some rowNow ∧ rowNow.origin = row.origin
  members : ∀ user, (user, g) ∈ now.clientGroups ↔ (user, g) ∈ start.clientGroups

section
variable {env : Env} {start now after : World} {orgID g : String} {row : Group}

theorem stays_link {time : Time} {newID : String} {s : Statement} {result : s.Result}
    (stays : GroupStays start now g row) (isLink : (Op.statement s).links)
    (ran : s.run time newID now = .ok (result, after)) : GroupStays start after g row := by
  have frame := frame_run ran
  obtain ⟨rowNow, isNow, origin⟩ := stays.group
  cases s with
  | renameGroup groupID name =>
    refine ⟨frame.connectorGroups.trans stays.connectors, ?_, ?_⟩
    · obtain ⟨written, amend, ⟨⟩⟩ := map_ok ran
      obtain ⟨groups, -, amended, isAfter⟩ := amendGroup_ok amend
      rw [isAfter, amended, isNow]
      split_ifs
      · exact ⟨_, rfl, origin⟩
      · exact ⟨rowNow, rfl, origin⟩
    · rw [frame.members rfl]
      exact stays.members
  | insertBridgedGroup groupOrg name groupSID =>
    refine ⟨frame.connectorGroups.trans stays.connectors, ?_, ?_⟩
    · obtain ⟨done, insert, ⟨⟩⟩ := map_ok ran
      obtain ⟨groups, inserted, rfl⟩ := insertGroupRow_ok insert
      have another : g ≠ newID := by
        rintro rfl
        rw [inserted.fresh] at isNow
        cases isNow
      rw [inserted.lookup, if_neg another]
      exact ⟨rowNow, isNow, origin⟩
    · rw [frame.members rfl]
      exact stays.members
  | _ => cases isLink

theorem stays_prune (stays : GroupStays start now g row) (kept : prunes start orgID row = false) :
    GroupStays start (pruneGroups now orgID).2 g row := by
  obtain ⟨rowNow, isNow, origin⟩ := stays.group
  have keptNow : prunes now orgID rowNow = false := by
    rwa [prunes_congr stays.connectors origin]
  refine ⟨stays.connectors, ⟨rowNow, ?_, origin⟩, fun user => ?_⟩
  · change (dropGroups now fun _ other => prunes now orgID other).groups.lookup g = some rowNow
    rw [lookup_dropGroups, isNow]
    simp [keptNow]
  · rw [← stays.members user]
    change (user, g) ∈ now.clientGroups.filter _ ↔ _
    rw [List.mem_filter]
    simp [isNow, keptNow]

theorem stays_linked {op : Op} (choice : Choice) (stays : GroupStays start now g row)
    (isLink : op.links) : GroupStays start (exec env choice now op).2 g row := by
  cases op with
  | query q => exact stays
  | statement s =>
    rcases statement_cases env choice now s with ⟨err, did⟩ | ⟨result, after, ran, did⟩
    · rwa [did]
    · rw [did]
      exact stays_link stays isLink ran

theorem bridgeGroups_stays (connectorID : String) (found : start.groups.lookup g = some row)
    (kept : prunes start orgID row = false) :
    Ends env (fun _ now => GroupStays start now g row)
      (DirectoryStore.bridgeGroups connectorID orgID) start := by
  refine ensures_of_calls ?_ _ start (bridgeGroups_calls connectorID orgID)
    ⟨rfl, ⟨row, found, rfl⟩, fun _ => Iff.rfl⟩
  intro choice now op bridges stays
  rcases bridges with isLink | rfl
  · exact stays_linked choice stays isLink
  · rcases statement_cases env choice now (.pruneGroups orgID) with
      ⟨err, did⟩ | ⟨result, after, ran, did⟩
    · rwa [did]
    · rw [did]
      cases ran
      exact stays_prune stays kept

theorem bridge_memberships {choice : Choice} {op : Op} (bridges : op.bridges orgID)
    {pair : String × String} (member : pair ∈ (exec env choice now op).2.clientGroups) :
    pair ∈ now.clientGroups := by
  rcases bridges with isLink | rfl
  · have other : op.writesMemberships = false := by
      cases op with
      | query q => rfl
      | statement s => cases s <;> first | rfl | cases isLink
    rw [(exec_frame env choice now op).2.2.1 other] at member
    exact member
  · rcases statement_cases env choice now (.pruneGroups orgID) with
      ⟨err, did⟩ | ⟨result, after, ran, did⟩
    · rw [did] at member
      exact member
    · rw [did] at member
      cases ran
      exact List.mem_of_mem_filter member

end

/-- Bridging leaves the users alone, imports no group and adds no member. -/
structure Bridged (orgID : String) (world now : World) : Prop where
  users : now.clientUsers = world.clientUsers
  connectorUsers : now.connectorUsers = world.connectorUsers
  imported : ∀ pair ∈ importedGroups now orgID, pair ∈ importedGroups world orgID
  members : ∀ pair ∈ now.clientGroups, pair ∈ world.clientGroups

theorem imported_bridge {choice : Choice} {world after : World} {s : Statement} {result : s.Result}
    {orgID : String} (bridges : (Op.statement s).bridges orgID)
    (ran : s.run choice.now choice.newID world = .ok (result, after)) :
    ∀ pair ∈ importedGroups after orgID, pair ∈ importedGroups world orgID := by
  rintro ⟨sid, id⟩ listed
  rw [mem_importedGroups] at listed ⊢
  obtain ⟨row, found, isOrg, isSource, enabled, external⟩ := listed
  cases s with
  | renameGroup groupID name =>
    obtain ⟨written, amend, ⟨⟩⟩ := map_ok ran
    obtain ⟨groups, -, amended, isAfter⟩ := amendGroup_ok amend
    rw [isAfter] at found
    rw [amended] at found
    split_ifs at found
    · grind [map_eq_some_iff]
    · exact ⟨row, found, isOrg, isSource, enabled, external⟩
  | insertBridgedGroup groupOrg name groupSID =>
    obtain ⟨done, insert, ⟨⟩⟩ := map_ok ran
    obtain ⟨groups, inserted, rfl⟩ := insertGroupRow_ok insert
    rw [inserted.lookup] at found
    split_ifs at found
    · cases found
      cases enabled
    · exact ⟨row, found, isOrg, isSource, enabled, external⟩
  | pruneGroups groupOrg =>
    cases ran
    grind [lookup_dropGroups, bind_eq_some_iff]
  | _ =>
    rcases bridges with isLink | isPrune
    · cases isLink
    · cases isPrune

theorem bridgeGroups_bridged (env : Env) (connectorID orgID : String) (world : World) :
    Ends env (fun _ now => Bridged orgID world now)
      (DirectoryStore.bridgeGroups connectorID orgID) world := by
  refine ensures_of_calls ?_ _ world (bridgeGroups_calls connectorID orgID)
    ⟨rfl, rfl, fun _ listed => listed, fun _ member => member⟩
  intro choice now op bridges bridged
  have other : op.writesClientUsers = false := by
    rcases bridges with isLink | isPrune
    · cases op with
      | query q => rfl
      | statement s => cases s <;> first | rfl | cases isLink
    · rw [isPrune]
      rfl
  refine ⟨((exec_frame env choice now _).1 other).trans bridged.users,
    (exec_frame env choice now op).2.2.2.1.trans bridged.connectorUsers, ?_,
    fun pair member => bridged.members pair (bridge_memberships bridges member)⟩
  intro pair listed
  apply bridged.imported pair
  cases op with
  | query q => exact listed
  | statement s =>
    rcases statement_cases env choice now s with ⟨err, did⟩ | ⟨result, after, ran, did⟩
    · rw [did] at listed
      exact listed
    · grind [imported_bridge]

end ManagementPlane.Directory
