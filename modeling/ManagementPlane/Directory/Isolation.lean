import ManagementPlane.Directory.Effects
import ManagementPlane.Directory.Scim

/-!
# Which SCIM requests stay inside an organization

A SCIM token belongs to one organization. A request is isolated when it leaves the client
users, groups and memberships of all others as they are and its reply renders none of them.
Requests without an id are, except for the list of groups; a request with an id is not
confined to the organization of its token, so that it is isolated exactly where the row with
that id, and the memberships that hang on it, belong to the organization.
-/

namespace ManagementPlane.Directory

open Interleave Tables List
open Sso (Account Accounts)

section
variable (orgID : String) (world : World)

def OtherAdmin (id : String) : Prop :=
  ∃ row, world.admins.rows.lookup id = some row ∧ row.orgID ≠ orgID

def OtherUser (id : String) : Prop :=
  ∃ row, world.clientUsers.rows.lookup id = some row ∧ row.orgID ≠ orgID

def OtherGroup (id : String) : Prop :=
  ∃ row, world.groups.lookup id = some row ∧ row.orgID ≠ orgID

/-- A membership belongs to the organizations of its user and of its group. -/
def OtherAdminMember (pair : String × String) : Prop :=
  pair ∈ world.adminGroups ∧ (OtherAdmin orgID world pair.1 ∨ OtherGroup orgID world pair.2)

def OtherClientMember (pair : String × String) : Prop :=
  pair ∈ world.clientGroups ∧ (OtherUser orgID world pair.1 ∨ OtherGroup orgID world pair.2)

end

/-- The rows of other organizations are the same ones. -/
structure Untouched (orgID : String) (before after : World) : Prop where
  users : ∀ id row, row.orgID ≠ orgID →
    (before.clientUsers.rows.lookup id = some row ↔ after.clientUsers.rows.lookup id = some row)
  groups : ∀ id row, row.orgID ≠ orgID →
    (before.groups.lookup id = some row ↔ after.groups.lookup id = some row)
  adminMembers : ∀ pair, OtherAdminMember orgID before pair ↔ OtherAdminMember orgID after pair
  clientMembers : ∀ pair, OtherClientMember orgID before pair ↔ OtherClientMember orgID after pair

def Reply.shownUsers : Reply → List UserResource
  | .user _ resource => [resource]
  | .users response => response.resources
  | _ => []

def Reply.shownGroups : Reply → List GroupResource
  | .group _ resource => [resource]
  | .groups response => response.resources
  | _ => []

def OwnUser (orgID : String) (origin : Origin) (world : World) (resource : UserResource) : Prop :=
  ∃ row, world.clientUsers.rows.lookup resource.id = some row ∧ row.orgID = orgID ∧
    resource = clientUserToSCIM origin (clientRecord resource.id row)

/-- The resource renders a group of the organization, and no membership of another one. -/
def OwnGroup (orgID : String) (origin : Origin) (world : World) (resource : GroupResource) : Prop :=
  (∃ row members, world.groups.lookup resource.id = some row ∧ row.orgID = orgID ∧
    resource = groupToSCIM origin { groupRecord resource.id row with members := members }) ∧
  ∀ member ∈ resource.members, ¬ OtherAdminMember orgID world (member, resource.id) ∧
    ¬ OtherClientMember orgID world (member, resource.id)

structure Isolated (orgID : String) (origin : Origin) (before : World) (reply : Reply)
    (after : World) : Prop where
  untouched : Untouched orgID before after
  users : ∀ resource ∈ reply.shownUsers, OwnUser orgID origin after resource
  groups : ∀ resource ∈ reply.shownGroups, OwnGroup orgID origin after resource

/-- What a request names: the id in its path, or all groups. -/
inductive Target where
  | nothing
  | adminUser (id : String)
  | user (id : String)
  | group (id : String)
  | allGroups

def Call.target : Call → Target
  | .getAdminUser id | .updateAdminUser id _ | .patchAdminUser id _ | .deleteAdminUser id =>
    .adminUser id
  | .getClientUser id | .updateClientUser id _ | .patchClientUser id _ | .deleteClientUser id =>
    .user id
  | .getGroup id | .updateGroup id _ | .patchGroup id _ | .deleteGroup id => .group id
  | .listGroups _ => .allGroups
  | _ => .nothing

/-- What a request names, with the memberships that hang on it, is of the organization. -/
def Confined (orgID : String) (world : World) : Target → Prop
  | .nothing => True
  | .adminUser id => ∀ groupID, ¬ OtherAdminMember orgID world (id, groupID)
  | .user id =>
    ¬ OtherUser orgID world id ∧ ∀ groupID, ¬ OtherClientMember orgID world (id, groupID)
  | .group id =>
    ¬ OtherGroup orgID world id ∧ ∀ userID, ¬ OtherAdminMember orgID world (userID, id) ∧
      ¬ OtherClientMember orgID world (userID, id)
  | .allGroups =>
    ∀ id, ¬ OtherGroup orgID world id ∧ ∀ userID, ¬ OtherAdminMember orgID world (userID, id) ∧
      ¬ OtherClientMember orgID world (userID, id)

/-! ## What the statements leave untouched -/

section
variable {orgID : String} {world after : World}

theorem Untouched.refl : Untouched orgID world world :=
  ⟨fun _ _ _ => Iff.rfl, fun _ _ _ => Iff.rfl, fun _ => Iff.rfl, fun _ => Iff.rfl⟩

theorem Untouched.trans {later : World} (first : Untouched orgID world after)
    (second : Untouched orgID after later) : Untouched orgID world later where
  users := fun id row other => (first.users id row other).trans (second.users id row other)
  groups := fun id row other => (first.groups id row other).trans (second.groups id row other)
  adminMembers := fun pair => (first.adminMembers pair).trans (second.adminMembers pair)
  clientMembers := fun pair => (first.clientMembers pair).trans (second.clientMembers pair)

theorem untouched_admins {admins : Accounts AdminProfile}
    (same : ∀ id, OtherAdmin orgID world id ↔ OtherAdmin orgID { world with admins := admins } id) :
    Untouched orgID world { world with admins := admins } where
  users := fun _ _ _ => Iff.rfl
  groups := fun _ _ _ => Iff.rfl
  adminMembers := fun pair => and_congr_right fun _ => or_congr_left (same pair.1)
  clientMembers := fun _ => Iff.rfl

theorem untouched_clientUsers {clientUsers : Accounts Profile} (same : ∀ id row, row.orgID ≠ orgID →
      (world.clientUsers.rows.lookup id = some row ↔ clientUsers.rows.lookup id = some row)) :
    Untouched orgID world { world with clientUsers := clientUsers } where
  users := same
  groups := fun _ _ _ => Iff.rfl
  adminMembers := fun _ => Iff.rfl
  clientMembers := fun pair => and_congr_right fun _ => or_congr_left
    (exists_congr fun row => and_congr_left fun other => same pair.1 row other)

theorem untouched_groups {groups : Table String Group} (same : ∀ id row, row.orgID ≠ orgID →
      (world.groups.lookup id = some row ↔ groups.lookup id = some row)) :
    Untouched orgID world { world with groups := groups } where
  users := fun _ _ _ => Iff.rfl
  groups := same
  adminMembers := fun pair => and_congr_right fun _ => or_congr_right
    (exists_congr fun row => and_congr_left fun other => same pair.2 row other)
  clientMembers := fun pair => and_congr_right fun _ => or_congr_right
    (exists_congr fun row => and_congr_left fun other => same pair.2 row other)

variable {id : String}

theorem untouched_deleteAdminUser
    (confined : ∀ groupID, ¬ OtherAdminMember orgID world (id, groupID)) :
    Untouched orgID world (deleteAdminUser world id).2 where
  users := fun _ _ _ => Iff.rfl
  groups := fun _ _ _ => Iff.rfl
  adminMembers := by
    intro pair
    by_cases here : pair.1 = id
    · subst here
      refine iff_of_false (confined pair.2) fun member => ?_
      exact of_decide_eq_true (mem_filter.mp member.1).2 rfl
    · simp [OtherAdminMember, OtherAdmin, OtherGroup, deleteAdminUser, Accounts.lookup_remove, here]
  clientMembers := fun _ => Iff.rfl

theorem untouched_deleteClientUser (own : ¬ OtherUser orgID world id)
    (confined : ∀ groupID, ¬ OtherClientMember orgID world (id, groupID)) :
    Untouched orgID world (deleteClientUser world id).2 where
  users := by
    intro other row isOther
    simp only [deleteClientUser, Accounts.lookup_remove]
    split_ifs with here
    · subst here
      exact iff_of_false (fun found => own ⟨row, found, isOther⟩) (by simp)
    · rfl
  groups := fun _ _ _ => Iff.rfl
  adminMembers := fun _ => Iff.rfl
  clientMembers := by
    intro pair
    by_cases here : pair.1 = id
    · subst here
      refine iff_of_false (confined pair.2) fun member => ?_
      exact of_decide_eq_true (mem_filter.mp member.1).2 rfl
    · simp [OtherClientMember, OtherUser, OtherGroup, deleteClientUser, Accounts.lookup_remove,
      here]

theorem lookup_deleteGroup (id other : String) (row : Group) :
    (deleteGroup world id).2.groups.lookup other = some row ↔
      world.groups.lookup other = some row ∧ other ≠ id := by
  rw [deleteGroup, lookup_dropGroups]
  cases world.groups.lookup other with
  | none => simp
  | some found =>
    by_cases here : other = id
    all_goals simp [here]

theorem mem_deleteGroup {pair : String × String} (stays : pair.2 ≠ id) :
    (pair ∈ (deleteGroup world id).2.adminGroups ↔ pair ∈ world.adminGroups) ∧
      (pair ∈ (deleteGroup world id).2.clientGroups ↔ pair ∈ world.clientGroups) := by
  have kept : ((world.groups.lookup pair.2).map fun _ => decide (pair.2 = id)).getD false = false := by
    cases world.groups.lookup pair.2 with
    | none => rfl
    | some row => exact decide_eq_false stays
  simp [deleteGroup, dropGroups, kept]

theorem untouched_deleteGroup (confined : Confined orgID world (.group id)) :
    Untouched orgID world (deleteGroup world id).2 where
  users := fun _ _ _ => Iff.rfl
  groups := by
    intro other row isOther
    rw [lookup_deleteGroup]
    constructor
    · intro found
      refine ⟨found, ?_⟩
      rintro rfl
      exact confined.1 ⟨row, found, isOther⟩
    · exact fun found => found.1
  adminMembers := by
    intro pair
    constructor
    · intro member
      have elsewhere : pair.2 ≠ id := by
        intro here
        apply (confined.2 pair.1).1
        rwa [← here]
      refine ⟨(mem_deleteGroup elsewhere).1.mpr member.1, member.2.imp_right ?_⟩
      rintro ⟨row, found, isOther⟩
      exact ⟨row, (lookup_deleteGroup id _ row).mpr ⟨found, elsewhere⟩, isOther⟩
    · intro member
      refine ⟨mem_of_mem_filter member.1, member.2.imp_right ?_⟩
      rintro ⟨row, found, isOther⟩
      exact ⟨row, ((lookup_deleteGroup id _ row).mp found).1, isOther⟩
  clientMembers := by
    intro pair
    constructor
    · intro member
      have elsewhere : pair.2 ≠ id := by
        intro here
        apply (confined.2 pair.1).2
        rwa [← here]
      refine ⟨(mem_deleteGroup elsewhere).2.mpr member.1, member.2.imp_right ?_⟩
      rintro ⟨row, found, isOther⟩
      exact ⟨row, (lookup_deleteGroup id _ row).mpr ⟨found, elsewhere⟩, isOther⟩
    · intro member
      refine ⟨mem_of_mem_filter member.1, member.2.imp_right ?_⟩
      rintro ⟨row, found, isOther⟩
      exact ⟨row, ((lookup_deleteGroup id _ row).mp found).1, isOther⟩

/-- The memberships of other organizations survive that a group's members are replaced by
members of the organization. -/
theorem replaced_iff {groupID : String} {members : List String} {rows : List (String × String)}
    {Other : String × String → Prop}
    (outside : ∀ userID, ¬ ((userID, groupID) ∈ rows ∧ Other (userID, groupID)))
    (own : ∀ userID ∈ members, ¬ Other (userID, groupID)) (pair : String × String) :
    (pair ∈ rows ∧ Other pair) ↔
      pair ∈ addMembers groupID members (rows.filter fun entry => entry.2 ≠ groupID) ∧ Other pair := by
  obtain ⟨userID, other⟩ := pair
  rw [mem_addMembers, mem_filter]
  constructor
  all_goals grind

theorem untouched_setGroupMembers {groupID : String} {adminIDs clientIDs : List String}
    (confined : Confined orgID world (.group groupID))
    (admins : ∀ id ∈ adminIDs, ¬ OtherAdmin orgID world id)
    (clients : ∀ id ∈ clientIDs, ¬ OtherUser orgID world id)
    (ran : setGroupMembers world groupID adminIDs clientIDs = .ok after) :
    Untouched orgID world after := by
  obtain ⟨-, -, -, rfl⟩ := setGroupMembers_ok ran
  constructor
  · exact fun _ _ _ => Iff.rfl
  · exact fun _ _ _ => Iff.rfl
  · exact replaced_iff (fun userID => (confined.2 userID).1)
      fun userID member isOther => isOther.elim (admins userID member) confined.1
  · exact replaced_iff (fun userID => (confined.2 userID).2)
      fun userID member isOther => isOther.elim (clients userID member) confined.1

theorem Untouched.confined_group (untouched : Untouched orgID world after) (id : String)
    (confined : Confined orgID world (.group id)) : Confined orgID after (.group id) := by
  constructor
  · rintro ⟨row, found, isOther⟩
    exact confined.1 ⟨row, (untouched.groups id row isOther).mpr found, isOther⟩
  · intro userID
    exact ⟨fun member => (confined.2 userID).1 ((untouched.adminMembers _).mpr member),
      fun member => (confined.2 userID).2 ((untouched.clientMembers _).mpr member)⟩

end

variable {orgID : String} {origin : Origin} {world after : World}

theorem isolated_quiet {reply : Reply} (untouched : Untouched orgID world after)
    (noUsers : reply.shownUsers = []) (noGroups : reply.shownGroups = []) :
    Isolated orgID origin world reply after where
  untouched := untouched
  users := by
    rw [noUsers]
    intro resource member
    cases member
  groups := by
    rw [noGroups]
    intro resource member
    cases member

theorem isolated_answer {α : Type} (status : Nat) {reply : α → Reply} {result : Except String α}
    (untouched : Untouched orgID world after)
    (shown : ∀ a, result = .ok a → Isolated orgID origin world (reply a) after) :
    Isolated orgID origin world (SCIMHandler.answer status reply result) after := by
  cases result with
  | error err => exact isolated_quiet untouched rfl rfl
  | ok a => exact shown a rfl

theorem isolated_answerFound {α : Type} (missing : String) (reply : α → Reply)
    (result : Except String (Option α)) (untouched : Untouched orgID world after)
    (shown : ∀ a, result = .ok (some a) → Isolated orgID origin world (reply a) after) :
    Isolated orgID origin world (SCIMHandler.answerFound missing reply result) after := by
  cases result with
  | error err => exact isolated_quiet untouched rfl rfl
  | ok sought =>
    cases sought with
    | none => exact isolated_quiet untouched rfl rfl
    | some a => exact shown a rfl

def OwnRecord (orgID : String) (world : World) (u : SCIMUser) : Prop :=
  ∃ row, world.clientUsers.rows.lookup u.id = some row ∧ row.orgID = orgID ∧
    u = clientRecord u.id row

theorem isolated_user (status : Nat) {u : SCIMUser} (untouched : Untouched orgID world after)
    (own : OwnRecord orgID after u) :
    Isolated orgID origin world (.user status (clientUserToSCIM origin u)) after where
  untouched := untouched
  users := by
    intro resource member
    cases mem_singleton.mp member
    obtain ⟨row, found, isOwn, isRecord⟩ := own
    exact ⟨row, found, isOwn, congrArg (clientUserToSCIM origin) isRecord⟩
  groups := by
    intro resource member
    cases member

/-- The record of a group of the organization, with any members. -/
def OwnGroupRecord (orgID : String) (world : World) (g : SCIMGroup) : Prop :=
  ∃ row, world.groups.lookup g.id = some row ∧ row.orgID = orgID ∧
    g = { groupRecord g.id row with members := g.members }

theorem ownGroup_of_record {g : SCIMGroup} (own : OwnGroupRecord orgID after g)
    (confined : Confined orgID after (.group g.id)) :
    OwnGroup orgID origin after (groupToSCIM origin g) := by
  obtain ⟨row, found, isOwn, isRecord⟩ := own
  exact ⟨⟨row, g.members, found, isOwn, congrArg (groupToSCIM origin) isRecord⟩,
    fun member _ => confined.2 member⟩

theorem isolated_group (status : Nat) (g : SCIMGroup) (untouched : Untouched orgID world after)
    (own : OwnGroupRecord orgID after g) (confined : Confined orgID after (.group g.id)) :
    Isolated orgID origin world (.group status (groupToSCIM origin g)) after where
  untouched := untouched
  users := by
    intro resource member
    cases member
  groups := by
    intro resource member
    cases mem_singleton.mp member
    exact ownGroup_of_record own confined

end ManagementPlane.Directory
