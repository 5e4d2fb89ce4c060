import ManagementPlane.Directory.Isolation

/-!
# The SCIM handlers, one by one

What each method of the SCIM store does to the rows of other organizations, and that the
handlers stay inside the organization of the token wherever the row that they name does.
-/

namespace ManagementPlane.Directory

open Interleave Tables SCIMStore
open Sso (Account Accounts)

theorem forall_choice {p : Choice → Prop} : (∀ choice, p choice) ↔
    (∀ err now newID users groups pairs snapshot,
      p ⟨some err, now, newID, users, groups, pairs, snapshot⟩) ∧
    ∀ now newID users groups pairs snapshot,
      p ⟨none, now, newID, users, groups, pairs, snapshot⟩ := by
  refine ⟨fun all => ⟨fun _ _ _ _ _ _ _ => all _, fun _ _ _ _ _ _ => all _⟩, ?_⟩
  rintro ⟨failing, working⟩ ⟨failure, now, newID, users, groups, pairs, snapshot⟩
  cases failure with
  | none => exact working now newID users groups pairs snapshot
  | some err => exact failing err now newID users groups pairs snapshot

theorem exec_query (env : Env) (choice : Choice) (world : World) (q : Query) :
    exec env choice world (.query q) = (attempt choice (.ok (q.run env choice world)), world) := rfl

attribute [simp] Untouched.refl
attribute [local simp] forall_choice exec_query attempt Query.run wrap SCIMStore.found

instance {α : Type} : Nonempty (MapOrder α) := ⟨.asStored⟩

variable {env : Env} {orgID : String} {origin : Origin} {world : World}

/-- A statement that a handler runs for its effect. -/
theorem run_untouched {α : Type} {s : Statement} {f : Except String s.Result → α}
    (untouched : ∀ (choice : Choice) result after,
      s.run choice.now choice.newID world = .ok (result, after) → Untouched orgID world after) :
    Ends env (fun _ now => Untouched orgID world now) (run s >>= fun result => pure (f result))
      world :=
  ends_run s _ (fun _ => .refl) untouched

theorem createAdminUser_untouched {u : SCIMUser} (own : u.orgID = orgID) :
    Ends env (fun _ now => Untouched orgID world now) (createAdminUser u) world := by
  refine run_untouched fun choice result after ran => ?_
  obtain ⟨row, admins, isOrg, -, inserted, rfl⟩ := insertAdminUser_ok ran
  refine untouched_admins fun id => exists_congr fun other => and_congr_left fun isOther => ?_
  exact inserted.lookup_iff (fun row => row.orgID ≠ orgID) (not_not.mpr (isOrg.trans own)) id other
    isOther

theorem updateAdminUser_untouched (id : String) (u : SCIMUser) :
    Ends env (fun _ now => Untouched orgID world now) (SCIMStore.updateAdminUser id u) world := by
  refine run_untouched fun choice result after ran => ?_
  obtain ⟨f, admins, sameOrg, amended, rfl⟩ := updateAdminUser_ok ran
  refine untouched_admins fun other => ?_
  refine (amended.exists_iff (fun row => row.orgID ≠ orgID) (fun row => ?_) other).symm
  rw [sameOrg]

variable {id : String}

theorem deleteAdminUser_untouched (confined : Confined orgID world (.adminUser id)) :
    Ends env (fun _ now => Untouched orgID world now) (SCIMStore.deleteAdminUser id) world := by
  refine run_untouched fun choice result after ran => ?_
  cases ran
  exact untouched_deleteAdminUser confined

theorem createClientUser_own {u : SCIMUser} (own : u.orgID = orgID) :
    Ends env (fun result now => Untouched orgID world now ∧
      ∀ created, result = .ok created → OwnRecord orgID now created)
      (createClientUser u) world := by
  apply ends_run
  · simp
  · intro choice result after ran
    obtain ⟨row, users, isOrg, -, rfl, inserted, rfl⟩ := insertClientUser_ok ran
    have isOwn : row.orgID = orgID := isOrg.trans own
    constructor
    · exact untouched_clientUsers (inserted.lookup_iff (fun row => row.orgID ≠ orgID)
        (not_not.mpr isOwn))
    · intro created isCreated
      cases isCreated
      refine ⟨row, ?_, isOwn, rfl⟩
      change users.rows.lookup choice.newID = some row
      rw [inserted.lookup, if_pos rfl]

theorem getClientUser_own (own : ¬ OtherUser orgID world id) :
    Ends env (fun result now => now = world ∧
      ∀ u, result = .ok (some u) → u.id = id ∧ OwnRecord orgID world u)
      (getClientUser id) world := by
  simp only [getClientUser, ensures_call]
  simp
  intro row found
  refine ⟨rfl, row, found, ?_, rfl⟩
  by_contra isOther
  exact own ⟨row, found, isOther⟩

theorem updateClientUser_own (u : SCIMUser) (own : ¬ OtherUser orgID world id) :
    Ends env (fun result now => Untouched orgID world now ∧
      ∀ updated, result = .ok updated → OwnRecord orgID now updated)
      (SCIMStore.updateClientUser id u) world := by
  refine ensures_then (getClientUser_own own) ?_
  rintro result now ⟨rfl, -⟩
  match result with
  | .error err => simp
  | .ok none => simp
  | .ok (some existing) =>
    apply ends_run
    · simp
    · intro choice written after ran
      obtain ⟨users, isWritten, amended, rfl⟩ := updateClientUser_ok ran
      constructor
      · refine untouched_clientUsers (amended.lookup_iff (fun row => row.orgID ≠ orgID)
          (fun _ => Iff.rfl) ?_)
        exact fun row found isOther => own ⟨row, found, isOther⟩
      · intro updated isUpdated
        cases found : now.clientUsers.rows.lookup id with
        | none =>
          rw [isWritten, found] at isUpdated
          cases isUpdated
        | some row =>
          rw [isWritten, found] at isUpdated
          cases isUpdated
          refine ⟨scimUpdate choice.now (normalizeClientUserStatusFields u) row, ?_, ?_, rfl⟩
          · change users.rows.lookup id = _
            rw [amended, if_pos rfl, found]
            rfl
          · by_contra isOther
            exact own ⟨row, found, isOther⟩

theorem deleteClientUser_untouched (confined : Confined orgID world (.user id)) :
    Ends env (fun _ now => Untouched orgID world now) (SCIMStore.deleteClientUser id) world := by
  refine run_untouched fun choice result after ran => ?_
  cases ran
  exact untouched_deleteClientUser confined.1 confined.2

theorem mem_page {α : Type} {order : MapOrder α} {createdAt : α → Option Policy.Time}
    {rows : List α} {limit offset : Nat} {a : α} (member : a ∈ page order createdAt rows limit offset) :
    a ∈ rows :=
  (sortBy_perm order _ rows).subset (List.mem_of_mem_drop (List.mem_of_mem_take member))

theorem listClientUsers_own (filter : String) (startIndex count : Int) :
    Ends env (fun result now => now = world ∧
      ∀ listed, result = .ok listed → ∀ u ∈ listed.1, OwnRecord orgID world u)
      (listClientUsers orgID filter startIndex count) world := by
  simp [listClientUsers]
  intro order u member
  obtain ⟨isRecord, isOrg⟩ := List.mem_filter.mp (mem_page member)
  obtain ⟨entry, stored, rfl⟩ := List.mem_map.mp isRecord
  rw [Bool.and_eq_true, decide_eq_true_eq] at isOrg
  exact ⟨entry.2, lookup_eq_some_iff.mpr stored, isOrg.1, rfl⟩

theorem withMembers_ends (g : SCIMGroup) :
    Ends env (fun result now => now = world ∧
      ∀ group, result = .ok group → group = { g with members := membersOf world g.id })
      (withMembers g) world := by
  simp [withMembers, getGroupMembers]

theorem getGroup_own (own : ¬ OtherGroup orgID world id) :
    Ends env (fun result now => now = world ∧
      ∀ g, result = .ok (some g) → g.id = id ∧ g.orgID = orgID ∧ OwnGroupRecord orgID world g)
      (getGroup id) world := by
  cases found : world.groups.lookup id with
  | none => simp [getGroup, found]
  | some row =>
    have isOwn : row.orgID = orgID := by
      by_contra isOther
      exact own ⟨row, found, isOther⟩
    simp [getGroup, withMembers, getGroupMembers, found]
    exact ⟨rfl, isOwn, row, found, isOwn, rfl⟩

theorem classify_own (seen adminIDs clientIDs members : List String)
    (admins : ∀ id ∈ adminIDs, ¬ OtherAdmin orgID world id)
    (clients : ∀ id ∈ clientIDs, ¬ OtherUser orgID world id) :
    Ends env (fun result now => now = world ∧
      ∀ classified, result = .ok classified → (∀ id ∈ classified.1, ¬ OtherAdmin orgID world id) ∧
        ∀ id ∈ classified.2, ¬ OtherUser orgID world id)
      (classify orgID seen adminIDs clientIDs members) world := by
  induction members generalizing seen adminIDs clientIDs with
  | nil =>
    refine ⟨rfl, fun classified isClassified => ?_⟩
    cases isClassified
    exact ⟨admins, clients⟩
  | cons id rest ih =>
    rw [classify]
    split_ifs with skipped
    · exact ih seen adminIDs clientIDs admins clients
    · cases isAdmin : (Query.adminUserExists id orgID).run env {} world with
      | true =>
        have own : ∀ other ∈ adminIDs ++ [id], ¬ OtherAdmin orgID world other := by
          simp [Query.run] at isAdmin
          grind [OtherAdmin]
        simp [Query.run] at isAdmin
        simpa [isAdmin] using ih _ _ _ own clients
      | false =>
        cases isClient : (Query.clientUserExists id orgID).run env {} world with
        | false =>
          simp [Query.run] at isAdmin isClient
          simp [isAdmin, isClient]
        | true =>
          have own : ∀ other ∈ clientIDs ++ [id], ¬ OtherUser orgID world other := by
            simp [Query.run] at isClient
            grind [OtherUser]
          simp [Query.run] at isAdmin isClient
          simpa [isAdmin, isClient] using ih _ _ _ admins own

theorem classifyGroupMemberIDs_own (members : List String) :
    Ends env (fun result now => now = world ∧
      ∀ classified, result = .ok classified → (∀ id ∈ classified.1, ¬ OtherAdmin orgID world id) ∧
        ∀ id ∈ classified.2, ¬ OtherUser orgID world id)
      (classifyGroupMemberIDs orgID members) world :=
  classify_own [] [] [] members (fun id member => by cases member) fun id member => by cases member

theorem updateGroup_own (g : SCIMGroup) (own : ¬ OtherGroup orgID world id) :
    Ends env (fun result now => Untouched orgID world now ∧ now.admins = world.admins ∧
      now.clientUsers = world.clientUsers ∧
      ∀ updated, result = .ok updated → updated.id = id ∧ OwnGroupRecord orgID now updated)
      (SCIMStore.updateGroup id g) world := by
  apply ends_run
  · simp
  · intro choice result after ran
    obtain ⟨f, groups, fields, isResult, amended, rfl⟩ := updateGroup_ok ran
    have sameOrg : ∀ row, (f row).orgID = row.orgID := fun row => by rw [fields]
    have untouched : Untouched orgID world { world with groups := groups } := by
      refine untouched_groups (amended.lookup_iff (fun row => row.orgID ≠ orgID) ?_ ?_)
      · intro row
        rw [sameOrg]
      · exact fun row found isOther => own ⟨row, found, isOther⟩
    cases found : world.groups.lookup id with
    | none =>
      rw [found] at isResult
      subst isResult
      simp [untouched]
    | some row =>
      rw [found] at isResult
      subst isResult
      have isOwn : (f row).orgID = orgID := by
        rw [sameOrg]
        by_contra isOther
        exact own ⟨row, found, isOther⟩
      refine ensures_mono ?_ (withMembers_ends (groupRecord id (f row)))
      rintro result now ⟨rfl, members⟩
      refine ⟨untouched, rfl, rfl, fun updated isUpdated => ?_⟩
      cases members updated isUpdated
      refine ⟨rfl, f row, ?_, isOwn, rfl⟩
      change groups.lookup id = some (f row)
      rw [amended, if_pos rfl, found]
      rfl

theorem setGroupMembers_own {groupID : String} {adminIDs clientIDs : List String}
    (confined : Confined orgID world (.group groupID))
    (admins : ∀ id ∈ adminIDs, ¬ OtherAdmin orgID world id)
    (clients : ∀ id ∈ clientIDs, ¬ OtherUser orgID world id) :
    Ends env (fun _ now => Untouched orgID world now ∧ now.groups = world.groups)
      (SCIMStore.setGroupMembers groupID adminIDs clientIDs) world := by
  change Ends env _ (run (.setGroupMembers groupID adminIDs clientIDs) >>= pure) world
  apply ends_run
  · simp
  · intro choice result after ran
    obtain ⟨done, set, ⟨⟩⟩ := map_ok ran
    refine ⟨untouched_setGroupMembers confined admins clients set, ?_⟩
    obtain ⟨-, -, -, rfl⟩ := setGroupMembers_ok set
    rfl

end ManagementPlane.Directory
