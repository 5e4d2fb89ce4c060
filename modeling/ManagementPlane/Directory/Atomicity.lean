import ManagementPlane.Directory.Effects
import ManagementPlane.Directory.Scim

/-!
# A group is written in two steps

`CreateGroup`, `UpdateGroup` and `PatchGroup` write the group and then its members, without a
transaction around the two: a failure behind the first write is answered with an error, and the
write stays.
-/

namespace ManagementPlane.Directory

open Interleave Tables SCIMStore

/-- The members are replaced without an error. -/
def Replaced : Event Op Op.Ans → Prop
  | ⟨.statement (.setGroupMembers ..), answer⟩ => answer.isOk = true
  | _ => True

/-- The event has not written a group, or has written the row as it was. -/
def Rewrites (world : World) : Event Op Op.Ans → Prop
  | ⟨.statement (.insertGroup _), answer⟩ => answer.isOk = false
  | ⟨.statement (.updateGroup id g), .ok updated⟩ => ∀ row, world.groups.lookup id = some row →
      row.displayName = g.displayName ∧ row.externalID = nilIfEmpty g.externalID ∧
        updated.bind SCIMGroup.updatedAt = some row.updatedAt
  | _ => True

structure SameGroups (before after : World) : Prop where
  groups : ∀ id, after.groups.lookup id = before.groups.lookup id
  adminGroups : after.adminGroups = before.adminGroups
  clientGroups : after.clientGroups = before.clientGroups

def Op.reads : Op → Prop
  | .query _ => True
  | .statement _ => False

def Failed : Event Op Op.Ans → Prop
  | ⟨.query _, answer⟩ | ⟨.statement _, answer⟩ => answer.isOk = false

/-- A method of the store that fails has written nothing. Only `UpdateGroup` goes on behind its
write: it reads the members. -/
def Atomic (log : List (Event Op Op.Ans)) : Prop :=
  log.Pairwise fun write read => ¬ write.op.reads → read.op.reads → ¬ Failed read

/-- At the end of a program of atomic methods: an error has changed nothing, if and only if the
members were replaced or the group was written as it was. -/
def Whole (world : World) (reply : Reply) (state : World × List (Event Op Op.Ans)) : Prop :=
  Atomic state.2 →
    ((∀ status detail, reply = .error status detail → SameGroups world state.1) ↔
      (∀ event ∈ state.2, Replaced event) ∨ ∀ event ∈ state.2, Rewrites world event)

abbrev EndsWhole (env : Env) (world : World) (p : Handled Reply)
    (state : World × List (Event Op Op.Ans)) : Prop :=
  Ensures (recorded (exec env)) (fun _ => True) (Whole world) p state

section
variable {env : Env} {world : World} {log : List (Event Op Op.Ans)}
  {state : World × List (Event Op Op.Ans)}

theorem SameGroups.refl (world : World) : SameGroups world world := ⟨fun _ => rfl, rfl, rfl⟩

theorem forall_of_reads {P : Event Op Op.Ans → Prop} (query : ∀ q answer, P ⟨.query q, answer⟩)
    (reads : ∀ event ∈ log, event.op.reads) : ∀ event ∈ log, P event := by
  intro event member
  have isRead := reads event member
  obtain ⟨q | s, answer⟩ := event
  · exact query q answer
  · cases isRead

theorem forall_concat {P : Event Op Op.Ans → Prop} {last : Event Op Op.Ans}
    (all : ∀ event ∈ log, P event) (here : P last) : ∀ event ∈ log ++ [last], P event :=
  List.forall_mem_append.mpr ⟨all, List.forall_mem_singleton.mpr here⟩

theorem whole_of_same {reply : Reply} (same : SameGroups world state.1)
    (replaced : ∀ event ∈ state.2, Replaced event) : Whole world reply state :=
  fun _ => iff_of_true (fun _ _ _ => same) (.inl replaced)

theorem whole_unchanged {reply : Reply} (reads : ∀ event ∈ log, event.op.reads) :
    Whole world reply (world, log) :=
  whole_of_same (SameGroups.refl world) (forall_of_reads (fun _ _ => trivial) reads)

theorem whole_reads {α : Type} {p : Handled α} {next : α → Handled Reply} (calls : Calls Op.reads p)
    (reads : ∀ event ∈ log, event.op.reads)
    (goesOn : ∀ a log, (∀ event ∈ log, event.op.reads) →
      EndsWhole env world (next a) (world, log)) :
    EndsWhole env world (p >>= next) (world, log) := by
  have stays : Ensures (recorded (exec env)) (fun _ => True)
      (fun _ state => state.1 = world ∧ ∀ event ∈ state.2, event.op.reads) p (world, log) := by
    refine ensures_of_calls ?_ p (world, log) calls ⟨rfl, reads⟩
    rintro choice ⟨now, past⟩ (q | s) isRead ⟨isNow, readsPast⟩
    · refine ⟨isNow, ?_⟩
      simpa [recorded, or_imp, forall_and] using ⟨readsPast, isRead⟩
    · cases isRead
  refine ensures_then stays ?_
  rintro a ⟨now, later⟩ ⟨rfl, readsLater⟩
  exact goesOn a later readsLater

theorem classify_reads (orgID : String) (seen adminIDs clientIDs members : List String) :
    Calls Op.reads (classify orgID seen adminIDs clientIDs members) := by
  induction members generalizing seen adminIDs clientIDs with
  | nil => simp [classify]
  | cons id rest ih =>
    simp [classify, ih, forall_except, Op.reads]

theorem getGroup_reads (id : String) : Calls Op.reads (getGroup id) := by
  simp [getGroup, withMembers, getGroupMembers, wrap, forall_except, Option.forall, Op.reads]

/-- The group is written; whether it has changed can be seen from the events. -/
structure Written (world : World) (state : World × List (Event Op Op.Ans)) : Prop where
  replaced : ∀ event ∈ state.2, Replaced event
  same : SameGroups world state.1 ↔ ∀ event ∈ state.2, Rewrites world event

theorem whole_setGroupMembers {groupID : String} {adminIDs clientIDs : List String} {reply : Reply}
    (good : ∀ status detail, reply ≠ .error status detail) (written : Written world state) :
    EndsWhole env world
      (SCIMStore.setGroupMembers groupID adminIDs clientIDs >>= fun result =>
        pure (SCIMHandler.answer 400 (fun _ => reply) result)) state := by
  intro choice _ _
  rcases statement_cases env choice state.1 (.setGroupMembers groupID adminIDs clientIDs) with
    ⟨err, did⟩ | ⟨result, after, -, did⟩
  all_goals simp only [recorded, did, List.forall_mem_append, List.forall_mem_singleton]
  · -- the error is answered, and the write stays
    constructor
    · intro unchanged
      exact .inr ⟨written.same.mp (unchanged 400 err rfl), trivial⟩
    · rintro (⟨-, failed⟩ | ⟨rewrites, -⟩) status detail -
      · cases failed
      · exact written.same.mpr rewrites
  · exact iff_of_true (fun status detail isError => absurd isError (good status detail))
      (.inl ⟨written.replaced, rfl⟩)

theorem whole_createGroup {g : SCIMGroup} {status : Nat} {next : SCIMGroup → Handled Reply}
    (reads : ∀ event ∈ log, event.op.reads)
    (goesOn : ∀ created state, Written world state → EndsWhole env world (next created) state) :
    EndsWhole env world
      (SCIMStore.createGroup g >>= fun
        | .error err => pure (.error status err)
        | .ok created => next created) (world, log) := by
  have replaced := forall_of_reads (P := Replaced) (fun _ _ => trivial) reads
  intro choice _
  rcases statement_cases env choice world (.insertGroup g) with ⟨err, did⟩ | ⟨created, after, ran, did⟩
  · simp only [recorded, did]
    exact whole_of_same (SameGroups.refl world) (forall_concat replaced trivial)
  · simp only [recorded, did]
    obtain ⟨row, groups, -, -, inserted, rfl⟩ := insertGroup_ok ran
    apply goesOn
    refine ⟨forall_concat replaced trivial, iff_of_false ?_ ?_⟩
    · intro same
      have new := same.groups choice.newID
      rw [inserted.lookup, if_pos rfl, inserted.fresh] at new
      cases new
    · intro rewrites
      cases rewrites _ (List.mem_append_right _ (List.mem_singleton.mpr rfl))

theorem updateGroup_same {now : Policy.Time} {id : String} {g : SCIMGroup}
    {result : Option SCIMGroup} {after : World}
    (ran : Directory.updateGroup now world id g = .ok (result, after)) :
    SameGroups world after ↔ ∀ row, world.groups.lookup id = some row →
      row.displayName = g.displayName ∧ row.externalID = nilIfEmpty g.externalID ∧
        result.bind SCIMGroup.updatedAt = some row.updatedAt := by
  obtain ⟨f, groups, fields, rfl, amended, rfl⟩ := updateGroup_ok ran
  constructor
  · intro same row found
    have kept := same.groups id
    rw [amended id, if_pos rfl, found, Option.map_some, Option.some.injEq, fields] at kept
    rw [found, Option.map_some, Option.map_some, fields, kept, ← kept]
    exact ⟨rfl, rfl, rfl⟩
  · intro unchanged
    refine ⟨fun other => ?_, rfl, rfl⟩
    rw [amended other]
    split_ifs with here
    · subst here
      cases found : world.groups.lookup other with
      | none => rfl
      | some row =>
        obtain ⟨name, externalID, time⟩ := unchanged row found
        rw [found, Option.map_some, Option.map_some, fields] at time
        rw [Option.map_some, fields, ← name, ← externalID]
        cases time
        rfl
    · rfl

theorem whole_updateGroup {id : String} {g : SCIMGroup} {status : Nat}
    {next : SCIMGroup → Handled Reply} (reads : ∀ event ∈ log, event.op.reads)
    (goesOn : ∀ updated state, Written world state → EndsWhole env world (next updated) state) :
    EndsWhole env world
      (SCIMStore.updateGroup id g >>= fun
        | .error err => pure (.error status err)
        | .ok updated => next updated) (world, log) := by
  have replaced := forall_of_reads (P := Replaced) (fun _ _ => trivial) reads
  have rewrites := forall_of_reads (P := Rewrites world) (fun _ _ => trivial) reads
  intro choice _
  rcases statement_cases env choice world (.updateGroup id g) with
    ⟨err, did⟩ | ⟨result, after, ran, did⟩
  · simp only [recorded, did]
    exact whole_of_same (SameGroups.refl world) (forall_concat replaced trivial)
  · simp only [recorded, did]
    cases result with
    | none =>
      -- no row has the id, and the statement has changed none
      refine whole_of_same ((updateGroup_same ran).mpr ?_) (forall_concat replaced trivial)
      obtain ⟨_, _, -, isResult, -, -⟩ := updateGroup_ok ran
      simp_all
    | some updated =>
      intro choice _
      cases answered : (exec env choice after (.query (.groupMembers updated.id))).1 with
      | error err =>
        simp only [recorded, answered]
        intro atomic
        exact absurd rfl ((List.pairwise_append.mp atomic).2.2 _
          (List.mem_append_right _ (List.mem_singleton.mpr rfl)) _ (List.mem_singleton.mpr rfl)
          False.elim trivial)
      | ok members =>
        simp only [recorded, answered]
        apply goesOn
        refine ⟨forall_concat (forall_concat replaced trivial) trivial,
          (updateGroup_same ran).trans ⟨?_, ?_⟩⟩
        · intro same
          exact forall_concat (forall_concat rewrites same) trivial
        · intro all
          exact all _ (List.mem_append_left _
            (List.mem_append_right _ (List.mem_singleton.mpr rfl)))

end

/-- A request to write a group that is answered with an error has changed no group and no
membership, if and only if the members were replaced or the group was written as it was. -/
theorem failed_write_unchanged_iff (env : Env) (orgID : String) (origin : Origin) (world : World) :
    (∀ body, EndsWhole env world (SCIMHandler.createGroup orgID origin body) (world, [])) ∧
      (∀ id body, EndsWhole env world (SCIMHandler.updateGroup origin id body) (world, [])) ∧
      ∀ id body, EndsWhole env world (SCIMHandler.patchGroup origin id body) (world, []) := by
  have start : ∀ event ∈ ([] : List (Event Op Op.Ans)), event.op.reads :=
    List.forall_mem_nil _
  refine ⟨fun body => ?_, fun id body => ?_, fun id body => ?_⟩
  · cases body with
    | none => exact whole_unchanged start
    | some req =>
      refine whole_reads (classify_reads orgID [] [] [] _) start fun result log reads => ?_
      match result with
      | .error err => exact whole_unchanged reads
      | .ok classified =>
        refine whole_createGroup reads fun created state written => ?_
        refine ensures_check (fun _ _ => iff_of_true nofun (.inl written.replaced)) fun _ => ?_
        exact whole_setGroupMembers nofun written
  · cases body with
    | none => exact whole_unchanged start
    | some req =>
      refine whole_reads (getGroup_reads id) start fun result log reads => ?_
      match result with
      | .error err | .ok none => exact whole_unchanged reads
      | .ok (some existing) =>
        refine whole_reads (classify_reads existing.orgID [] [] [] _) reads fun result log reads => ?_
        match result with
        | .error err => exact whole_unchanged reads
        | .ok classified =>
          refine whole_updateGroup reads fun updated state written => ?_
          cases req.members with
          | none => exact fun _ => iff_of_true nofun (.inl written.replaced)
          | some members => exact whole_setGroupMembers nofun written
  · cases body with
    | none => exact whole_unchanged start
    | some operations =>
      refine whole_reads (getGroup_reads id) start fun result log reads => ?_
      match result with
      | .error err | .ok none => exact whole_unchanged reads
      | .ok (some group) =>
        simp only
        cases operations.foldlM applyGroupPatch ⟨group.displayName, group.members⟩ with
        | error err => exact whole_unchanged reads
        | ok draft =>
          refine whole_reads (classify_reads group.orgID [] [] [] _) reads fun result log reads => ?_
          match result with
          | .error err => exact whole_unchanged reads
          | .ok classified =>
            exact whole_updateGroup reads fun updated state written =>
              whole_setGroupMembers nofun written

def salesGroup : World :=
  { World.empty with
    groups := (∅ : Table String Group).insert "g-1"
      { orgID := "org-1", displayName := "Sales", source := "scim", createdAt := 0, updatedAt := 0 } }

/-- The fifth step, the replacement of the members, fails: the reply is an error, and the group has
its new name. -/
theorem renamed_by_failed_update :
    let ended := (SCIMHandler.updateGroup ⟨true, "scim"⟩ "g-1"
        (some { displayName := "Marketing", members := some [] })).eval (exec ⟨id, fun _ _ => false, id⟩)
      (fun n => if n = 4 then { failure := some "connection reset" } else {}) salesGroup
    ended.1 = .error 400 "connection reset" ∧
      (ended.2.groups.lookup "g-1").map Group.displayName = some "Marketing" :=
  ⟨rfl, rfl⟩

end ManagementPlane.Directory
