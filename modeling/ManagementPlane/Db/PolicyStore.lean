import ManagementPlane.Lib.FirstMatch
import ManagementPlane.Policy.Store
import ManagementPlane.Db.PolicyTable

/-!
# The SQL policy store

`internal/db/policy_store.go`: the policies live in a table, version control and
the edit lock in memory. One call holds the store mutex and is one step, except
`LoadDefaults`, which writes its rows before it takes the mutex and is two.
`Answers` says how the database answers the statements of one call: which of
them fail, and in which order rows with equal sequence numbers come. A statement
that fails changes nothing.

Every commit snapshots the table through `listUnlocked`, whose rows the scanner
refuses. So every retained snapshot is empty, `Revert` empties the table, and it
restores a version exactly when the table was empty right after that version.
-/

namespace ManagementPlane.Db

open Sql Tables Runs Policy List

abbrev PolicyStore := Versioned (Table String PolicyRow)

def newPolicyStore (table : Table String PolicyRow) : PolicyStore := ⟨table, [], 0, none, []⟩

structure Answers where
  maxFails : Bool := false
  lookupFails : Bool := false
  writeError : Option String := none
  clearFails : Bool := false
  restoreError : Nat → Option String := fun _ => none
  listFails : Bool := false
  rowOrder : MapOrder PolicyRow := .asStored
  sortOrder : MapOrder SecurityPolicy := .asStored

section
variable (jsonb : Jsonb)

def list (s : PolicyStore) (fails : Bool) (order : MapOrder PolicyRow) : List SecurityPolicy :=
  if fails then []
  else scanPolicies jsonb policyColumns (sortedValues order PolicyRow.sequence s.policies)

def listUnlocked (s : PolicyStore) (answers : Answers) : List SecurityPolicy :=
  if answers.listFails then []
  else
    scanPolicies jsonb listUnlockedColumns
      (sortedValues answers.rowOrder PolicyRow.sequence s.policies)

def snapshot (s : PolicyStore) (answers : Answers) : List SecurityPolicy :=
  sortBy answers.sortOrder SecurityPolicy.sequence (listUnlocked jsonb s answers)

def commit (s : PolicyStore) (answers : Answers) (info : CommitInfo) : Int × PolicyStore :=
  commitSnapshot s (snapshot jsonb s answers) info

/-- The statement `SELECT COALESCE(MAX(sequence), 0)`, or 0 when it fails. -/
def maxSequence (s : PolicyStore) (fails : Bool) : Int :=
  if fails then 0
  else
    match (values s.policies).map PolicyRow.sequence with
    | [] => 0
    | first :: rest => rest.foldl max first

def assignSequence (s : PolicyStore) (fails : Bool) (p : SecurityPolicy) : SecurityPolicy :=
  if p.sequence ≤ 0 then { p with sequence := (maxSequence s fails + 10).bmod (2 ^ 64) } else p

def create (s : PolicyStore) (p : SecurityPolicy) (author : String) (answers : Answers)
    (now createdAt : Time) : (Int × String) × PolicyStore :=
  let msg := checkLock s author now
  if msg ≠ "" then ((0, msg), s)
  else
    let stored := assignSequence s answers.maxFails p
    match upsertPolicy jsonb answers.writeError s.policies stored with
    | .error err => ((0, err), s)
    | .ok table =>
      let committed := commit jsonb { s with policies := table } answers
        ⟨author, "Policy created: " ++ stored.name, .create, stored.id, createdAt⟩
      ((committed.1, ""), committed.2)

def update (s : PolicyStore) (p : SecurityPolicy) (author : String) (answers : Answers)
    (now createdAt : Time) : (Int × Bool × String) × PolicyStore :=
  let msg := checkLock s author now
  if msg ≠ "" then ((0, false, msg), s)
  else
    let present := !answers.lookupFails && (s.policies.lookup p.id).isSome
    if !present then ((0, false, ""), s)
    else
      match upsertPolicy jsonb answers.writeError s.policies p with
      | .error err => ((0, false, err), s)
      | .ok table =>
        let committed := commit jsonb { s with policies := table } answers
          ⟨author, "Policy updated: " ++ p.name, .update, p.id, createdAt⟩
        ((committed.1, true, ""), committed.2)

def delete (s : PolicyStore) (id author : String) (answers : Answers)
    (now createdAt : Time) : (Int × Bool × String) × PolicyStore :=
  let msg := checkLock s author now
  if msg ≠ "" then ((0, false, msg), s)
  else
    match (if answers.lookupFails then none else s.policies.lookup id) with
    | none => ((0, false, ""), s)
    | some row =>
      match answers.writeError with
      | some err => ((0, false, err), s)
      | none =>
        let committed := commit jsonb { s with policies := s.policies.erase id } answers
          ⟨author, "Policy deleted: " ++ row.name, .delete, id, createdAt⟩
        ((committed.1, true, ""), committed.2)

/-- The loop over the snapshot, errors ignored; `i` counts the upserts. -/
def restorePolicies (failure : Nat → Option String) :
    Nat → Table String PolicyRow → List SecurityPolicy → Table String PolicyRow
  | _, table, [] => table
  | i, table, p :: rest =>
    match upsertPolicy jsonb (failure i) table p with
    | .error _ => restorePolicies failure (i + 1) table rest
    | .ok next => restorePolicies failure (i + 1) next rest

/-- The upserts default the posture of the snapshot they read from, in place. -/
def revert (s : PolicyStore) (targetVersion : Int) (author : String) (answers : Answers)
    (createdAt : Time) : (Int × Bool) × PolicyStore :=
  match s.versions.find? fun cv => cv.version = targetVersion with
  | none => ((0, false), s)
  | some target =>
    let cleared := if answers.clearFails then s.policies else ∅
    let restored := restorePolicies jsonb answers.restoreError 0 cleared target.policies
    let touched := s.versions.modify
      (s.versions.findIdx fun cv => cv.version = targetVersion)
      fun cv => { cv with policies := cv.policies.map defaultPosture }
    let committed := commit jsonb { s with policies := restored, versions := touched } answers
      ⟨author, "Reverted to version " ++ toString targetVersion, .revert, "", createdAt⟩
    ((committed.1, true), committed.2)

def systemThreatOrgID : String := "a0000000-0000-0000-0000-000000000001"

def defaultPolicies : List SecurityPolicy :=
  [ { id := "default-allow-all", orgID := systemThreatOrgID, name := "Allow All (Dev)",
      sequence := 1000, enabled := true, action := "allow",
      logTraffic := true, logSecurityEvents := true },
    { id := "block-malware-domains", orgID := systemThreatOrgID,
      name := "Block Known Malware Domains",
      sequence := 10, enabled := true, action := "deny",
      dnsFilterEnabled := true,
      dnsCustomBlocklist := some ["*.malware.test", "*.phishing.test", "evil.example.com"],
      logTraffic := true, logSecurityEvents := true } ]

def seedDefaults (s : PolicyStore) (answers : Answers) : PolicyStore :=
  { s with policies := restorePolicies jsonb answers.restoreError 0 s.policies defaultPolicies }

def commitDefaults (s : PolicyStore) (answers : Answers) (createdAt : Time) : PolicyStore :=
  (commit jsonb s answers ⟨"system", "Default policies loaded", .create, "", createdAt⟩).2

inductive Op where
  | lock (author : String) (lockedNow expiresNow : Time)
  | unlock (author : String) (force : Bool)
  | getLock
  | create (p : SecurityPolicy) (author : String)
  | update (p : SecurityPolicy) (author : String)
  | delete (id author : String)
  | revert (targetVersion : Int) (author : String)
  | seedDefaults
  | commitDefaults

structure Call where
  op : Op
  answers : Answers := {}
  now : Time := 0
  createdAt : Time := 0

def apply (s : PolicyStore) (call : Call) : PolicyStore :=
  match call.op with
  | .lock author lockedNow expiresNow => (lock s author call.now lockedNow expiresNow).2
  | .unlock author force => (unlock s author force).2
  | .getLock => (getLock s call.now).2
  | .create p author => (create jsonb s p author call.answers call.now call.createdAt).2
  | .update p author => (update jsonb s p author call.answers call.now call.createdAt).2
  | .delete id author => (delete jsonb s id author call.answers call.now call.createdAt).2
  | .revert targetVersion author =>
    (revert jsonb s targetVersion author call.answers call.createdAt).2
  | .seedDefaults => seedDefaults jsonb s call.answers
  | .commitDefaults => commitDefaults jsonb s call.answers call.createdAt

/-- The history of `next` is that of `s` up to rewriting entries in place: each
entry keeps its number, and an empty snapshot stays empty. -/
def SameEntries (old new : List ConfigVersion) : Prop :=
  ∀ cv ∈ new, ∃ before ∈ old, cv.version = before.version ∧
    (before.policies = [] → cv.policies = [])

theorem sameEntries_refl (versions : List ConfigVersion) : SameEntries versions versions := by
  intro cv member
  exact ⟨cv, member, rfl, fun empty => empty⟩

theorem sameEntries_modify (versions : List ConfigVersion) (i : Nat) :
    SameEntries versions
      (versions.modify i fun cv => { cv with policies := cv.policies.map defaultPosture }) := by
  intro cv member
  grind [mem_modify, mem_of_getElem]

variable (s : PolicyStore)

theorem apply_cases (call : Call) :
    ((apply jsonb s call).versions = s.versions ∧ (apply jsonb s call).version = s.version) ∨
      ∃ policies versions info, SameEntries s.versions versions ∧
        apply jsonb s call =
          (commit jsonb { s with policies := policies, versions := versions } call.answers
            info).2 := by
  obtain ⟨op, answers, now, createdAt⟩ := call
  cases op with
  | lock author lockedNow expiresNow =>
    left
    simp [apply, lock]
    grind
  | unlock author force =>
    left
    simp [apply, unlock]
    grind
  | getLock =>
    left
    simp [apply, getLock]
    grind
  | create p author =>
    simp [apply, create]
    grind [sameEntries_refl]
  | update p author =>
    simp [apply, update]
    grind [sameEntries_refl]
  | delete id author =>
    simp [apply, delete]
    grind [sameEntries_refl]
  | revert targetVersion author =>
    simp [apply, revert]
    grind [sameEntries_modify]
  | seedDefaults => exact .inl ⟨rfl, rfl⟩
  | commitDefaults => exact .inr ⟨_, _, _, sameEntries_refl s.versions, rfl⟩

theorem listUnlocked_empty (answers : Answers) : listUnlocked jsonb s answers = [] := by
  rw [listUnlocked]
  split
  · rfl
  · exact scanPolicies_listUnlockedColumns jsonb _

theorem snapshot_empty (answers : Answers) : snapshot jsonb s answers = [] := by
  rw [snapshot, listUnlocked_empty]
  exact (sortBy_perm answers.sortOrder SecurityPolicy.sequence []).eq_nil

/-- `List` and the snapshots of the store in memory are the same for every order of the map,
exactly when no two policies share a sequence number; so is `List` of the table, and its
snapshots are the same anyway. -/
theorem order_determined_iff (s : Policy.Store) (table : PolicyStore) :
    ((∀ first second : MapOrder SecurityPolicy, Policy.list s first = Policy.list s second ∧
        ∀ info, Policy.commit s first info = Policy.commit s second info) ↔
      ∀ p ∈ values s.policies, ∀ q ∈ values s.policies, p.sequence = q.sequence → p = q) ∧
    ((∀ first second : MapOrder PolicyRow,
        list jsonb table false first = list jsonb table false second) ↔
      ∀ row ∈ values table.policies, ∀ other ∈ values table.policies,
        row.sequence = other.sequence → ∀ p ∈ scanPolicyRow jsonb policyColumns row,
          ∀ q ∈ scanPolicyRow jsonb policyColumns other, p = q) ∧
    ∀ first second info, commit jsonb table first info = commit jsonb table second info := by
  refine ⟨?_, filterMap_sortBy_iff _, ?_⟩
  · have listed := @filterMap_sortBy_iff _ SecurityPolicy.sequence (values s.policies) _ some
    simp only [filterMap_some, Option.mem_some_iff, forall_eq'] at listed
    rw [← listed]
    refine ⟨fun same first second => (same first second).1, fun same first second => ?_⟩
    refine ⟨same first second, fun info => ?_⟩
    rw [Policy.commit, Policy.commit, Policy.snapshot, Policy.snapshot]
    exact congrArg (commitSnapshot s · info) (same first second)
  · intro first second info
    rw [commit, commit, snapshot_empty, snapshot_empty]

/-- Two policies are created with the same sequence number. -/
def demoTie : Policy.Store :=
  let create := fun (s : Policy.Store) (id : String) =>
    (Policy.create s { id := id, sequence := 10 } "admin" .asStored 0 0).2
  create (create Policy.newStore "block-malware") "allow-web"

theorem tie_reordered :
    ((Policy.list demoTie .asStored).map SecurityPolicy.id) = ["allow-web", "block-malware"] ∧
      (Policy.list demoTie (.front fun p => p.id = "block-malware")).map SecurityPolicy.id =
        ["block-malware", "allow-web"] := by
  decide +kernel

theorem mem_commit_versions {s : PolicyStore} {answers : Answers} {info : CommitInfo}
    {cv : ConfigVersion} (member : cv ∈ (commit jsonb s answers info).2.versions) :
    cv ∈ s.versions ∨ cv.version = s.version + 1 ∧ cv.policies = [] := by
  rcases Window.mem_push member with old | new
  · exact .inl old
  · right
    rw [new]
    exact ⟨rfl, snapshot_empty jsonb s answers⟩

abbrev storeAfter (table : Table String PolicyRow) (calls : List Call) : PolicyStore :=
  run (apply jsonb) (newPolicyStore table) calls

theorem history_empty {table : Table String PolicyRow} {calls : List Call} :
    ∀ cv ∈ (storeAfter jsonb table calls).versions, cv.policies = [] := by
  apply run_invariant (apply jsonb) (fun s => ∀ cv ∈ s.versions, cv.policies = [])
  · intro s call empty cv member
    rcases apply_cases jsonb s call with ⟨same, _⟩ | ⟨policies, versions, info, entries, applied⟩
    · rw [same] at member
      exact empty cv member
    · rw [applied] at member
      rcases mem_commit_versions jsonb member with old | ⟨_, new⟩
      · obtain ⟨before, beforeMember, _, keeps⟩ := entries cv old
        exact keeps (empty before beforeMember)
      · exact new
  · intro cv member
    cases member

def tableAt (table : Table String PolicyRow) (calls : List Call) (version : Int) :
    Option (Table String PolicyRow) :=
  (firstAt (apply jsonb) Versioned.version (newPolicyStore table) calls version).map
    Versioned.policies

theorem apply_bumps (call : Call) :
    (apply jsonb s call).version = s.version ∨ (apply jsonb s call).version = s.version + 1 := by
  rcases apply_cases jsonb s call with ⟨_, same⟩ | ⟨policies, versions, info, _, applied⟩
  · exact .inl same
  · right
    rw [applied]
    rfl

theorem firstAt_of_retained {table : Table String PolicyRow} {calls : List Call} :
    ∀ cv ∈ (storeAfter jsonb table calls).versions, ∃ reached,
      firstAt (apply jsonb) Versioned.version (newPolicyStore table) calls cv.version =
        some reached := by
  induction calls using reverseRecOn with
  | nil =>
    intro cv member
    cases member
  | append_singleton calls call ih =>
    intro cv member
    have keeps : ∀ before ∈ (storeAfter jsonb table calls).versions,
        cv.version = before.version → ∃ reached,
          firstAt (apply jsonb) Versioned.version (newPolicyStore table) (calls ++ [call])
            cv.version = some reached := by
      grind [firstAt_concat_of_some]
    rw [storeAfter, run_concat] at member
    rcases apply_cases jsonb (storeAfter jsonb table calls) call with
      ⟨same, _⟩ | ⟨policies, versions, info, entries, applied⟩
    · rw [same] at member
      exact keeps cv member rfl
    · rw [applied] at member
      rcases mem_commit_versions jsonb member with old | ⟨number, _⟩
      · obtain ⟨before, beforeMember, number, _⟩ := entries cv old
        exact keeps before beforeMember number
      · have raised : (apply jsonb (storeAfter jsonb table calls) call).version =
            (storeAfter jsonb table calls).version + 1 := by
          rw [applied]
          rfl
        rw [number]
        exact ⟨_, firstAt_concat_new (apply jsonb) Versioned.version (apply_bumps jsonb) raised⟩

theorem revert_policies {s : PolicyStore} {targetVersion : Int} {target : ConfigVersion}
    (author : String) (answers : Answers) (createdAt : Time)
    (found : getVersion s targetVersion = some target) (empty : target.policies = []) :
    (revert jsonb s targetVersion author answers createdAt).2.policies =
      if answers.clearFails then s.policies else ∅ := by
  simp [getVersion] at found
  simp [revert, found, empty, restorePolicies]
  rfl

/-- Reverting restores the table of the version and the snapshot holds its policies,
exactly when that table was empty and the table is cleared or empty already. -/
theorem sql_revert_restores_iff (table : Table String PolicyRow) (calls : List Call)
    (v : Int) (cv : ConfigVersion) (author : String) (answers : Answers) (createdAt : Time)
    (retained : getVersion (storeAfter jsonb table calls) v = some cv) :
    ∃ committed, tableAt jsonb table calls v = some committed ∧
      ((∀ id, (revert jsonb (storeAfter jsonb table calls) v author answers
            createdAt).2.policies.lookup id = committed.lookup id) ∧
          cv.policies.Perm ((values committed).map (PolicyRow.policy jsonb)) ↔
        committed = ∅ ∧
          (answers.clearFails = false ∨ (storeAfter jsonb table calls).policies = ∅)) := by
  have member := mem_of_find?_eq_some retained
  have number : cv.version = v := by simpa using find?_some retained
  have empty := history_empty jsonb cv member
  obtain ⟨reached, found⟩ := firstAt_of_retained jsonb cv member
  rw [number] at found
  refine ⟨reached.policies, by rw [tableAt, found, Option.map_some], ?_⟩
  rw [revert_policies jsonb author answers createdAt retained empty, empty]
  constructor
  · rintro ⟨restored, recorded⟩
    have noRows := recorded.symm.eq_nil
    have emptyThen := (values_eq_nil_iff reached.policies).mp (map_eq_nil_iff.mp noRows)
    refine ⟨emptyThen, ?_⟩
    cases fails : answers.clearFails with
    | false => exact .inl rfl
    | true =>
      right
      rw [fails, if_pos rfl, emptyThen] at restored
      exact eq_empty_of_lookup restored
  · rintro ⟨emptyThen, cleared⟩
    rw [emptyThen]
    refine ⟨?_, by exact List.Perm.nil⟩
    intro id
    rcases cleared with cleared | cleared
    · rw [cleared]
      rfl
    · rw [cleared, ite_self]

end

/-- A database that stores any text as a JSON string; the runs below write none. -/
def textJsonb : Jsonb := ⟨fun text => some (.str text), fun _ => "null", "invalid JSON"⟩

def createOne : List Call := [{ op := .create { id := "p1", name := "Allow" } "alice" }]

def createAndDelete : List Call := createOne ++ [{ op := .delete "p1" "alice" }]

theorem createAndDelete_reverted :
    tableAt textJsonb ∅ createAndDelete 2 = some ∅ ∧
      ∀ id, (revert textJsonb (storeAfter textJsonb ∅ createAndDelete) 2 "bob" {}
        0).2.policies.lookup id = none := by
  have tableThen : tableAt textJsonb ∅ createAndDelete 2 = some ∅ := rfl
  have retained : getVersion (storeAfter textJsonb ∅ createAndDelete) 2 =
      some ⟨2, [], "alice", "Policy deleted: Allow", .delete, "p1", 0⟩ := rfl
  obtain ⟨committed, table, restores⟩ :=
    sql_revert_restores_iff textJsonb ∅ createAndDelete 2 _ "bob" {} 0 retained
  have emptyThen : committed = ∅ := by
    rw [tableThen, Option.some.injEq] at table
    exact table.symm
  have restored := (restores.mpr ⟨emptyThen, .inl rfl⟩).1
  rw [emptyThen] at restored
  exact ⟨tableThen, restored⟩

/-- One policy is created as version 1, and reverting to version 1 loses it. -/
theorem createOne_lost_by_revert :
    ¬ ∀ id, some ((revert textJsonb (storeAfter textJsonb ∅ createOne) 1 "alice" {}
        0).2.policies.lookup id) =
      (tableAt textJsonb ∅ createOne 1).map fun table => table.lookup id := by
  intro restored
  have present := congrArg (Option.map Option.isSome) (restored "p1")
  exact absurd present (by decide)

end ManagementPlane.Db
