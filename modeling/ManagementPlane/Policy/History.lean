import ManagementPlane.Policy.Store

/-!
# The version history over whole runs

The purpose of the history is a ledger: the list of every commit ever made, the
`n`-th one numbered `n`, each with the policy map it was taken of. The store
keeps the last ten entries of it. `Ledger calls log` says that the store reached
by `calls` is the window of the ledger `log`; every call extends the ledger by at
most one commit, and the facts about the history and about reverting are read off
the ledger.
-/

namespace ManagementPlane.Policy

open Tables Runs Option
open List hiding lookup_eq_some_iff

/-- A commit of the ledger: the entry that was written and the map it was taken of. -/
structure Commit where
  entry : ConfigVersion
  table : Table String SecurityPolicy
  keyed : Keyed SecurityPolicy.id table
  exact : entry.policies.Perm (values table)
  sorted : entry.policies.Pairwise fun a b => a.sequence ≤ b.sequence

theorem Commit.distinct (c : Commit) : (c.entry.policies.map SecurityPolicy.id).Nodup :=
  (c.exact.map SecurityPolicy.id).nodup_iff.mpr
    (keyed_values_nodup c.keyed)

def Commit.of (s : Store) (keyed : Keyed SecurityPolicy.id s.policies)
    (order : MapOrder SecurityPolicy) (info : CommitInfo) : Commit where
  entry := newEntry s order info
  table := s.policies
  keyed := keyed
  exact := sortedValues_perm order SecurityPolicy.sequence s.policies
  sorted := sortedValues_sorted order SecurityPolicy.sequence s.policies

abbrev storeAfter (calls : List Call) : Store := run apply newStore calls

theorem storeAfter_concat (calls : List Call) (call : Call) :
    storeAfter (calls ++ [call]) = apply (storeAfter calls) call :=
  run_concat apply newStore calls call

/-- The policy map right after the commit that produced a version. -/
def committedAt (calls : List Call) (version : Int) : Option (Table String SecurityPolicy) :=
  (firstAt apply Versioned.version newStore calls version).map Versioned.policies

structure Ledger (calls : List Call) (log : List Commit) : Prop where
  retained : (storeAfter calls).versions = (log.map Commit.entry).rtake maxVersions
  numbered : log.map (fun c => c.entry.version) =
    (List.range log.length).map fun i : Nat => (i : Int) + 1
  counted : (storeAfter calls).version = log.length
  keyed : Keyed SecurityPolicy.id (storeAfter calls).policies
  newest : ∀ c, log.getLast? = some c → c.table = (storeAfter calls).policies
  committed : ∀ c ∈ log, committedAt calls c.entry.version = some c.table

theorem apply_bumps (s : Store) (call : Call) :
    (apply s call).version = s.version ∨ (apply s call).version = s.version + 1 := by
  rcases apply_cases s call with ⟨held, applied⟩ | ⟨policies, order, info, applied, _⟩
  · left
    rw [applied]
  · right
    rw [applied, commit_version]

variable {calls : List Call} {table : Table String SecurityPolicy}

theorem committedAt_concat (call : Call) {version : Int}
    (known : committedAt calls version = some table) :
    committedAt (calls ++ [call]) version = some table := by
  obtain ⟨s, found, tableEq⟩ := map_eq_some_iff.mp known
  rw [committedAt, firstAt_concat_of_some apply Versioned.version call found, map_some, tableEq]

theorem ledger_nil : Ledger [] [] where
  retained := rfl
  numbered := rfl
  counted := rfl
  keyed := keyed_empty SecurityPolicy.id
  newest := by simp
  committed := by simp

variable {log : List Commit}

theorem ledger_keep {call : Call} {held : Option ConfigLock} (ledger : Ledger calls log)
    (applied : apply (storeAfter calls) call = { storeAfter calls with lock := held }) :
    Ledger (calls ++ [call]) log where
  retained := by
    rw [storeAfter_concat, applied]
    exact ledger.retained
  numbered := ledger.numbered
  counted := by
    rw [storeAfter_concat, applied]
    exact ledger.counted
  keyed := by
    rw [storeAfter_concat, applied]
    exact ledger.keyed
  newest := by
    rw [storeAfter_concat, applied]
    exact ledger.newest
  committed := by
    intro c member
    exact committedAt_concat call (ledger.committed c member)

theorem ledger_extend {call : Call}
    {policies : Table String SecurityPolicy} {order : MapOrder SecurityPolicy}
    {info : CommitInfo} (keyed : Keyed SecurityPolicy.id policies)
    (ledger : Ledger calls log) (applied : apply (storeAfter calls) call =
      (commit { storeAfter calls with policies := policies } order info).2) :
    Ledger (calls ++ [call])
      (log ++ [Commit.of { storeAfter calls with policies := policies } keyed order
        info]) where
  retained := by
    rw [storeAfter_concat, applied, commit_versions, map_append, map_singleton,
      ← Window.push_rtake (by decide), ← ledger.retained]
    rfl
  numbered := by
    have number : (newEntry { storeAfter calls with policies := policies } order
        info).version = (log.length : Int) + 1 := by
      rw [← ledger.counted]
      rfl
    rw [map_append, ledger.numbered, length_append, length_singleton,
      range_succ, map_append, map_singleton, map_singleton]
    congr 2
  counted := by
    rw [storeAfter_concat, applied, commit_version, length_append, length_singleton]
    simp only [ledger.counted]
    omega
  keyed := by
    rwa [storeAfter_concat, applied, commit_policies]
  newest := by
    intro c last
    rw [getLast?_concat, some.injEq] at last
    rw [storeAfter_concat, applied, commit_policies, ← last]
    rfl
  committed := by
    intro c member
    rw [mem_append, mem_singleton] at member
    rcases member with member | rfl
    · exact committedAt_concat call (ledger.committed c member)
    · have raised : (apply (storeAfter calls) call).version = (storeAfter calls).version + 1 := by
        rw [applied, commit_version]
      have first := firstAt_concat_new apply Versioned.version apply_bumps raised
      simp only [committedAt, Commit.of, newEntry, record]
      rw [first, applied, map_some, commit_policies]

theorem ledger_exists (calls : List Call) : ∃ log, Ledger calls log := by
  induction calls using reverseRecOn with
  | nil => exact ⟨[], ledger_nil⟩
  | append_singleton calls call ih =>
    obtain ⟨log, ledger⟩ := ih
    rcases apply_cases (storeAfter calls) call with
      ⟨held, applied⟩ | ⟨policies, order, info, applied, keeps⟩
    · exact ⟨log, ledger_keep ledger applied⟩
    · exact ⟨_, ledger_extend (keeps ledger.keyed) ledger applied⟩

theorem keyed_storeAfter (calls : List Call) :
    Keyed SecurityPolicy.id (storeAfter calls).policies := by
  obtain ⟨log, ledger⟩ := ledger_exists calls
  exact ledger.keyed

theorem committedAt_current (calls : List Call) :
    committedAt calls (storeAfter calls).version = some (storeAfter calls).policies := by
  induction calls using reverseRecOn with
  | nil => rfl
  | append_singleton calls call ih =>
    rw [storeAfter_concat]
    rcases apply_cases (storeAfter calls) call with
      ⟨held, applied⟩ | ⟨policies, order, info, applied, _⟩
    · rw [applied]
      exact committedAt_concat call ih
    · have raised : (apply (storeAfter calls) call).version = (storeAfter calls).version + 1 := by
        rw [applied, commit_version]
      have first := firstAt_concat_new apply Versioned.version apply_bumps raised
      rw [committedAt, raised, first, map_some]

theorem committedAt_le {version : Int} (committed : committedAt calls version = some table) :
    version ≤ (storeAfter calls).version := by
  obtain ⟨s, found, _⟩ := map_eq_some_iff.mp committed
  have reached := mem_of_find?_eq_some found
  have number : s.version = version := by simpa using find?_some found
  rw [← number]
  exact count_le_run apply Versioned.version apply_bumps s reached

section
variable {calls : List Call} {log : List Commit}

section
variable (ledger : Ledger calls log)

include ledger

theorem Ledger.length_versions :
    (storeAfter calls).versions.length = min log.length maxVersions := by
  rw [ledger.retained]
  simp [List.rtake]
  omega

variable (cv : ConfigVersion)

theorem Ledger.commit_of_mem
    (member : cv ∈ (storeAfter calls).versions) : ∃ c ∈ log, c.entry = cv := by
  rw [ledger.retained, List.rtake] at member
  exact List.mem_map.mp (mem_of_mem_drop member)

theorem Ledger.versions_consecutive :
    (storeAfter calls).versions.map ConfigVersion.version =
      (List.range (storeAfter calls).versions.length).map fun i : Nat =>
        (storeAfter calls).version - (storeAfter calls).versions.length + 1 +
          (i : Int) := by
  have lengths := ledger.length_versions
  have entryNumbers : (log.map Commit.entry).map ConfigVersion.version =
      (List.range log.length).map fun i : Nat => (i : Int) + 1 := by
    rw [List.map_map]
    exact ledger.numbered
  rw [lengths, ledger.counted, ledger.retained, List.rtake, map_drop, entryNumbers]
  apply ext_getElem
  · simp
    omega
  · intro i left right
    simp at right
    simp
    omega

theorem Ledger.versions_distinct :
    ((storeAfter calls).versions.map ConfigVersion.version).Nodup := by
  rw [ledger.versions_consecutive]
  grind [List.Nodup.map, nodup_range]

theorem Ledger.version_le
    (member : cv ∈ (storeAfter calls).versions) : cv.version ≤ (storeAfter calls).version := by
  have number := List.mem_map_of_mem (f := ConfigVersion.version) member
  rw [ledger.versions_consecutive] at number
  grind

theorem Ledger.newest_entry (last : (storeAfter calls).versions.getLast? = some cv) :
    ∃ c, log.getLast? = some c ∧ c.entry = cv := by
  rcases eq_nil_or_concat log with rfl | ⟨early, c, rfl⟩
  · rw [ledger.retained] at last
    simp [List.rtake] at last
  · refine ⟨c, by simp, ?_⟩
    have window : ((early ++ [c]).map Commit.entry).rtake maxVersions =
        (early.map Commit.entry).rtake 9 ++ [c.entry] := by
      rw [map_append, map_singleton]
      exact rtake_concat_succ ..
    rw [ledger.retained, concat_eq_append, window, getLast?_concat, some.injEq] at last
    exact last

end

end

/-- In every reachable state the history holds the last `min version 10` commits
with consecutive numbers, sorted snapshots with distinct ids and the current
policies on top; a refused call changes nothing. -/
theorem version_history_invariant (calls : List Call) :
    ((storeAfter calls).versions.length : Int) = min (storeAfter calls).version maxVersions ∧
    (storeAfter calls).versions.map ConfigVersion.version =
      (List.range (storeAfter calls).versions.length).map (fun i : Nat =>
        (storeAfter calls).version - (storeAfter calls).versions.length + 1 + (i : Int)) ∧
    (∀ cv ∈ (storeAfter calls).versions, cv.policies.Pairwise (fun a b => a.sequence ≤ b.sequence) ∧
      (cv.policies.map SecurityPolicy.id).Nodup) ∧
    (∀ cv, (storeAfter calls).versions.getLast? = some cv →
      cv.policies.Perm (values (storeAfter calls).policies)) ∧
    ∀ call, (answer (storeAfter calls) call).1.refused →
      apply (storeAfter calls) call = storeAfter calls := by
  obtain ⟨log, ledger⟩ := ledger_exists calls
  refine ⟨?_, ledger.versions_consecutive, ?_, ?_, ?_⟩
  · have lengths := ledger.length_versions
    have counted := ledger.counted
    omega
  · intro cv member
    obtain ⟨c, _, rfl⟩ := ledger.commit_of_mem cv member
    exact ⟨c.sorted, c.distinct⟩
  · intro cv last
    obtain ⟨c, newest, rfl⟩ := ledger.newest_entry cv last
    rw [← ledger.newest c newest]
    exact c.exact
  · intro call refused
    exact refused_changes_nothing refused

/-! ## Reverting -/

theorem lastWithVersion_of_mem {versions : List ConfigVersion} {cv : ConfigVersion}
    (member : cv ∈ versions) (distinct : (versions.map ConfigVersion.version).Nodup) :
    lastWithVersion versions cv.version = some cv := by
  induction versions using reverseRecOn with
  | nil => cases member
  | append_singleton early last ih =>
    rw [map_append, nodup_append'] at distinct
    obtain ⟨earlyDistinct, _, apart⟩ := distinct
    rw [lastWithVersion, foldl_append]
    simp
    rw [mem_append, mem_singleton] at member
    rcases member with member | rfl
    · have other : ¬ last.version = cv.version := by
        intro same
        exact apart (List.mem_map_of_mem member) (by simp [same])
      rw [if_neg other]
      exact ih member earlyDistinct
    · rw [if_pos rfl]

theorem getVersion_of_mem {s : Store} {cv : ConfigVersion} (member : cv ∈ s.versions)
    (distinct : (s.versions.map ConfigVersion.version).Nodup) :
    getVersion s cv.version = some cv := by
  obtain ⟨found, foundEq⟩ : ∃ found, getVersion s cv.version = some found := by
    cases result : getVersion s cv.version with
    | some found => exact ⟨found, rfl⟩
    | none =>
      have absent := find?_eq_none.mp result cv member
      simp at absent
  have foundMember : found ∈ s.versions := mem_of_find?_eq_some foundEq
  have foundVersion : found.version = cv.version := by
    simpa using find?_some foundEq
  rw [foundEq, inj_on_of_nodup_map distinct foundMember member foundVersion]

def Change.exchange : Change → Change
  | .added => .removed
  | .removed => .added
  | .modified => .modified

/-- What the difference of two maps says of an id, from what each holds under it. -/
def change : Option SecurityPolicy → Option SecurityPolicy → Option Change
  | none, none => none
  | none, some _ => some .added
  | some _, none => some .removed
  | some p, some q => if policyEqual p q then none else some .modified

theorem lookup_foldl_recordAdded (fromMap : Table String SecurityPolicy) (ids : List String)
    (id : String) : ∀ changes : Table String Change,
    (ids.foldl (recordAdded fromMap) changes).lookup id =
      if id ∈ ids ∧ fromMap.lookup id = none then some .added else changes.lookup id := by
  induction ids with
  | nil => simp
  | cons head rest ih =>
    intro changes
    rw [foldl_cons, ih]
    by_cases same : id = head
    · subst same
      cases found : fromMap.lookup id <;> simp [recordAdded, found]
    · cases found : fromMap.lookup head <;> simp [recordAdded, found, same]

theorem lookup_foldl_recordChanged (toMap : Table String SecurityPolicy) (id : String)
    (entries : List (Sigma fun _ : String => SecurityPolicy)) (distinct : entries.NodupKeys) :
    ∀ changes : Table String Change, (entries.foldl (recordChanged toMap) changes).lookup id =
      ((dlookup id entries).bind fun p => change (some p) (toMap.lookup id)).or
        (changes.lookup id) := by
  induction entries with
  | nil => simp
  | cons entry rest ih =>
    intro changes
    obtain ⟨key, p⟩ := entry
    rw [nodupKeys_cons] at distinct
    rw [foldl_cons, ih distinct.2]
    by_cases same : id = key
    · subst same
      rw [dlookup_eq_none.mpr distinct.1, dlookup_cons_eq]
      cases found : toMap.lookup id with
      | none => simp [recordChanged, change, found]
      | some q => by_cases equal : policyEqual p q <;> simp [recordChanged, change, found, equal]
    · rw [dlookup_cons_ne _ _ same]
      congr 1
      simp only [recordChanged]
      cases toMap.lookup key with
      | none => simp [same]
      | some q => by_cases equal : policyEqual p q <;> simp [equal, same]

theorem lookup_changesBetween (fromMap toMap : Table String SecurityPolicy) (id : String) :
    (changesBetween fromMap toMap).lookup id = change (fromMap.lookup id) (toMap.lookup id) := by
  rw [changesBetween, lookup_foldl_recordChanged _ _ _ fromMap.nodupKeys, lookup_foldl_recordAdded]
  change ((fromMap.lookup id).bind _).or _ = _
  have keys : id ∈ toMap.keys ↔ (toMap.lookup id).isSome := AList.lookup_isSome.symm
  simp only [keys]
  cases fromMap.lookup id with
  | none => cases toMap.lookup id <;> simp [change]
  | some p => simp

theorem change_exchange (p q : Option SecurityPolicy) :
    change q p = (change p q).map Change.exchange := by
  cases p <;> cases q <;> grind [change, policyEqual, Change.exchange]

theorem change_composes {p q r : Option SecurityPolicy} (changed : change p r ≠ none) :
    change p q ≠ none ∨ change q r ≠ none := by
  cases p <;> cases q <;> cases r <;> grind [change, policyEqual]

theorem change_self (held : Option SecurityPolicy) : change held held = none := by
  cases held <;> simp [change, policyEqual_refl]

theorem diff_of_same (s : Store) (first second : ConfigVersion)
    (distinct : (s.versions.map ConfigVersion.version).Nodup)
    (firstMember : first ∈ s.versions) (secondMember : second ∈ s.versions)
    (same : ∀ id, (policySnapshotMap first.policies).lookup id =
      (policySnapshotMap second.policies).lookup id) :
    diff s first.version second.version = some ∅ := by
  rw [diff, lastWithVersion_of_mem firstMember distinct,
    lastWithVersion_of_mem secondMember distinct]
  apply congrArg some
  apply eq_empty_of_lookup
  intro id
  rw [lookup_changesBetween, same, change_self]
  rfl

theorem Ledger.retained_after_revert
    (ledger : Ledger calls log) (cv : ConfigVersion) (order : MapOrder SecurityPolicy)
    (info : CommitInfo) (member : cv ∈ (storeAfter calls).versions) (stillRetained : cv.version ∈
      (commit (restore (storeAfter calls) cv) order info).2.versions.map ConfigVersion.version) :
    cv ∈ (commit (restore (storeAfter calls) cv) order info).2.versions := by
  obtain ⟨same, sameMember, sameVersion⟩ := List.mem_map.mp stillRetained
  rw [commit_versions] at sameMember
  rcases Window.mem_push sameMember with old | new
  · have sameEq : same = cv :=
      inj_on_of_nodup_map ledger.versions_distinct old member sameVersion
    rw [sameEq] at sameMember
    exact sameMember
  · have bound := ledger.version_le cv member
    have newVersion : same.version = (storeAfter calls).version + 1 := by
      rw [new]
      rfl
    omega

theorem snapshot_of_restored (s : Store) (cv : ConfigVersion) (order : MapOrder SecurityPolicy)
    (info : CommitInfo) (id : String) :
    (policySnapshotMap cv.policies).lookup id =
      (policySnapshotMap (newEntry (restore s cv) order info).policies).lookup id := by
  have rebuilt := lookup_indexBy_of_perm (keyed_indexBy SecurityPolicy.id cv.policies)
    (sortedValues_perm order SecurityPolicy.sequence _) id
  exact rebuilt.symm

/-- Reverting to a retained version succeeds, moves the version on by one, brings
back the map committed then, only ever evicts the oldest entry, and leaves no
difference between the two versions. -/
theorem revert_restores_committed (calls : List Call) (v : Int) (author : String)
    (order : MapOrder SecurityPolicy) (createdAt : Time)
    (retained : v ∈ (listVersions (storeAfter calls)).map ConfigVersion.version) :
    (revert (storeAfter calls) v author order createdAt).1 =
      ((storeAfter calls).version + 1, true) ∧
    (revert (storeAfter calls) v author order createdAt).2.version =
      (storeAfter calls).version + 1 ∧
    (∃ table, committedAt calls v = some table ∧
      ∀ id, get (revert (storeAfter calls) v author order createdAt).2 id = table.lookup id) ∧
    (∃ entry : ConfigVersion, entry.version = (storeAfter calls).version + 1 ∧
      (revert (storeAfter calls) v author order createdAt).2.versions =
        (if (storeAfter calls).versions.length = maxVersions
          then (storeAfter calls).versions.tail else (storeAfter calls).versions) ++ [entry]) ∧
    (v ∈ (listVersions (revert (storeAfter calls) v author order createdAt).2).map
        ConfigVersion.version →
      diff (revert (storeAfter calls) v author order createdAt).2 v
        ((storeAfter calls).version + 1) = some ∅) := by
  obtain ⟨log, ledger⟩ := ledger_exists calls
  obtain ⟨cv, member, rfl⟩ := List.mem_map.mp retained
  obtain ⟨c, logged, rfl⟩ := ledger.commit_of_mem cv member
  have found := getVersion_of_mem member ledger.versions_distinct
  have reverted := revert_of_found author order createdAt found
  have restored := lookup_indexBy_of_perm c.keyed c.exact
  rw [reverted]
  refine ⟨rfl, rfl, ⟨c.table, ledger.committed c logged, restored⟩, ?_, ?_⟩
  · have bounded : (storeAfter calls).versions.length ≤ maxVersions := by
      rw [ledger.length_versions]
      exact min_le_right ..
    refine ⟨newEntry (restore (storeAfter calls) c.entry) order
      (revertInfo c.entry.version author createdAt), rfl, ?_⟩
    rw [commit_versions, Window.push]
    congr 1
    exact if_congr ⟨fun full => le_antisymm bounded full, fun full => full.ge⟩ rfl rfl
  · intro stillRetained
    have after := storeAfter_concat calls ⟨0, .revert c.entry.version author order createdAt⟩
    rw [apply_revert author order 0 createdAt found] at after
    obtain ⟨_, ledgerAfter⟩ := ledger_exists
      (calls ++ [⟨0, .revert c.entry.version author order createdAt⟩])
    have distinct := ledgerAfter.versions_distinct
    rw [after] at distinct
    apply diff_of_same _ c.entry (newEntry (restore (storeAfter calls) c.entry) order
        (revertInfo c.entry.version author createdAt)) distinct
    · exact ledger.retained_after_revert c.entry order _ member stillRetained
    · rw [commit_versions, Window.push]
      exact mem_append_right _ (mem_singleton.mpr rfl)
    · exact snapshot_of_restored (storeAfter calls) c.entry order _

def createThenDelete : List Call :=
  [⟨0, .create { id := "p1", name := "Allow" } "alice" .asStored 0⟩,
    ⟨1, .delete "p1" "alice" .asStored 1⟩]

theorem createThenDelete_reverted :
    (revert (storeAfter createThenDelete) 1 "bob" .asStored 2).1 = (3, true) ∧
      diff (revert (storeAfter createThenDelete) 1 "bob" .asStored 2).2 1 3 = some ∅ := by
  have reverted := revert_restores_committed createThenDelete 1 "bob" .asStored 2 (by decide)
  exact ⟨reverted.1, reverted.2.2.2.2 (by decide)⟩

/-! ## Differences -/

/-- The policy under an id right after the commit that produced a version. -/
def policyAt (calls : List Call) (version : Int) (id : String) : Option SecurityPolicy :=
  (committedAt calls version).bind fun table => table.lookup id

def changeAt (calls : List Call) (a b : Int) (id : String) : Option Change :=
  (diff (storeAfter calls) a b).bind fun changes => changes.lookup id

abbrev Retained (calls : List Call) :=
  { v // v ∈ (listVersions (storeAfter calls)).map ConfigVersion.version }

/-- What a gateway that chains differences relies on. -/
structure DiffLaws (policy : Int → String → Option SecurityPolicy)
    (diff : Int → Int → String → Option Change) (a b c : Int) : Prop where
  added : ∀ id, diff a b id = some .added ↔ policy a id = none ∧ policy b id ≠ none
  removed : ∀ id, diff a b id = some .removed ↔ policy a id ≠ none ∧ policy b id = none
  modified : ∀ id, diff a b id = some .modified ↔
    ∃ p q, policy a id = some p ∧ policy b id = some q ∧ p ≠ q
  exchanged : ∀ id, diff b a id = (diff a b id).map Change.exchange
  unchanged : ∀ id, diff a a id = none
  composes : ∀ id, diff a c id ≠ none → diff a b id ≠ none ∨ diff b c id ≠ none

theorem changeAt_retained (calls : List Call) (a b : Retained calls) (id : String) :
    changeAt calls a b id = change (policyAt calls a id) (policyAt calls b id) := by
  obtain ⟨log, ledger⟩ := ledger_exists calls
  have snapshot : ∀ v : Retained calls, ∃ cv, lastWithVersion (storeAfter calls).versions v =
      some cv ∧ (policySnapshotMap cv.policies).lookup id = policyAt calls v id := by
    rintro ⟨v, retained⟩
    obtain ⟨cv, member, rfl⟩ := List.mem_map.mp retained
    obtain ⟨c, logged, rfl⟩ := ledger.commit_of_mem cv member
    refine ⟨c.entry, lastWithVersion_of_mem member ledger.versions_distinct, ?_⟩
    rw [policyAt, ledger.committed c logged]
    exact lookup_indexBy_of_perm c.keyed c.exact id
  obtain ⟨first, firstFound, firstPolicy⟩ := snapshot a
  obtain ⟨second, secondFound, secondPolicy⟩ := snapshot b
  rw [changeAt, diff, firstFound, secondFound, ← firstPolicy, ← secondPolicy]
  exact lookup_changesBetween _ _ id

/-- The differences of a store's retained versions are exact and compose exactly
when no two different policies of one id have the same encoding. Composition and
exchange need no condition; only `modified` does. -/
theorem diff_exact_iff (calls : List Call) :
    (∀ a b c : Retained calls, DiffLaws (policyAt calls) (changeAt calls) a b c) ↔
      ∀ (a b : Retained calls) (id : String) (p q : SecurityPolicy),
        policyAt calls a id = some p → policyAt calls b id = some q →
        policyEqual p q → p = q := by
  constructor
  · intro laws a b id p q before after equal
    by_contra different
    have modified := ((laws a b a).modified id).mpr ⟨p, q, before, after, different⟩
    rw [changeAt_retained, before, after] at modified
    simp [change, equal] at modified
  · intro faithful a b c
    refine ⟨?_, ?_, ?_, ?_, ?_, ?_⟩ <;> intro id <;> simp only [changeAt_retained]
    · cases policyAt calls a id <;> cases policyAt calls b id <;> simp [change]
    · cases policyAt calls a id <;> cases policyAt calls b id <;> simp [change]
    · have same := faithful a b id
      revert same
      cases policyAt calls a id <;> cases policyAt calls b id <;> simp [change]
      grind [policyEqual_refl]
    · exact change_exchange ..
    · exact change_self _
    · exact change_composes

/-- Two policies with a source list that is not JSON compare as equal. -/
def renamedUnencodable : List Call :=
  [⟨0, .create { id := "p1", name := "A", sourceAddresses := some "x" } "alice" .asStored 0⟩,
    ⟨1, .update { id := "p1", name := "B", sourceAddresses := some "x" } "alice" .asStored 1⟩]

theorem renamedUnencodable_unnoticed :
    (policyAt renamedUnencodable 1 "p1").map SecurityPolicy.name = some "A" ∧
      (policyAt renamedUnencodable 2 "p1").map SecurityPolicy.name = some "B" ∧
      changeAt renamedUnencodable 1 2 "p1" = none := by
  decide

end ManagementPlane.Policy
