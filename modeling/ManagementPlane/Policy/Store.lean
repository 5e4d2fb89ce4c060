import ManagementPlane.Lib.Runs
import ManagementPlane.Policy.Versioning

/-!
# The in-memory policy store

`internal/policy/store.go`: a map of policies under version control. Every
method runs under the store mutex, so one call is one step. A loop over the
policy map takes the order in which it visits the entries, and the unstable
`sort.Slice` after it is a sort of that order.

A sequence number can be anything a request carries, so the automatic sequence
wraps as `int` does.
-/

namespace ManagementPlane.Policy

open Tables Runs

abbrev Store := Versioned (Table String SecurityPolicy)

def newStore : Store := ⟨∅, [], 0, none, []⟩

def list (s : Store) (order : MapOrder SecurityPolicy) : List SecurityPolicy :=
  sortedValues order SecurityPolicy.sequence s.policies

def get (s : Store) (id : String) : Option SecurityPolicy := s.policies.lookup id

def snapshot (s : Store) (order : MapOrder SecurityPolicy) : List SecurityPolicy :=
  sortedValues order SecurityPolicy.sequence s.policies

def newEntry (s : Store) (order : MapOrder SecurityPolicy) (info : CommitInfo) : ConfigVersion :=
  record s (snapshot s order) info

def commit (s : Store) (order : MapOrder SecurityPolicy) (info : CommitInfo) : Int × Store :=
  commitSnapshot s (snapshot s order) info

def maxSequence (s : Store) : Int :=
  (values s.policies).foldl (fun max p => if p.sequence > max then p.sequence else max) 0

def assignSequence (s : Store) (p : SecurityPolicy) : SecurityPolicy :=
  if p.sequence ≤ 0 then { p with sequence := (maxSequence s + 10).bmod (2 ^ 64) } else p

def create (s : Store) (p : SecurityPolicy) (author : String)
    (order : MapOrder SecurityPolicy) (now createdAt : Time) : (Int × String) × Store :=
  let msg := checkLock s author now
  if msg ≠ "" then ((0, msg), s)
  else
    let stored := assignSequence s p
    let committed := commit { s with policies := s.policies.insert stored.id stored } order
      ⟨author, "Policy created: " ++ stored.name, .create, stored.id, createdAt⟩
    ((committed.1, ""), committed.2)

def update (s : Store) (p : SecurityPolicy) (author : String)
    (order : MapOrder SecurityPolicy) (now createdAt : Time) :
    (Int × Bool × String) × Store :=
  let msg := checkLock s author now
  if msg ≠ "" then ((0, false, msg), s)
  else
    match s.policies.lookup p.id with
    | none => ((0, false, ""), s)
    | some _ =>
      let committed := commit { s with policies := s.policies.insert p.id p } order
        ⟨author, "Policy updated: " ++ p.name, .update, p.id, createdAt⟩
      ((committed.1, true, ""), committed.2)

def delete (s : Store) (id author : String) (order : MapOrder SecurityPolicy)
    (now createdAt : Time) : (Int × Bool × String) × Store :=
  let msg := checkLock s author now
  if msg ≠ "" then ((0, false, msg), s)
  else
    match s.policies.lookup id with
    | none => ((0, false, ""), s)
    | some p =>
      let committed := commit { s with policies := s.policies.erase id } order
        ⟨author, "Policy deleted: " ++ p.name, .delete, id, createdAt⟩
      ((committed.1, true, ""), committed.2)

def revert (s : Store) (targetVersion : Int) (author : String)
    (order : MapOrder SecurityPolicy) (createdAt : Time) : (Int × Bool) × Store :=
  match s.versions.find? fun cv => cv.version = targetVersion with
  | none => ((0, false), s)
  | some target =>
    let committed := commit
      { s with policies := indexBy SecurityPolicy.id target.policies } order
      ⟨author, "Reverted to version " ++ toString targetVersion, .revert, "", createdAt⟩
    ((committed.1, true), committed.2)

def systemOrgID : String := "a0000000-0000-0000-0000-000000000001"

def defaultPolicies : List SecurityPolicy :=
  [ { id := "default-allow-all", orgID := systemOrgID, name := "Allow All (Dev)",
      sequence := 1000, enabled := true, action := "allow",
      logTraffic := true, logSecurityEvents := true },
    { id := "block-malware-domains", orgID := systemOrgID,
      name := "Block Known Malware Domains",
      sequence := 10, enabled := true, action := "deny",
      dnsFilterEnabled := true,
      dnsCustomBlocklist := some ["*.malware.test", "*.phishing.test", "evil.example.com"],
      logTraffic := true, logSecurityEvents := true } ]

def loadDefaults (s : Store) (order : MapOrder SecurityPolicy) (createdAt : Time) : Store :=
  (commit
    { s with policies := defaultPolicies.foldl (fun table p => table.insert p.id p) s.policies }
    order ⟨"system", "Default policies loaded", .create, "", createdAt⟩).2

/-! ## Calls -/

inductive Op where
  | lock (author : String) (lockedNow expiresNow : Time)
  | unlock (author : String) (force : Bool)
  | getLock
  | create (p : SecurityPolicy) (author : String) (order : MapOrder SecurityPolicy)
      (createdAt : Time)
  | update (p : SecurityPolicy) (author : String) (order : MapOrder SecurityPolicy)
      (createdAt : Time)
  | delete (id author : String) (order : MapOrder SecurityPolicy) (createdAt : Time)
  | revert (targetVersion : Int) (author : String) (order : MapOrder SecurityPolicy)
      (createdAt : Time)
  | loadDefaults (order : MapOrder SecurityPolicy) (createdAt : Time)

/-- A call and the clock when it takes the mutex. -/
structure Call where
  now : Time
  op : Op

inductive Reply where
  | lock (current : Option ConfigLock) (ok : Bool)
  | unlock (ok : Bool)
  | getLock (current : Option ConfigLock)
  | create (version : Int) (msg : String)
  | update (version : Int) (ok : Bool) (msg : String)
  | delete (version : Int) (ok : Bool) (msg : String)
  | revert (version : Int) (ok : Bool)
  | loadDefaults

def answer (s : Store) (call : Call) : Reply × Store :=
  match call.op with
  | .lock author lockedNow expiresNow =>
    let result := lock s author call.now lockedNow expiresNow
    (.lock result.1.1 result.1.2, result.2)
  | .unlock author force =>
    let result := unlock s author force
    (.unlock result.1, result.2)
  | .getLock =>
    let result := getLock s call.now
    (.getLock result.1, result.2)
  | .create p author order createdAt =>
    let result := create s p author order call.now createdAt
    (.create result.1.1 result.1.2, result.2)
  | .update p author order createdAt =>
    let result := update s p author order call.now createdAt
    (.update result.1.1 result.1.2.1 result.1.2.2, result.2)
  | .delete id author order createdAt =>
    let result := delete s id author order call.now createdAt
    (.delete result.1.1 result.1.2.1 result.1.2.2, result.2)
  | .revert targetVersion author order createdAt =>
    let result := revert s targetVersion author order createdAt
    (.revert result.1.1 result.1.2, result.2)
  | .loadDefaults order createdAt => (.loadDefaults, loadDefaults s order createdAt)

def apply (s : Store) (call : Call) : Store := (answer s call).2

def Call.author (call : Call) : String :=
  match call.op with
  | .lock author _ _ => author
  | .unlock author _ => author
  | .getLock => ""
  | .create _ author _ _ => author
  | .update _ author _ _ => author
  | .delete _ author _ _ => author
  | .revert _ author _ _ => author
  | .loadDefaults _ _ => "system"

/-- A call that was turned down: locked out, or nothing to act on. -/
def Reply.refused : Reply → Prop
  | .lock _ ok => ok = false
  | .unlock ok => ok = false
  | .getLock _ => False
  | .create _ msg => msg ≠ ""
  | .update _ ok _ => ok = false
  | .delete _ ok _ => ok = false
  | .revert _ ok => ok = false
  | .loadDefaults => False

theorem refused_changes_nothing {s : Store} {call : Call}
    (refused : (answer s call).1.refused) : (answer s call).2 = s := by
  obtain ⟨now, op⟩ := call
  cases op with
  | lock author lockedNow expiresNow =>
    cases held : s.lock with
    | none => simp [answer, lock, held, Reply.refused] at refused
    | some l =>
      by_cases blocked : now < l.expiresAt ∧ l.lockedBy ≠ author
      · simp [answer, lock, held, blocked]
      · simp [answer, lock, held, blocked, Reply.refused] at refused
  | unlock author force =>
    cases held : s.lock with
    | none => simp [answer, unlock, held, Reply.refused] at refused
    | some l =>
      by_cases blocked : force = false ∧ l.lockedBy ≠ author
      · simp [answer, unlock, held, blocked]
      · simp [answer, unlock, held, blocked, Reply.refused] at refused
  | getLock | loadDefaults order createdAt => exact False.elim refused
  | create p author order createdAt =>
    by_cases locked : checkLock s author now = ""
    · simp [answer, create, locked, Reply.refused] at refused
    · simp [answer, create, locked]
  | update p author order createdAt =>
    by_cases locked : checkLock s author now = ""
    · cases found : s.policies.lookup p.id with
      | none => simp [answer, update, locked, found]
      | some old => simp [answer, update, locked, found, Reply.refused] at refused
    · simp [answer, update, locked]
  | delete id author order createdAt =>
    by_cases locked : checkLock s author now = ""
    · cases found : s.policies.lookup id with
      | none => simp [answer, delete, locked, found]
      | some old => simp [answer, delete, locked, found, Reply.refused] at refused
    · simp [answer, delete, locked]
  | revert targetVersion author order createdAt =>
    cases found : s.versions.find? fun cv => cv.version = targetVersion with
    | none => simp [answer, revert, found]
    | some target => simp [answer, revert, found, Reply.refused] at refused

/-! ## What one call can do

Either only the lock changes, or the map is replaced by another keyed map and
committed. -/

def restore (s : Store) (target : ConfigVersion) : Store :=
  { s with policies := indexBy SecurityPolicy.id target.policies }

def revertInfo (targetVersion : Int) (author : String) (createdAt : Time) : CommitInfo :=
  ⟨author, "Reverted to version " ++ toString targetVersion, .revert, "", createdAt⟩

theorem revert_of_found {s : Store} {targetVersion : Int} {target : ConfigVersion}
    (author : String) (order : MapOrder SecurityPolicy) (createdAt : Time)
    (found : getVersion s targetVersion = some target) :
    revert s targetVersion author order createdAt =
      ((s.version + 1, true),
        (commit (restore s target) order (revertInfo targetVersion author createdAt)).2) := by
  simp [getVersion] at found
  rw [revert, found]
  rfl

theorem apply_revert {s : Store} {targetVersion : Int} {target : ConfigVersion}
    (author : String) (order : MapOrder SecurityPolicy) (now createdAt : Time)
    (found : getVersion s targetVersion = some target) :
    apply s ⟨now, .revert targetVersion author order createdAt⟩ =
      (commit (restore s target) order (revertInfo targetVersion author createdAt)).2 := by
  simp [apply, answer, revert_of_found author order createdAt found]

theorem apply_cases (s : Store) (call : Call) : (∃ held, apply s call = { s with lock := held }) ∨
      ∃ policies order info, apply s call = (commit { s with policies := policies } order info).2 ∧
        (Keyed SecurityPolicy.id s.policies → Keyed SecurityPolicy.id policies) := by
  obtain ⟨now, op⟩ := call
  have same : ∃ held, s = { s with lock := held } := ⟨s.lock, rfl⟩
  cases op with
  | lock author lockedNow expiresNow =>
    left
    simp [apply, answer, lock]
    grind
  | unlock author force =>
    left
    simp [apply, answer, unlock]
    grind
  | getLock =>
    left
    simp [apply, answer, getLock]
    grind
  | create p author order createdAt =>
    simp [apply, answer, create]
    grind [keyed_insert]
  | update p author order createdAt =>
    simp [apply, answer, update]
    grind [keyed_insert]
  | delete id author order createdAt =>
    simp [apply, answer, delete]
    grind [keyed_erase]
  | revert targetVersion author order createdAt =>
    cases found : getVersion s targetVersion with
    | none =>
      left
      simp only [getVersion] at found
      simpa [apply, answer, revert, found] using same
    | some target =>
      right
      exact ⟨_, _, _, apply_revert author order now createdAt found,
        fun _ => keyed_indexBy SecurityPolicy.id target.policies⟩
  | loadDefaults order createdAt =>
    right
    exact ⟨_, _, _, rfl, keyed_foldl SecurityPolicy.id defaultPolicies s.policies⟩

variable (s : Store) (order : MapOrder SecurityPolicy) (info : CommitInfo)

@[simp]
theorem commit_version : (commit s order info).2.version = s.version + 1 := rfl

@[simp]
theorem commit_policies : (commit s order info).2.policies = s.policies := rfl

@[simp]
theorem commit_versions : (commit s order info).2.versions =
    Window.push maxVersions s.versions (newEntry s order info) := rfl

end ManagementPlane.Policy
