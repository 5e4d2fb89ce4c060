import ManagementPlane.Lib.Tables
import ManagementPlane.Policy.Types

/-!
# Version control and the edit lock

The part the in-memory store (`internal/policy/store.go`) and the SQL store
(`internal/db/policy_store.go`) have in common: the history of the last ten
snapshots, the version counter, the edit lock, the buffered change channel and
`Diff`. `P` is what holds the policies: a map in memory, a table in SQL.

The version counter is unbounded: 2^63 commits are out of reach. Each
`time.Now()` is an argument of its own; `now` is the reading that decides
whether a lock has expired.
-/

namespace ManagementPlane.Policy

open Tables

structure Versioned (P : Type) where
  policies : P
  versions : List ConfigVersion
  version : Int
  lock : Option ConfigLock
  onChange : List Int

variable {P : Type}

def listVersions (s : Versioned P) : List ConfigVersion := s.versions

def getVersion (s : Versioned P) (version : Int) : Option ConfigVersion :=
  s.versions.find? fun cv => cv.version = version

def lock (s : Versioned P) (author : String) (now lockedNow expiresNow : Time) :
    (Option ConfigLock × Bool) × Versioned P :=
  let acquired : ConfigLock := ⟨author, lockedNow, expiresNow + lockDuration⟩
  match s.lock with
  | some held =>
    if now < held.expiresAt ∧ held.lockedBy ≠ author then ((some held, false), s)
    else ((some acquired, true), { s with lock := some acquired })
  | none => ((some acquired, true), { s with lock := some acquired })

def unlock (s : Versioned P) (author : String) (force : Bool) : Bool × Versioned P :=
  match s.lock with
  | none => (true, s)
  | some held =>
    if force = false ∧ held.lockedBy ≠ author then (false, s)
    else (true, { s with lock := none })

def getLock (s : Versioned P) (now : Time) : Option ConfigLock × Versioned P :=
  match s.lock with
  | none => (none, s)
  | some held =>
    if held.expiresAt < now then (none, { s with lock := none }) else (some held, s)

def checkLock (s : Versioned P) (author : String) (now : Time) : String :=
  match s.lock with
  | none => ""
  | some held =>
    if held.expiresAt < now then ""
    else if held.lockedBy ≠ author then "config locked by " ++ held.lockedBy
    else ""

/-- The arguments of a commit and the clock when it stamps the snapshot. -/
structure CommitInfo where
  author : String
  message : String
  changeType : ChangeType
  policyID : String
  createdAt : Time

def record (s : Versioned P) (snap : List SecurityPolicy) (info : CommitInfo) : ConfigVersion :=
  { version := s.version + 1
    policies := snap
    author := info.author
    message := info.message
    changeType := info.changeType
    policyID := info.policyID
    createdAt := info.createdAt }

/-- Bump the version, append the snapshot to the bounded history and notify the
channel unless its buffer is full. -/
def commitSnapshot (s : Versioned P) (snap : List SecurityPolicy) (info : CommitInfo) :
    Int × Versioned P :=
  let version := s.version + 1
  (version,
    { s with
      version := version
      versions := Window.push maxVersions s.versions (record s snap info)
      onChange :=
        if s.onChange.length < onChangeCap then s.onChange ++ [version] else s.onChange })

inductive Change where
  | added
  | removed
  | modified
  deriving DecidableEq

/-- The loop over the history has no `break`: the last match wins. -/
def lastWithVersion (versions : List ConfigVersion) (version : Int) : Option ConfigVersion :=
  versions.foldl (fun found cv => if cv.version = version then some cv else found) none

def policySnapshotMap (policies : List SecurityPolicy) : Table String SecurityPolicy :=
  indexBy SecurityPolicy.id policies

def recordAdded (fromMap : Table String SecurityPolicy) (changes : Table String Change)
    (id : String) : Table String Change :=
  match fromMap.lookup id with
  | none => changes.insert id .added
  | some _ => changes

def recordChanged (toMap : Table String SecurityPolicy) (changes : Table String Change)
    (entry : Sigma fun _ : String => SecurityPolicy) : Table String Change :=
  match toMap.lookup entry.1 with
  | none => changes.insert entry.1 .removed
  | some policy =>
    if policyEqual entry.2 policy then changes else changes.insert entry.1 .modified

def changesBetween (fromMap toMap : Table String SecurityPolicy) : Table String Change :=
  fromMap.entries.foldl (recordChanged toMap) (toMap.keys.foldl (recordAdded fromMap) ∅)

def diff (s : Versioned P) (fromVersion toVersion : Int) : Option (Table String Change) :=
  match lastWithVersion s.versions fromVersion, lastWithVersion s.versions toVersion with
  | some first, some second =>
    some (changesBetween (policySnapshotMap first.policies) (policySnapshotMap second.policies))
  | _, _ => none

end ManagementPlane.Policy
