import Mathlib.Data.Finset.Basic
import ManagementPlane.Lib.Tables
import ManagementPlane.Policy.Types

/-!
# The gateway registry

`internal/gateway/registry.go`: the in-memory cache of gateway nodes and the set
of gateways with a live policy stream. Every method holds the registry mutex and
is one step; each `time.Now()` is an argument. The writes to `gateway_nodes` of
`internal/db/gateway_store.go` run in the background or after the mutex is released,
so each is a step of its own; one that fails is none.
-/

namespace ManagementPlane.Gateway

open Tables Policy

inductive Status where
  | online
  | offline
  | degraded
  | draining
  deriving DecidableEq

structure GatewayNode where
  id : String
  region : String := ""
  name : String := ""
  location : String := ""
  country : String := ""
  provider : String := ""
  publicHost : String := ""
  quicEndpoint : String := ""
  tlsEndpoint : String := ""
  pingEndpoint : String := ""
  version : String := ""
  status : Status := .online
  deployMode : String := ""
  mtlsIssued : Bool := false
  certNotAfter : Option Time := none
  policyVersion : Int := 0
  lastHeartbeat : Time := 0
  metadata : List (String × String) := []
  registeredAt : Time := 0

def offlineAfter : Time := 5 * minute

def staleRemoveAfter : Time := 120 * minute

structure Registry where
  gateways : Table String GatewayNode
  streamConnected : Finset String
  store : Option (Table String GatewayNode)

def newRegistry : Registry := ⟨∅, ∅, none⟩

def updateNode (r : Registry) (gatewayID : String) (f : GatewayNode → GatewayNode) : Registry :=
  match r.gateways.lookup gatewayID with
  | none => r
  | some gw => { r with gateways := r.gateways.insert gatewayID (f gw) }

def setStreamConnected (r : Registry) (gatewayID : String) (connected : Bool) (now : Time) :
    Registry :=
  if connected then
    updateNode { r with streamConnected := insert gatewayID r.streamConnected } gatewayID
      fun gw => { gw with lastHeartbeat := now, status := .online }
  else { r with streamConnected := r.streamConnected.erase gatewayID }

/-- A known gateway keeps its certificate state and its registration time. -/
def register (r : Registry) (node : GatewayNode) (now registeredNow : Time) : Registry :=
  let seen := { node with lastHeartbeat := now, status := Status.online }
  let stored :=
    match r.gateways.lookup node.id with
    | some existing =>
      { seen with
        mtlsIssued := existing.mtlsIssued
        certNotAfter := existing.certNotAfter
        registeredAt := existing.registeredAt }
    | none => { seen with registeredAt := registeredNow }
  { r with gateways := r.gateways.insert node.id stored }

def heartbeat (r : Registry) (gatewayID : String) (policyVersion : Int) (now : Time) :
    Bool × Registry :=
  ((r.gateways.lookup gatewayID).isSome,
    updateNode r gatewayID fun gw =>
      { gw with lastHeartbeat := now, policyVersion := policyVersion, status := .online })

def markMTLSIssued (r : Registry) (gatewayID : String) (notAfter : Time) : Registry :=
  updateNode r gatewayID fun gw => { gw with mtlsIssued := true, certNotAfter := some notAfter }

/-- The body of the cleanup loop for one entry; `none` removes it. -/
def cleanupNode (streamConnected : Finset String) (clock : String → Time) (id : String)
    (gw : GatewayNode) : Option GatewayNode :=
  if id ∈ streamConnected then some gw
  else
    let since := clock id - gw.lastHeartbeat
    if staleRemoveAfter < since then none
    else if offlineAfter < since ∧ gw.status ≠ .offline then some { gw with status := .offline }
    else some gw

/-- One tick of the cleanup loop. Every entry reads the clock on its own. -/
def cleanup (r : Registry) (clock : String → Time) : Registry :=
  { r with gateways := updateAll (cleanupNode r.streamConnected clock) r.gateways }

inductive StoreWrite where
  | upsert (gw : GatewayNode)
  | updateHeartbeat (id : String) (policyVersion : Int) (now : Time)
  | markMTLSIssued (id : String) (notAfter : Time)
  | markOffline (now : Time)
  | deleteStale (now : Time)

/-- The rows that the two statements of the cleanup loop select. -/
def StoreWrite.selects (row : GatewayNode) : StoreWrite → Bool
  | .markOffline now => row.lastHeartbeat < now - offlineAfter && row.status ≠ .offline
  | .deleteStale now => row.lastHeartbeat < now - staleRemoveAfter
  | _ => false

def updateRow (rows : Table String GatewayNode) (id : String) (f : GatewayNode → GatewayNode) :
    Table String GatewayNode :=
  updateAll (fun key row => some (if key = id then f row else row)) rows

def persist (rows : Table String GatewayNode) (write : StoreWrite) : Table String GatewayNode :=
  match write with
  | .upsert gw =>
    rows.insert gw.id
      { gw with registeredAt := ((rows.lookup gw.id).getD gw).registeredAt }
  | .updateHeartbeat id policyVersion now =>
    updateRow rows id fun row =>
      { row with lastHeartbeat := now, status := .online, policyVersion := policyVersion }
  | .markMTLSIssued id notAfter =>
    updateRow rows id fun row => { row with mtlsIssued := true, certNotAfter := some notAfter }
  | .markOffline _ =>
    updateAll (fun _ row => some (if write.selects row then { row with status := .offline } else row))
      rows
  | .deleteStale _ => updateAll (fun _ row => if write.selects row then none else some row) rows

/-- The operations that gateways and the cleanup ticker trigger. -/
inductive Op where
  | register (node : GatewayNode) (now registeredNow : Time)
  | heartbeat (gatewayID : String) (policyVersion : Int) (now : Time)
  | markMTLSIssued (gatewayID : String) (notAfter : Time)
  | cleanup (clock : String → Time)
  | persist (write : StoreWrite)

def apply (r : Registry) : Op → Registry
  | .register node now registeredNow => register r node now registeredNow
  | .heartbeat gatewayID policyVersion now => (heartbeat r gatewayID policyVersion now).2
  | .markMTLSIssued gatewayID notAfter => markMTLSIssued r gatewayID notAfter
  | .cleanup clock => cleanup r clock
  | .persist write => { r with store := r.store.map (persist · write) }

/-- The row stays as it is through the statements of the cleanup loop, exactly when they do not
select it. -/
theorem lookup_persist_iff (rows : Table String GatewayNode) (id : String) {write : StoreWrite}
    (cleans : ∃ now, write = .markOffline now ∨ write = .deleteStale now) :
    (persist rows write).lookup id = rows.lookup id ↔
      ∀ row, rows.lookup id = some row → write.selects row = false := by
  obtain ⟨now, rfl | rfl⟩ := cleans
  all_goals
    rw [persist, lookup_updateAll]
    cases rows.lookup id with
    | none => simp
    | some row => ?_
  · have changed : ({ row with status := .offline } : GatewayNode) = row →
        StoreWrite.selects row (.markOffline now) = false := by
      intro same
      have offline : Status.offline = row.status := congrArg GatewayNode.status same
      simp [StoreWrite.selects, ← offline]
    simp
    grind
  · simp

theorem cleanup_keeps_connected {r : Registry} (clock : String → Time) {id : String}
    (connected : id ∈ r.streamConnected) :
    (cleanup r clock).gateways.lookup id = r.gateways.lookup id := by
  rw [cleanup, lookup_updateAll]
  cases r.gateways.lookup id with
  | none => rfl
  | some gw =>
    rw [Option.bind_some, cleanupNode, if_pos connected]

variable (r : Registry)

@[simp]
theorem streamConnected_updateNode (id : String) (f : GatewayNode → GatewayNode) :
    (updateNode r id f).streamConnected = r.streamConnected := by
  rw [updateNode]
  split <;> rfl

@[simp]
theorem streamConnected_set (id : String) (now : Time) :
    (setStreamConnected r id true now).streamConnected = insert id r.streamConnected := by
  rw [setStreamConnected, if_pos rfl, streamConnected_updateNode]

@[simp]
theorem streamConnected_clear (id : String) (now : Time) :
    (setStreamConnected r id false now).streamConnected = r.streamConnected.erase id := rfl

@[simp]
theorem streamConnected_apply (op : Op) : (apply r op).streamConnected = r.streamConnected := by
  cases op with
  | register node now registeredNow => rfl
  | heartbeat id policyVersion now | markMTLSIssued id notAfter =>
    exact streamConnected_updateNode r id _
  | cleanup clock | persist write => rfl

end ManagementPlane.Gateway
