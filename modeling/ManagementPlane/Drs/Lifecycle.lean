import ManagementPlane.Drs.Registration

/-!
# The life of a directory row

A row is `pending` when `Register` creates it, `active` once `Complete` has written it and
`deleted` once `Deregister` has. `Complete` takes a device code and never looks at it, and does
not look at the status of the row either.

Over every interleaving of the handlers the rows follow their lives as long as each `Complete`
presents a device code and a device id that one `Register` of the same organization returned, does
not read a deleted row, and is not overtaken between its two statements by a `Deregister`.
-/

namespace ManagementPlane.Drs

open Interleave Runs Tables List Option Bool

abbrev Requests := Pool DeviceTable Request Op Op.Ans Reply

abbrev Input := Interleave.Input Request Choice

def serve (svc : Service) : Requests → Input → Requests := step exec (handle svc)

def DeviceTable.status (s : DeviceTable) (id : String) : Option JoinStatus :=
  (s.rows.lookup id).map DeviceRow.joinStatus

def DeviceTable.key (s : DeviceTable) (id : String) : Option (String × String) :=
  (s.rows.lookup id).map fun row => (row.orgID, row.deviceID)

/-- The `Register` that created the row has returned the code. -/
def ReturnedFor (pool : Requests) (id code : String) : Prop :=
  ∃ j c body resp dev, pool.threads[j]? = some ⟨.register c body, .done (.registered resp)⟩ ∧
    resp.deviceCode = code ∧ (j, (⟨.createDevice dev, .ok id⟩ : Event Op Op.Ans)) ∈ pool.trace

/-- A row becomes active only in a step of a `Complete` with the row's device code. -/
def ActivatesByCode (svc : Service) (pool : Requests) (input : Input) : Prop :=
  ∀ id, pool.world.status id = some .pending →
    (serve svc pool input).world.status id = some .active →
    ∃ i choice c req, input = .step i choice ∧
      pool.requestAt i = some (.complete c (some req)) ∧ ReturnedFor pool id req.deviceCode

/-- A `Deregister` has written the row. -/
def Deregistered (pool : Requests) (id : String) : Prop :=
  ∃ j c deviceID dev, pool.requestAt j = some (.deregister c deviceID) ∧
    (j, (⟨.updateDevice dev, .ok ()⟩ : Event Op Op.Ans)) ∈ pool.trace ∧ dev.id = id

structure FollowsLifecycle (svc : Service) (inputs : List Input) : Prop where
  activates : ∀ visit ∈ visits (serve svc) (initial .empty) inputs,
    ActivatesByCode svc visit.1 visit.2
  staysOut : ∀ reached ∈ states (serve svc) (initial .empty) inputs, ∀ id,
    Deregistered reached id → reached.world.status id ≠ some .active

/-- A `Register` of the organization has returned the two codes. -/
def returnedTogether (pool : Requests) (orgID deviceCode userCode : String) : Bool :=
  pool.threads.any fun thread =>
    match thread with
    | ⟨.register c _, .done (.registered resp)⟩ =>
      c.orgID = orgID && resp.deviceCode = deviceCode && resp.userCode = userCode
    | _ => false

def Request.completes : Request → Bool
  | .complete _ _ => true
  | _ => false

def readsRow (id : String) : Event Op Op.Ans → Bool
  | ⟨.getDevice _ _, .ok dev⟩ => dev.id = id
  | _ => false

def writesRow : Event Op Op.Ans → Bool
  | ⟨.updateDevice _, _⟩ => true
  | _ => false

/-- A `Complete` that has read the row and has not written it yet. -/
def holds (pool : Requests) (id : String) (i : Nat) : Bool :=
  (pool.requestAt i).any Request.completes && (past pool.trace i).any (readsRow id) &&
    !(past pool.trace i).any writesRow

def Allowed (pool : Requests) : Input → Bool
  | .spawn _ => true
  | .step i _ =>
    match pool.threads[i]? with
    | some ⟨.complete c (some req), .call (.getDevice _ _) _⟩ =>
      returnedTogether pool c.orgID req.deviceCode req.deviceID &&
        (pool.world.find c.orgID req.deviceID).all fun found => found.2.joinStatus ≠ .deleted
    | some ⟨.deregister _ _, .call (.updateDevice dev) _⟩ =>
      (List.range pool.threads.length).all fun j => !holds pool dev.id j
    | _ => true

def Guard : Request → List (Event Op Op.Ans) → Op → Prop
  | .register c _, past, .createDevice dev =>
    dev.orgID = c.orgID ∧ dev.joinStatus = .pending ∧
      ∃ code, (⟨.generateCodes, .ok (code, dev.deviceID)⟩ : Event Op Op.Ans) ∈ past
  | .complete c (some req), _, .getDevice orgID deviceID =>
    orgID = c.orgID ∧ deviceID = req.deviceID
  | .complete _ (some _), past, .updateDevice dev =>
    dev.joinStatus = .active ∧ past.any (readsRow dev.id) = true ∧ past.any writesRow = false
  | .deregister _ _, past, .updateDevice dev =>
    dev.joinStatus = .deleted ∧ past.any (readsRow dev.id) = true
  | .deregister _ _, _, .getDevice _ _ => True
  | .getDevice _ _, _, .getDevice _ _ => True
  | .renewCert _ _, _, .getDevice _ _ => True
  | _, _, .generateCodes => True
  | _, _, .timeNow => True
  | .updatePosture _ _ _, _, .updateDevicePosture _ _ _ => True
  | _, _, _ => False

/-- A `Register` that returns codes has created the row under the user code. -/
def Post : Request → List (Event Op Op.Ans) → Reply → Prop
  | .register c _, past, .registered resp =>
    ∃ dev id, dev.orgID = c.orgID ∧ dev.deviceID = resp.userCode ∧
      (⟨.createDevice dev, .ok id⟩ : Event Op Op.Ans) ∈ past
  | _, _, _ => True

section
variable (svc : Service)

attribute [local simp] forall_except Guard Post

theorem handle_keeps (request : Request) :
    Keeps (Guard request) (Post request) (handle svc request) [] := by
  cases request with
  | register c body => cases body <;> simp [handle, Service.register]
  | complete c body =>
    cases body <;> simp [handle, Service.completeFinalize, readsRow, writesRow, -bind_pure_comp]
  | getDevice c id => simp [handle]
  | updatePosture c id body => cases body <;> simp [handle]
  | renewCert c id => simp [handle, Service.renewCert]
  | deregister c id => simp [handle, deregister, readsRow]

end

section
variable (choice : Choice) (s : DeviceTable)

theorem getDevice_ok {orgID deviceID : String} {dev : DeviceDirectory}
    (read : s.getDevice orgID deviceID = .ok dev) :
    s.find orgID deviceID = some (dev.id, dev.toDeviceRow) := by
  unfold DeviceTable.getDevice at read
  split at read
  · cases read
    assumption
  · cases read

theorem key_amend (id : String) {f : DeviceRow → DeviceRow}
    (keeps : ∀ row, (f row).orgID = row.orgID ∧ (f row).deviceID = row.deviceID) (other : String) :
    (s.amend id f keeps).key other = s.key other := by
  simp [DeviceTable.key, DeviceTable.amend, lookup_updateRow]
  split_ifs
  · cases s.rows.lookup other with
    | none => rfl
    | some row => simp [keeps row]
  · rfl

theorem status_amend (id : String) (f : DeviceRow → DeviceRow)
    (keeps : ∀ row, (f row).orgID = row.orgID ∧ (f row).deviceID = row.deviceID) (other : String) :
    (s.amend id f keeps).status other =
      if other = id then (s.rows.lookup other).map (fun row => (f row).joinStatus)
      else s.status other := by
  simp [DeviceTable.status, DeviceTable.amend, lookup_updateRow]
  split_ifs
  · exact Option.map_map ..
  · rfl

theorem exec_createDevice (dev : DeviceRow) :
    (∃ err, exec choice s (.createDevice dev) = (.error err, s)) ∨
      ∃ after, exec choice s (.createDevice dev) = (.ok choice.newID, after) ∧
        s.rows.lookup choice.newID = none ∧
        ∀ id, after.rows.lookup id =
          if id = choice.newID then some (dev.inserted choice.now) else s.rows.lookup id := by
  simp [exec]
  cases tried : attempt choice (s.createDevice choice.now choice.newID dev) with
  | error err => exact .inl ⟨err, rfl⟩
  | ok written =>
    have created := attempt_ok tried
    unfold DeviceTable.createDevice at created
    split_ifs at created with long taken absent
    cases created
    exact .inr ⟨_, rfl, not_isSome_iff_eq_none.mp taken,
      fun id => lookup_insert_if s.rows choice.newID id _⟩

theorem exec_updateDevice (dev : DeviceDirectory) :
    (∃ err, exec choice s (.updateDevice dev) = (.error err, s)) ∨
      ∃ after, exec choice s (.updateDevice dev) = (.ok (), after) ∧
        (∀ id, after.key id = s.key id) ∧
        ∀ id, after.status id =
          if id = dev.id then (s.status id).map (fun _ => dev.joinStatus) else s.status id := by
  simp [exec]
  cases tried : attempt choice (s.updateDevice choice.now dev) with
  | error err => exact .inl ⟨err, rfl⟩
  | ok written =>
    have updated := attempt_ok tried
    unfold DeviceTable.updateDevice at updated
    split_ifs at updated with long
    cases updated
    refine .inr ⟨_, rfl, key_amend s dev.id _, fun id => ?_⟩
    rw [status_amend, DeviceTable.status, Option.map_map]
    rfl

theorem updateDevicePosture_keeps (orgID deviceID : String) (posture : Posture) (id : String) :
    (s.updateDevicePosture choice.now orgID deviceID posture).key id = s.key id ∧
      (s.updateDevicePosture choice.now orgID deviceID posture).status id = s.status id := by
  unfold DeviceTable.updateDevicePosture
  split
  · exact ⟨rfl, rfl⟩
  · refine ⟨key_amend s _ _ id, ?_⟩
    rw [status_amend]
    split_ifs <;> rfl

theorem exec_updateDevicePosture (orgID deviceID : String) (posture : Posture) (id : String) :
    (exec choice s (.updateDevicePosture orgID deviceID posture)).2.key id = s.key id ∧
      (exec choice s (.updateDevicePosture orgID deviceID posture)).2.status id = s.status id := by
  simp [exec]
  grind [Except.ok.inj, attempt_ok, updateDevicePosture_keeps]

variable {key : String × String}

theorem exec_key (op : Op) {id : String} (known : s.key id = some key) :
    (exec choice s op).2.key id = some key := by
  cases op with
  | createDevice dev =>
    rcases exec_createDevice choice s dev with ⟨err, failed⟩ | ⟨after, done, absent, rows⟩
    · rwa [failed]
    · grind [DeviceTable.key]
  | updateDevice dev =>
    rcases exec_updateDevice choice s dev with ⟨err, failed⟩ | ⟨after, done, keys, -⟩
    · rwa [failed]
    · rwa [done, keys]
  | updateDevicePosture orgID deviceID posture =>
    grind [exec_updateDevicePosture]
  | generateCodes | timeNow | getDevice orgID deviceID => exact known

/-- A row has the status that it had before, unless the statement created the row or wrote its
status. -/
theorem exec_status {op : Op} {id : String} {status : JoinStatus}
    (now : (exec choice s op).2.status id = some status) :
    s.status id = some status ∨
      (∃ dev, op = .createDevice dev ∧ s.status id = none ∧ status = dev.joinStatus) ∨
      ∃ dev, op = .updateDevice dev ∧ dev.id = id ∧ status = dev.joinStatus := by
  cases op with
  | createDevice dev =>
    rcases exec_createDevice choice s dev with ⟨err, failed⟩ | ⟨after, done, absent, rows⟩
    · rw [failed] at now
      exact .inl now
    · rw [done, DeviceTable.status, rows] at now
      split_ifs at now with here
      · cases now
        refine .inr (.inl ⟨dev, rfl, ?_, rfl⟩)
        rw [DeviceTable.status, here, absent]
        rfl
      · exact .inl now
  | updateDevice dev =>
    rcases exec_updateDevice choice s dev with ⟨err, failed⟩ | ⟨after, done, -, statuses⟩
    · rw [failed] at now
      exact .inl now
    · grind [map_eq_some_iff]
  | updateDevicePosture orgID deviceID posture =>
    simp_all [exec_updateDevicePosture]
  | generateCodes | timeNow | getDevice orgID deviceID => exact .inl now

theorem status_of_key {id : String} (known : s.key id = some key) :
    ∃ status, s.status id = some status := by
  obtain ⟨row, found, -⟩ := map_eq_some_iff.mp known
  exact ⟨row.joinStatus, by rw [DeviceTable.status, found]; rfl⟩

theorem key_inj {first second : String} (known : s.key first = some key)
    (knownToo : s.key second = some key) : first = second := by
  obtain ⟨row, found, keyRow⟩ := map_eq_some_iff.mp known
  obtain ⟨other, foundOther, keyOther⟩ := map_eq_some_iff.mp knownToo
  have same := keyRow.trans keyOther.symm
  simp at same
  exact s.devices first second row other found foundOther same.1 same.2

theorem exec_getDevice {orgID deviceID : String} {dev : DeviceDirectory}
    (read : (exec choice s (.getDevice orgID deviceID)).1 = .ok dev) :
    s.find orgID deviceID = some (dev.id, dev.toDeviceRow) ∧
      s.key dev.id = some (orgID, deviceID) ∧ s.status dev.id = some dev.joinStatus := by
  have found := getDevice_ok s (attempt_ok read)
  obtain ⟨present, sameOrg, sameID⟩ := s.find_some found
  simp_all [DeviceTable.key, DeviceTable.status]

end

/-! ## The invariant -/

structure Sound (pool : Requests) : Prop where
  created : ∀ j dev id, (j, (⟨.createDevice dev, .ok id⟩ : Event Op Op.Ans)) ∈ pool.trace →
    pool.world.key id = some (dev.orgID, dev.deviceID)
  present : ∀ i orgID deviceID dev,
    (i, (⟨.getDevice orgID deviceID, .ok dev⟩ : Event Op Op.Ans)) ∈ pool.trace →
    ∃ key, pool.world.key dev.id = some key
  presented : ∀ i c req orgID deviceID dev, pool.requestAt i = some (.complete c (some req)) →
    (i, (⟨.getDevice orgID deviceID, .ok dev⟩ : Event Op Op.Ans)) ∈ pool.trace →
    ReturnedFor pool dev.id req.deviceCode
  held : ∀ i id, holds pool id i = true → pool.world.status id ≠ some .deleted
  out : ∀ id, Deregistered pool id → pool.world.status id = some .deleted

theorem readsRow_iff (trace : List (Nat × Event Op Op.Ans)) (i : Nat) (id : String) :
    (past trace i).any (readsRow id) = true ↔ ∃ orgID deviceID dev,
      (i, ⟨.getDevice orgID deviceID, .ok dev⟩) ∈ trace ∧ dev.id = id := by
  simp [mem_past_iff]
  constructor
  · rintro ⟨event, member, reads⟩
    unfold readsRow at reads
    split at reads
    · exact ⟨_, _, _, member, of_decide_eq_true reads⟩
    · cases reads
  · rintro ⟨orgID, deviceID, dev, member, same⟩
    exact ⟨_, member, decide_eq_true same⟩

section
variable (svc : Service) (pool : Requests) (request : Request)

theorem requestAt_serve_spawn {i : Nat} {event : Event Op Op.Ans} (kept : Kept Guard Post pool)
    (member : (i, event) ∈ pool.trace) :
    (serve svc pool (.spawn request)).requestAt i = pool.requestAt i :=
  requestAt_spawn exec (handle svc) request (kept.numbered _ member)

theorem returnedFor_spawn {id code : String} (returned : ReturnedFor pool id code) :
    ReturnedFor (serve svc pool (.spawn request)) id code := by
  obtain ⟨j, c, body, resp, dev, found, same, member⟩ := returned
  refine ⟨j, c, body, resp, dev, ?_, same, member⟩
  exact (getElem?_append_left (List.getElem?_eq_some_iff.mp found).1).trans found

theorem sound_spawn (kept : Kept Guard Post pool) (sound : Sound pool) :
    Sound (serve svc pool (.spawn request)) where
  created := sound.created
  present := sound.present
  presented := by
    intro i c req orgID deviceID dev asked member
    rw [requestAt_serve_spawn svc pool request kept member] at asked
    exact returnedFor_spawn svc pool request
      (sound.presented i c req orgID deviceID dev asked member)
  held := by
    intro i id holding
    apply sound.held i id
    have read : (past pool.trace i).any (readsRow id) = true := by
      simp only [holds, and_eq_true] at holding
      exact holding.1.2
    obtain ⟨orgID, deviceID, dev, member, -⟩ := (readsRow_iff pool.trace i id).mp read
    rw [holds, requestAt_serve_spawn svc pool request kept member] at holding
    exact holding
  out := by
    rintro id ⟨j, c, deviceID, dev, asked, member, same⟩
    rw [requestAt_serve_spawn svc pool request kept member] at asked
    exact sound.out id ⟨j, c, deviceID, dev, asked, member, same⟩

end

theorem guard_updateDevice {request : Request} {before : List (Event Op Op.Ans)}
    {dev : DeviceDirectory} (guarded : Guard request before (.updateDevice dev)) :
    before.any (readsRow dev.id) = true ∧
      ((∃ c req, request = .complete c (some req) ∧ dev.joinStatus = .active ∧
          before.any writesRow = false) ∨
        ∃ c id, request = .deregister c id ∧ dev.joinStatus = .deleted) := by
  cases request with
  | complete c body =>
    cases body with
    | none => exact guarded.elim
    | some req => exact ⟨guarded.2.1, .inl ⟨c, req, rfl, guarded.1, guarded.2.2⟩⟩
  | deregister c id => exact ⟨guarded.2, .inr ⟨c, id, rfl, guarded.1⟩⟩
  | register c body | getDevice c id | updatePosture c id body | renewCert c id =>
    exact guarded.elim

theorem guard_createDevice {request : Request} {before : List (Event Op Op.Ans)} {dev : DeviceRow}
    (guarded : Guard request before (.createDevice dev)) :
    dev.joinStatus = .pending ∧ request.completes = false := by
  cases request with
  | register c body => exact ⟨guarded.2.1, rfl⟩
  | complete c body => cases body <;> exact guarded.elim
  | getDevice c id | updatePosture c id body | renewCert c id | deregister c id =>
    exact guarded.elim

variable {pool : Requests}

theorem returned_of_read {orgID deviceCode deviceID id : String} (kept : Kept Guard Post pool)
    (sound : Sound pool) (together : returnedTogether pool orgID deviceCode deviceID = true)
    (known : pool.world.key id = some (orgID, deviceID)) : ReturnedFor pool id deviceCode := by
  obtain ⟨thread, member, matched⟩ := List.any_eq_true.mp together
  obtain ⟨j, found⟩ := getElem?_of_mem member
  split at matched
  · rename_i c body resp
    simp at matched
    obtain ⟨⟨sameOrg, sameCode⟩, sameUser⟩ := matched
    obtain ⟨dev, created, itsOrg, itsID, inserted⟩ := kept.keeps j _ found
    rw [mem_past_iff] at inserted
    have itsKey := sound.created j dev created inserted
    rw [itsOrg, itsID, sameOrg, sameUser] at itsKey
    have same : created = id := key_inj pool.world itsKey known
    rw [same] at inserted
    exact ⟨j, c, body, resp, dev, found, sameCode, inserted⟩
  · cases matched

section
variable {pool : Requests} {i : Nat} {choice : Choice} {request : Request} {op : Op}
variable {next : op.Ans → Handled Reply}
variable {after : Requests} (advanced : advance exec pool i choice request op next = after)

include advanced

theorem created_advance (sound : Sound pool) (j : Nat) (dev : DeviceRow) (id : String)
    (member : (j, ⟨.createDevice dev, .ok id⟩) ∈ after.trace) :
    after.world.key id = some (dev.orgID, dev.deviceID) := by
  subst advanced
  rcases mem_trace_advance member with before | ⟨-, now⟩
  · exact exec_key choice pool.world op (sound.created j dev id before)
  · obtain ⟨rfl, answer⟩ := Event.mk.inj now
    have answered := eq_of_heq answer
    rcases exec_createDevice choice pool.world dev with ⟨err, failed⟩ | ⟨after, done, -, rows⟩
    · rw [failed] at answered
      cases answered
    · rw [done] at answered
      cases answered
      simp only [advance, done, DeviceTable.key, rows, if_true]
      rfl

theorem present_advance (sound : Sound pool) (j : Nat) (orgID deviceID : String)
    (dev : DeviceDirectory) (member : (j, ⟨.getDevice orgID deviceID, .ok dev⟩) ∈ after.trace) :
    ∃ key, after.world.key dev.id = some key := by
  subst advanced
  rcases mem_trace_advance member with before | ⟨-, now⟩
  · obtain ⟨key, known⟩ := sound.present j orgID deviceID dev before
    exact ⟨key, exec_key choice pool.world op known⟩
  · obtain ⟨rfl, answer⟩ := Event.mk.inj now
    have read := exec_getDevice choice pool.world (eq_of_heq answer).symm
    exact ⟨_, read.2.1⟩

variable (calling : pool.threads[i]? = some ⟨request, .call op next⟩)

include calling

theorem returnedFor_advance (id code : String) (returned : ReturnedFor pool id code) :
    ReturnedFor after id code := by
  subst advanced
  obtain ⟨j, c, body, resp, dev, found, same, member⟩ := returned
  have other : i ≠ j := by
    intro here
    rw [here, found] at calling
    cases calling
  exact ⟨j, c, body, resp, dev, (getElem?_set_ne other).trans found, same, mem_append_left _ member⟩

omit advanced in
theorem requestAt_calling : pool.requestAt i = some request := by
  rw [Pool.requestAt, calling]
  rfl

section
variable (kept : Kept Guard Post pool) (allowed : Allowed pool (.step i choice) = true)
  (guarded : Guard request (past pool.trace i) op) (sound : Sound pool)

include kept allowed guarded sound

theorem presented_advance (j : Nat) (c : Caller) (req : CompleteRequest) (orgID deviceID : String)
    (dev : DeviceDirectory) (asked : after.requestAt j = some (.complete c (some req)))
    (member : (j, ⟨.getDevice orgID deviceID, .ok dev⟩) ∈ after.trace) :
    ReturnedFor after dev.id req.deviceCode := by
  subst advanced
  rw [requestAt_advance exec j choice calling] at asked
  apply returnedFor_advance rfl calling
  rcases mem_trace_advance member with before | ⟨rfl, now⟩
  · exact sound.presented j c req orgID deviceID dev asked before
  · obtain ⟨rfl, answer⟩ := Event.mk.inj now
    rw [requestAt_calling calling, some.injEq] at asked
    subst asked
    obtain ⟨rfl, rfl⟩ := guarded
    simp [Allowed, calling] at allowed
    have read := exec_getDevice choice pool.world (eq_of_heq answer).symm
    exact returned_of_read kept sound allowed.1 read.2.1

omit advanced in
theorem held_advance_other {j : Nat} {id : String} (holding : holds pool id j = true) :
    (exec choice pool.world op).2.status id ≠ some .deleted := by
  intro deleted
  rcases exec_status choice pool.world deleted with
    before | ⟨dev, rfl, -, pending⟩ | ⟨dev, rfl, rfl, status⟩
  · exact sound.held j id holding before
  · rw [(guard_createDevice guarded).1] at pending
    cases pending
  · obtain ⟨-, ⟨c, req, -, active, -⟩ | ⟨c, deviceID, rfl, -⟩⟩ := guard_updateDevice guarded
    · rw [active] at status
      cases status
    · have read : (past pool.trace j).any (readsRow dev.id) = true := by
        simp_all [holds]
      obtain ⟨_, _, _, member, -⟩ := (readsRow_iff pool.trace j dev.id).mp read
      simp only [Allowed, calling, List.all_eq_true, mem_range, not_eq_true'] at allowed
      rw [allowed j (kept.numbered _ member)] at holding
      cases holding

end

/-- A `Complete` that still holds the row after its operation held it before, or has just read
it. -/
theorem held_advance_self (allowed : Allowed pool (.step i choice) = true)
    (guarded : Guard request (past pool.trace i) op) (sound : Sound pool) {id : String}
    (holding : holds after id i = true) :
    (exec choice pool.world op).2.status id ≠ some .deleted := by
  subst advanced
  intro deleted
  rw [holds, requestAt_advance exec i choice calling, requestAt_calling calling] at holding
  simp only [advance, past_concat_self, any_some, any_append, any_cons,
    any_nil, Bool.or_false, and_eq_true, not_eq_true', or_eq_true,
    or_eq_false_iff] at holding
  obtain ⟨⟨completes, reads⟩, notBefore, notNow⟩ := holding
  rcases exec_status choice pool.world deleted with
    before | ⟨dev, rfl, -, -⟩ | ⟨dev, rfl, -, -⟩
  · rcases reads with earlier | now
    · apply sound.held i id _ before
      simp [holds, requestAt_calling calling, completes, earlier, notBefore]
    · unfold readsRow at now
      split at now
      · rename_i orgID deviceID dev same
        obtain ⟨rfl, answer⟩ := Event.mk.inj same
        have read := exec_getDevice choice pool.world (eq_of_heq answer)
        cases request with
        | complete c body =>
          cases body with
          | none => exact guarded
          | some req =>
            obtain ⟨rfl, rfl⟩ := guarded
            simp_all [Allowed]
        | _ => cases completes
      · cases now
  · rw [(guard_createDevice guarded).2] at completes
    cases completes
  · cases notNow

theorem out_advance (guarded : Guard request (past pool.trace i) op) (sound : Sound pool)
    (id : String) (deregistered : Deregistered after id) :
    (exec choice pool.world op).2.status id = some .deleted := by
  subst advanced
  obtain ⟨j, c, deviceID, dev, asked, member, same⟩ := deregistered
  rw [requestAt_advance exec j choice calling] at asked
  rcases mem_trace_advance member with before | ⟨rfl, now⟩
  · have deleted := sound.out id ⟨j, c, deviceID, dev, asked, before, same⟩
    obtain ⟨row, found, -⟩ := map_eq_some_iff.mp deleted
    have known : pool.world.key id = some (row.orgID, row.deviceID) := by
      rw [DeviceTable.key, found]
      rfl
    obtain ⟨status, later⟩ :=
      status_of_key _ (exec_key choice pool.world op known)
    rw [later]
    rcases exec_status choice pool.world later with
      unchanged | ⟨_, -, absent, -⟩ | ⟨written, rfl, rfl, isStatus⟩
    · rw [← unchanged, deleted]
    · rw [deleted] at absent
      cases absent
    · obtain ⟨reads, ⟨c', req, rfl, -, first⟩ | ⟨c', id', rfl, isDeleted⟩⟩ :=
        guard_updateDevice guarded
      · -- a `Complete` that writes the row would have held it
        refine absurd deleted (sound.held i written.id ?_)
        simp [holds, requestAt_calling calling, Request.completes, reads, first]
      · rw [isStatus, isDeleted]
  · obtain ⟨rfl, answer⟩ := Event.mk.inj now
    have answered := eq_of_heq answer
    rw [requestAt_calling calling, some.injEq] at asked
    subst asked
    obtain ⟨isDeleted, reads⟩ := guarded
    obtain ⟨orgID, readID, read, readBefore, sameRow⟩ := (readsRow_iff pool.trace j dev.id).mp reads
    obtain ⟨key, known⟩ := sound.present j orgID readID read readBefore
    obtain ⟨status, there⟩ := status_of_key pool.world known
    rcases exec_updateDevice choice pool.world dev with ⟨err, failed⟩ | ⟨after, done, -, statuses⟩
    · rw [failed] at answered
      cases answered
    · rw [done, statuses, if_pos same.symm, ← same, ← sameRow, there, map_some, isDeleted]

theorem sound_advance (kept : Kept Guard Post pool) (allowed : Allowed pool (.step i choice) = true)
    (guarded : Guard request (past pool.trace i) op) (sound : Sound pool) :
    Sound after where
  created := created_advance advanced sound
  present := present_advance advanced sound
  presented := presented_advance advanced calling kept allowed guarded sound
  held := by
    intro j id holding
    subst advanced
    by_cases here : i = j
    · subst here
      exact held_advance_self rfl calling allowed guarded sound holding
    · apply held_advance_other calling kept allowed guarded sound
      rw [holds, requestAt_advance exec j choice calling] at holding
      simp only [advance, past_concat_other here] at holding
      exact holding
  out := by
    subst advanced
    exact out_advance rfl calling guarded sound

omit advanced in
theorem activates_advance (svc : Service) (kept : Kept Guard Post pool) (sound : Sound pool) :
    ActivatesByCode svc pool (.step i choice) := by
  intro id pending active
  have moved : serve svc pool (.step i choice) = advance exec pool i choice request op next := by
    simp [serve, step, calling]
  rw [moved] at active
  have guarded := (kept.keeps i _ calling).1
  rcases exec_status choice pool.world active with
    same | ⟨_, -, absent, -⟩ | ⟨dev, rfl, rfl, status⟩
  · rw [pending] at same
    cases same
  · rw [pending] at absent
    cases absent
  · obtain ⟨reads, ⟨c, req, rfl, -, -⟩ | ⟨c, deviceID, rfl, deleted⟩⟩ := guard_updateDevice guarded
    · obtain ⟨orgID, deviceID, read, member, same⟩ := (readsRow_iff pool.trace i dev.id).mp reads
      refine ⟨i, choice, c, req, rfl, requestAt_calling calling, ?_⟩
      rw [← same]
      exact sound.presented i c req orgID deviceID read (requestAt_calling calling) member
    · rw [deleted] at status
      cases status

end

theorem sound_initial : Sound (initial .empty) where
  created := by
    intro j dev id member
    cases member
  present := by
    intro i orgID deviceID dev member
    cases member
  presented := by
    intro i c req orgID deviceID dev asked
    cases asked
  held := by
    intro i id holding
    cases holding
  out := by
    rintro id ⟨j, c, deviceID, dev, asked, -⟩
    cases asked

/-- The rows follow their lives in every run in which each `Complete` presents the codes of one
`Register`, reads a row that is not deleted and holds it until it has written it. -/
theorem follows_lifecycle (svc : Service) (inputs : List Input)
    (allowed : ∀ visit ∈ visits (serve svc) (initial .empty) inputs,
      Allowed visit.1 visit.2 = true) :
    FollowsLifecycle svc inputs := by
  have sound := pool_invariant exec (handle_keeps svc)
      (fun pool input => Allowed pool input = true) Sound
      (fun pool request kept inv => sound_spawn svc pool request kept inv)
      (fun pool i choice request op next kept calling ok guarded inv =>
        sound_advance rfl calling kept ok guarded inv)
      .empty sound_initial inputs allowed
  constructor
  · intro visit member
    obtain ⟨kept, inv⟩ := sound visit.1 (visit_mem_states member)
    rcases step_cases exec (handle svc) visit.1 visit.2 with
      ⟨request, spawned⟩ | same | ⟨i, choice, request, op, next, stepped, calling, -⟩
    · intro id pending active
      rw [spawned] at active
      exact absurd (pending.symm.trans active) (by decide)
    · intro id pending active
      rw [serve, same] at active
      exact absurd (pending.symm.trans active) (by decide)
    · grind [activates_advance]
  · intro reached member id deregistered active
    have deleted := (sound reached member).2.out id deregistered
    exact absurd (deleted.symm.trans active) (by decide)

def acme : Caller := { orgHeader := "acme" }

def registersLaptop : List Input :=
  [.spawn (.register acme
      (.ok { deviceName := "laptop", operatingSystem := "windows", csrPEM := "csr" })),
    .step 0 {}, .step 0 { newID := "dev-1" }]

def completesWith (deviceCode : String) (i : Nat) : List Input :=
  [.spawn (.complete acme
      (some { deviceCode := deviceCode, deviceID := "0000-0000", certFingerprint := "fp" })),
    .step i {}, .step i {}, .step i {}]

def deregistersLaptop (i : Nat) : List Input :=
  [.spawn (.deregister acme "0000-0000"), .step i {}, .step i {}]

def laptopCode : String := (generateCodes {}).1

/-- A laptop registers, completes with its code and is deregistered. -/
def joinsAndLeaves : List Input :=
  registersLaptop ++ completesWith laptopCode 1 ++ deregistersLaptop 2

theorem laptop_joins_and_leaves :
    FollowsLifecycle {} joinsAndLeaves ∧
      (run (serve {}) (initial .empty)
        (registersLaptop ++ completesWith laptopCode 1)).world.status "dev-1" = some .active ∧
      (run (serve {}) (initial .empty) joinsAndLeaves).world.status "dev-1" = some .deleted :=
  ⟨follows_lifecycle {} joinsAndLeaves (by decide +kernel), by decide +kernel, by decide +kernel⟩

def completesWithoutCode : List Input := registersLaptop ++ completesWith "" 1

def rejoins : List Input := joinsAndLeaves ++ completesWith laptopCode 3

def returnsCode (code : String) : Thread Request Op Op.Ans Reply → Bool
  | ⟨.register _ _, .done (.registered resp)⟩ => resp.deviceCode = code
  | _ => false

theorem returnsCode_of_returnedFor {id code : String}
    (returned : ReturnedFor pool id code) : pool.threads.any (returnsCode code) = true := by
  obtain ⟨j, c, body, resp, dev, found, same, -⟩ := returned
  exact List.any_eq_true.mpr ⟨_, mem_of_getElem? found, decide_eq_true same⟩

def deregisters (pool : Requests) (id : String) (entry : Nat × Event Op Op.Ans) : Bool :=
  match pool.requestAt entry.1, entry.2 with
  | some (.deregister _ _), ⟨.updateDevice dev, .ok ()⟩ => dev.id = id
  | _, _ => false

theorem deregistered_of_any {id : String}
    (written : pool.trace.any (deregisters pool id) = true) : Deregistered pool id := by
  obtain ⟨⟨j, event⟩, member, holds⟩ := List.any_eq_true.mp written
  unfold deregisters at holds
  split at holds
  · rename_i c deviceID dev asked isWrite
    cases isWrite
    exact ⟨j, c, deviceID, dev, asked, member, of_decide_eq_true holds⟩
  · cases holds

theorem lifecycle_not_enforced :
    ¬ FollowsLifecycle {} completesWithoutCode ∧ ¬ FollowsLifecycle {} rejoins := by
  constructor
  · intro follows
    have visited : (run (serve {}) (initial .empty) (completesWithoutCode.take 6),
        Input.step 1 {}) ∈ visits (serve {}) (initial .empty) completesWithoutCode :=
      mem_visits_iff.mpr ⟨completesWithoutCode.take 6, [], rfl, rfl⟩
    obtain ⟨i, choice, c, req, stepped, asked, returned⟩ :=
      follows.activates _ visited "dev-1" (by decide +kernel) (by decide +kernel)
    cases stepped
    cases asked
    have handedOut := returnsCode_of_returnedFor returned
    exact absurd handedOut (by decide +kernel)
  · intro follows
    exact follows.staysOut _ run_mem_states "dev-1"
      (deregistered_of_any (by decide +kernel)) (by decide +kernel)

end ManagementPlane.Drs
