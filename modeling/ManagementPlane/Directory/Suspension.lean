import ManagementPlane.Directory.Passes
import ManagementPlane.Directory.Scim

/-!
# Suspension by the identity provider

A client user that the identity provider has deactivated is `suspended` with the status source
`idp_policy`. Over runs of SCIM requests and reconciliations such a user stays suspended until
a request carries `active = true`, unless a PUT request leaves `active` out or a connector's
snapshot still has the user in an imported group: both set the status back to `active`.
-/

namespace ManagementPlane.Directory

open GoJson Interleave Runs Tables List Option SCIMStore
open Sso (Account Accounts)

abbrev SparesUsers {α : Type} (p : Handled α) : Prop :=
  Calls (fun op => op.writesClientUsers = false) p

def Call.writesClientUsers : Call → Bool
  | .createClientUser _ | .updateClientUser .. | .patchClientUser .. | .deleteClientUser _ => true
  | _ => false

section

attribute [local simp] forall_except Option.forall Bool.forall_bool Statement.writesClientUsers
attribute [local simp] wrap SCIMHandler.route

@[simp]
theorem query_spares (q : Query) : (Op.query q).writesClientUsers = false := rfl

@[simp]
theorem statement_spares (s : Statement) :
    (Op.statement s).writesClientUsers = s.writesClientUsers := rfl

@[simp]
theorem spares_withMembers (g : SCIMGroup) : SparesUsers (withMembers g) := by
  simp [withMembers, getGroupMembers]

@[simp]
theorem spares_membersOfAll (groups : List SCIMGroup) :
    SparesUsers (membersOfAll groups) := by
  induction groups with
  | nil => exact trivial
  | cons g rest ih => simp [membersOfAll, ih]

@[simp]
theorem spares_getGroup (id : String) : SparesUsers (getGroup id) := by
  simp [getGroup]

@[simp]
theorem spares_updateGroup (id : String) (g : SCIMGroup) :
    SparesUsers (SCIMStore.updateGroup id g) := by
  simp [SCIMStore.updateGroup]

@[simp]
theorem spares_classify (orgID : String) (members : List String) :
    SparesUsers (classifyGroupMemberIDs orgID members) := by
  suffices any : ∀ seen adminIDs clientIDs,
      SparesUsers (classify orgID seen adminIDs clientIDs members) from any [] [] []
  induction members with
  | nil => exact fun _ _ _ => trivial
  | cons id rest ih => simp [classify, ih]

variable (orgID : String) (origin : Origin)

theorem spares_patchAdminUser (id : String) (body : Option (List PatchOperation)) :
    SparesUsers (SCIMHandler.patchAdminUser origin id body) := by
  cases body with
  | none => exact trivial
  | some operations =>
    refine calls_bind (by simp [getAdminUser]) ?_
    rintro (err | _ | user)
    · exact trivial
    · exact trivial
    dsimp only
    cases operations.foldlM applyUserPatch user <;> simp [SCIMStore.updateAdminUser]

theorem spares_createGroup (body : Option ScimGroupRequest) :
    SparesUsers (SCIMHandler.createGroup orgID origin body) := by
  cases body with
  | none => exact trivial
  | some req =>
    simp [SCIMHandler.createGroup, createGroup, SCIMHandler.storeMembers, SCIMStore.setGroupMembers]

theorem spares_updateGroupRequest (id : String) (body : Option ScimGroupRequest) :
    SparesUsers (SCIMHandler.updateGroup origin id body) := by
  cases body with
  | none => exact trivial
  | some req =>
    refine calls_bind (spares_getGroup id) ?_
    rintro (err | _ | existing)
    · exact trivial
    · exact trivial
    cases req.members <;> simp [SCIMHandler.storeMembers, SCIMStore.setGroupMembers]

theorem spares_patchGroup (id : String) (body : Option (List PatchOperation)) :
    SparesUsers (SCIMHandler.patchGroup origin id body) := by
  cases body with
  | none => exact trivial
  | some operations =>
    refine calls_bind (spares_getGroup id) ?_
    rintro (err | _ | group)
    · exact trivial
    · exact trivial
    dsimp only
    cases operations.foldlM applyGroupPatch ⟨group.displayName, group.members⟩ <;>
      simp [SCIMStore.setGroupMembers]

theorem spares_route (call : Call) (other : call.writesClientUsers = false) :
    SparesUsers (SCIMHandler.route orgID origin call) := by
  cases call with
  | listAdminUsers params => simp [SCIMHandler.listAdminUsers, listAdminUsers]
  | createAdminUser body =>
    cases body <;> simp [SCIMHandler.createAdminUser, createAdminUser]
  | getAdminUser id => simp [SCIMHandler.getAdminUser, getAdminUser]
  | updateAdminUser id body =>
    cases body <;> simp [SCIMHandler.updateAdminUser, SCIMStore.updateAdminUser]
  | patchAdminUser id body => exact spares_patchAdminUser origin id body
  | deleteAdminUser id => simp [SCIMHandler.deleteAdminUser, SCIMStore.deleteAdminUser]
  | listClientUsers params => simp [SCIMHandler.listClientUsers, listClientUsers]
  | createClientUser body | updateClientUser id body | patchClientUser id body
  | deleteClientUser id => cases other
  | getClientUser id => simp [SCIMHandler.getClientUser, getClientUser]
  | listGroups params => simp [SCIMHandler.listGroups, listGroups]
  | createGroup body => exact spares_createGroup orgID origin body
  | getGroup id => simp [SCIMHandler.getGroup]
  | updateGroup id body => exact spares_updateGroupRequest origin id body
  | patchGroup id body => exact spares_patchGroup origin id body
  | deleteGroup id => simp [SCIMHandler.deleteGroup, SCIMStore.deleteGroup]
  | _ => exact trivial

end

/-- The record that a request writes over the row of a client user. -/
def Call.Writes (world : World) : Call → String → SCIMUser → Prop
  | .updateClientUser id (some req), other, u => other = id ∧ u = requestedClientUser "" req
  | .patchClientUser id (some operations), other, u =>
    other = id ∧ ∃ row, world.clientUsers.rows.lookup id = some row ∧
      operations.foldlM applyUserPatch (clientRecord id row) = .ok u
  | _, _, _ => False

inductive UserWrite (call : Call) (world now : World) : Prop
  | unchanged (same : now.clientUsers = world.clientUsers)
  | created (id : String) (row : Account Profile)
      (inserted : Inserted world.clientUsers.rows now.clientUsers.rows id row)
  | replaced (id : String) (u : SCIMUser) (time : Policy.Time) (writes : call.Writes world id u)
      (amended : Amended world.clientUsers.rows now.clientUsers.rows id
        (scimUpdate time (normalizeClientUserStatusFields u)))
  | deleted (id : String) (removed : ∀ other, now.clientUsers.rows.lookup other =
      if other = id then none else world.clientUsers.rows.lookup other)

section
variable {env : Env} {world : World}

theorem updateClientUser_write (call : Call) (id : String) (u : SCIMUser)
    (writes : call.Writes world id u) :
    Ends env (fun _ now => UserWrite call world now) (SCIMStore.updateClientUser id u) world := by
  apply ends_ask
  · exact fun err => .unchanged rfl
  · intro choice
    cases (Query.getClientUser id).run env choice world with
    | none => exact .unchanged rfl
    | some existing =>
      apply ends_run
      · exact fun err => .unchanged rfl
      · intro choice result after ran
        obtain ⟨users, -, amended, rfl⟩ := updateClientUser_ok ran
        exact .replaced id u choice.now writes amended

theorem route_write (orgID : String) (origin : Origin) (call : Call) :
    Ends env (fun _ now => UserWrite call world now) (SCIMHandler.route orgID origin call) world := by
  by_cases other : call.writesClientUsers = false
  · exact ensures_mono (fun _ _ same => .unchanged same)
      (users_of_calls (spares_route orgID origin call other))
  · cases call with
    | createClientUser body =>
      cases body with
      | none => exact .unchanged rfl
      | some req =>
        apply ends_run
        · exact fun err => .unchanged rfl
        · intro choice result after ran
          obtain ⟨row, users, -, -, -, inserted, rfl⟩ :=
            insertClientUser_ok ran
          exact .created choice.newID row inserted
    | updateClientUser id body =>
      cases body with
      | none => exact .unchanged rfl
      | some req =>
        exact ensures_then (updateClientUser_write (.updateClientUser id (some req)) id _ ⟨rfl, rfl⟩)
          fun _ _ write => write
    | patchClientUser id body =>
      cases body with
      | none => exact .unchanged rfl
      | some operations =>
        apply ends_ask
        · exact fun err => .unchanged rfl
        · intro choice
          have isAnswer : (Query.getClientUser id).run env choice world =
              (world.clientUsers.rows.lookup id).map (clientRecord id) := rfl
          rw [isAnswer]
          cases found : world.clientUsers.rows.lookup id with
          | none => exact .unchanged rfl
          | some row =>
            simp [wrap]
            cases patched : operations.foldlM applyUserPatch (clientRecord id row) with
            | error err => exact .unchanged rfl
            | ok u =>
              exact ensures_then (updateClientUser_write
                (.patchClientUser id (some operations)) id u ⟨rfl, row, found, patched⟩)
                fun _ _ write => write
    | deleteClientUser id =>
      apply ends_run
      · exact fun err => .unchanged rfl
      · intro choice result after ran
        cases ran
        exact .deleted id fun other => world.clientUsers.lookup_remove id other
    | _ => exact absurd rfl other

theorem scim_write (request : Request) :
    Ends env (fun _ now => UserWrite request.call world now) (scim env request) world := by
  refine ensures_check (fun _ => .unchanged rfl) fun _ => ?_
  apply ends_ask
  · exact fun err => .unchanged rfl
  · intro choice
    cases (Query.validateSCIMToken (env.hashSCIMToken
        (GoStrings.trimPrefix request.authorization bearerPrefix))).run env choice world with
    | none => exact .unchanged rfl
    | some orgID => exact route_write orgID request.origin request.call

end

mutual

/-- The value sets `active` to true under the path, or does so in a member of an object. -/
def carriesActive (path : String) : Json → Bool
  | .bool value => patchPath path = "active" && value
  | .obj fields => patchPath path = "" && carriesActiveField fields
  | _ => false

def carriesActiveField : List (String × Json) → Bool
  | [] => false
  | (key, raw) :: rest => carriesActive key raw || carriesActiveField rest

end

def PatchOperation.carriesActive (operation : PatchOperation) : Bool :=
  (operation.value.map (Directory.carriesActive operation.path)).getD false

/-- The request carries `active = true` for the client user. -/
def Call.activates (id : String) : Call → Bool
  | .updateClientUser other (some req) => other = id && req.active = some true
  | .patchClientUser other (some operations) => other = id && operations.any (·.carriesActive)
  | _ => false

def SCIMUser.IdPSuspended (u : SCIMUser) : Prop :=
  u.status = "suspended" ∧ u.statusSource = "idp_policy"

theorem set_text {x : Except String String} {f : String → SCIMUser} {patched : SCIMUser}
    (did : (do let text ← x; return f text) = Except.ok patched) : ∃ text, patched = f text := by
  cases x with
  | error err => cases did
  | ok text =>
    cases did
    exact ⟨text, rfl⟩

theorem setUserField_suspended {path : String} {value : Option Json} {u patched : SCIMUser}
    (suspended : u.IdPSuspended) (calm : path = "active" → value ≠ some (.bool true))
    (did : setUserField path value u = .ok patched) : patched.IdPSuspended := by
  unfold setUserField at did
  split at did
  · -- only the field `active` writes the status
    cases decoded : value.bind decodeBool with
    | none =>
      rw [decoded] at did
      cases did
    | some active =>
      rw [decoded] at did
      cases did
      obtain ⟨json, rfl, isBool⟩ := bind_eq_some_iff.mp decoded
      have isFalse : active = false := by
        cases json <;> simp_all [decodeBool]
      rw [isFalse]
      exact ⟨rfl, rfl⟩
  -- the other fields are texts and names, and an unknown field is refused
  all_goals
    first
    | obtain ⟨text, rfl⟩ := set_text did
      exact suspended
    | split at did <;> cases did <;> exact suspended
    | cases did

theorem patchUserField_suspended {op path : String} {value : Option Json} {u patched : SCIMUser}
    (suspended : u.IdPSuspended) (calm : path = "active" → value ≠ some (.bool true))
    (did : patchUserField op path value u = .ok patched) : patched.IdPSuspended := by
  unfold patchUserField at did
  split at did
  · unfold removeUserField at did
    split at did
    · cases did
      exact suspended
    · cases did
      exact suspended
    · cases did
      exact suspended
    · cases did
  · exact setUserField_suspended suspended calm did

mutual

theorem patchUserValue_suspended {op path : String} {value : Json} {u patched : SCIMUser}
    (suspended : u.IdPSuspended) (calm : carriesActive path value = false)
    (did : patchUserValue op path value u = .ok patched) : patched.IdPSuspended := by
  cases value with
  | obj fields =>
    simp [patchUserValue] at did
    split at did
    · rename_i pathless
      simp [carriesActive, pathless] at calm
      exact patchUserFields_suspended suspended calm did
    · exact patchUserField_suspended suspended (fun _ same => by cases same) did
  | null | num literal | str text | arr items =>
    simp [patchUserValue] at did
    grind [patchUserField_suspended]
  | bool value =>
    simp [patchUserValue] at did
    split at did
    · cases did
    · refine patchUserField_suspended suspended ?_ did
      intro isActive isTrue
      cases isTrue
      simp only [carriesActive, isActive, decide_true, Bool.and_true] at calm
      cases calm

theorem patchUserFields_suspended {op : String} {fields : List (String × Json)}
    {u patched : SCIMUser} (suspended : u.IdPSuspended) (calm : carriesActiveField fields = false)
    (did : patchUserFields op fields u = .ok patched) : patched.IdPSuspended := by
  cases fields with
  | nil =>
    simp [patchUserFields] at did
    cases did
    exact suspended
  | cons field rest =>
    obtain ⟨key, raw⟩ := field
    simp [carriesActiveField] at calm
    simp [patchUserFields] at did
    split at did
    · exact patchUserFields_suspended suspended calm.2 did
    · cases first : patchUserValue op key raw u with
      | error err =>
        rw [first] at did
        cases did
      | ok between =>
        rw [first] at did
        exact patchUserFields_suspended (patchUserValue_suspended suspended calm.1 first) calm.2 did

end

theorem applyUserPatch_suspended {operation : PatchOperation} {u patched : SCIMUser}
    (suspended : u.IdPSuspended) (calm : operation.carriesActive = false)
    (did : applyUserPatch u operation = .ok patched) : patched.IdPSuspended := by
  unfold applyUserPatch at did
  simp only at did
  split at did
  · cases did
  · cases given : operation.value with
    | none =>
      grind [patchUserField_suspended]
    | some value =>
      rw [given] at did
      simp [PatchOperation.carriesActive, given] at calm
      exact patchUserValue_suspended suspended calm did

theorem patches_suspended (operations : List PatchOperation) :
    ∀ u patched : SCIMUser, u.IdPSuspended → operations.any (·.carriesActive) = false →
    operations.foldlM applyUserPatch u = .ok patched → patched.IdPSuspended := by
  induction operations with
  | nil =>
    intro u patched suspended calm did
    cases did
    exact suspended
  | cons operation rest ih =>
    intro u patched suspended calm did
    rw [any_cons, Bool.or_eq_false_iff] at calm
    rw [foldlM_cons] at did
    cases first : applyUserPatch u operation with
    | error err =>
      rw [first] at did
      cases did
    | ok between =>
      rw [first] at did
      exact ih between patched (applyUserPatch_suspended suspended calm.1 first) calm.2 did

/-! ## Runs -/

def IdPSuspended (world : World) (id : String) : Prop :=
  ((world.clientUsers.rows.lookup id).map fun row => (row.status, row.details.statusSource)) =
    some ("suspended", some "idp_policy")

def Active (world : World) (id : String) : Prop :=
  ((world.clientUsers.rows.lookup id).map fun row => row.status) = some "active"

instance (world : World) (id : String) : Decidable (IdPSuspended world id) :=
  inferInstanceAs (Decidable (_ = _))

instance (world : World) (id : String) : Decidable (Active world id) :=
  inferInstanceAs (Decidable (_ = _))

theorem idpSuspended_iff (world : World) (id : String) :
    IdPSuspended world id ↔ ∃ row, world.clientUsers.rows.lookup id = some row ∧
      row.status = "suspended" ∧ row.details.statusSource = some "idp_policy" := by
  simp [IdPSuspended]

/-- A SCIM request, an administrator who lifts a suspension, a pass of a connector, or anything
that leaves the client users alone: synchronizing a snapshot, changing an imported group and the
like. -/
inductive Action where
  | scim (request : Request) (choices : Nat → Choice)
  | reactivate (orgID id actorID reason : String) (choices : Nat → Choice)
  | reconcile (connectorID orgID domain : String) (choices : Nat → Choice)
  | elsewhere (other : World)

def Action.activates (id : String) : Action → Bool
  | .scim request _ => request.call.activates id
  | _ => false

def act (env : Env) (world : World) : Action → World
  | .scim request choices => ((scim env request).eval (exec env) choices world).2
  | .reactivate orgID id actorID reason choices =>
    ((SCIMStore.reactivateClientUser orgID id actorID reason).eval (exec env) choices world).2
  | .reconcile connectorID orgID domain choices =>
    ((ProvisioningStore.reconcile connectorID orgID domain).eval (exec env) choices world).2
  | .elsewhere other => { other with clientUsers := world.clientUsers }

/-- A PUT request that leaves `active` out is not for a user that the identity provider has
suspended. -/
def Call.Respects (world : World) : Call → Prop
  | .updateClientUser id (some req) => req.active = none → ¬ IdPSuspended world id
  | _ => True

/-- A pass finds no user that the identity provider has suspended among those who join. -/
def Respects (world : World) : Action → Prop
  | .scim request _ => request.call.Respects world
  | .reconcile connectorID orgID _ _ =>
    ∀ u ∈ snapshotOf world connectorID, Joins world orgID u →
      Unmatched (IdPSuspended world) world orgID u.sid
  | _ => True

section
variable {env : Env} {world now : World}

theorem scimUpdate_suspended (time : Policy.Time) {u : SCIMUser} (row : Account Profile)
    (suspended : u.IdPSuspended) :
    (scimUpdate time (normalizeClientUserStatusFields u) row).status = "suspended" ∧
      (scimUpdate time (normalizeClientUserStatusFields u) row).details.statusSource =
        some "idp_policy" := by
  simp [scimUpdate, normalizeClientUserStatusFields, suspended.1, suspended.2, nilIfEmpty]

theorem writes_suspended {call : Call} {id : String} {u : SCIMUser}
    (writes : call.Writes world id u) (suspended : IdPSuspended world id)
    (respects : call.Respects world) (calm : call.activates id = false) : u.IdPSuspended := by
  unfold Call.Writes at writes
  split at writes
  · obtain ⟨rfl, rfl⟩ := writes
    rename_i req
    cases given : req.active with
    | none => exact absurd suspended (respects given)
    | some active =>
      cases active with
      | true => simp [Call.activates, given] at calm
      | false => simp [requestedClientUser, setSCIMUserStatusMetadata, given, SCIMUser.IdPSuspended,
          scimActiveToStatus]
  · obtain ⟨rfl, row, found, patched⟩ := writes
    simp only [Call.activates, decide_true, Bool.true_and] at calm
    refine patches_suspended _ _ u ?_ calm patched
    obtain ⟨same, isSame, status, source⟩ := (idpSuspended_iff ..).mp suspended
    rw [found] at isSame
    cases isSame
    simp [SCIMUser.IdPSuspended, clientRecord, status, source]
  · cases writes

theorem write_suspended {call : Call} {id : String} (write : UserWrite call world now)
    (suspended : IdPSuspended world id) (respects : call.Respects world)
    (calm : call.activates id = false) :
    IdPSuspended now id ∨ now.clientUsers.rows.lookup id = none := by
  obtain ⟨row, found, status, source⟩ := (idpSuspended_iff ..).mp suspended
  cases write with
  | unchanged same =>
    left
    rwa [IdPSuspended, same]
  | created newID newRow inserted =>
    left
    have another : id ≠ newID := by
      rintro rfl
      rw [inserted.fresh] at found
      cases found
    rw [idpSuspended_iff]
    refine ⟨row, ?_, status, source⟩
    rwa [inserted.lookup, if_neg another]
  | replaced writtenID u time writes amended =>
    left
    rw [idpSuspended_iff, amended]
    grind [scimUpdate_suspended, writes_suspended]
  | deleted goneID removed =>
    grind [idpSuspended_iff]

theorem reactivate_suspended (orgID id actorID reason : String) :
    Ends env (fun _ now => KeptRows (IdPSuspended world) world now)
      (SCIMStore.reactivateClientUser orgID id actorID reason) world := by
  have kept : KeptRows (IdPSuspended world) world world := fun _ _ => rfl
  apply ends_ask
  · exact fun err => kept
  · intro choice
    have isAnswer : (Query.getClientUser id).run env choice world =
        (world.clientUsers.rows.lookup id).map (clientRecord id) := rfl
    rw [isAnswer]
    cases found : world.clientUsers.rows.lookup id with
    | none => exact kept
    | some row =>
      refine ensures_check (fun _ => kept) fun _ => ?_
      refine ensures_check (fun _ => kept) fun _ => ?_
      refine ensures_check (fun _ => kept) fun isLocal => ?_
      have other : ¬ IdPSuspended world id := by
        intro suspended
        obtain ⟨same, isSame, -, source⟩ := (idpSuspended_iff ..).mp suspended
        rw [found] at isSame
        cases isSame
        exact isLocal (by simp [clientRecord, source])
      apply ends_run
      · exact fun err => kept
      · intro choice result after ran
        obtain ⟨f, users, amended, rfl⟩ := reactivateClientUser_ok ran
        exact kept_amended kept amended other

theorem act_suspended {action : Action} {id : String} (suspended : IdPSuspended world id)
    (respects : Respects world action) (calm : action.activates id = false) :
    IdPSuspended (act env world action) id ∨
      (act env world action).clientUsers.rows.lookup id = none := by
  cases action with
  | scim request choices =>
    have write := eval_ensures choices (fun _ => trivial) (@scim_write env world request)
    exact write_suspended write suspended respects calm
  | reactivate orgID other actorID reason choices =>
    have kept : KeptRows (IdPSuspended world) world
        (act env world (.reactivate orgID other actorID reason choices)) :=
      eval_ensures choices (fun _ => trivial) (reactivate_suspended orgID other actorID reason)
    left
    rwa [IdPSuspended, kept id suspended]
  | reconcile connectorID orgID domain choices =>
    have present : ∀ other, IdPSuspended world other →
        (world.clientUsers.rows.lookup other).isSome := by
      grind [idpSuspended_iff]
    have inactive : Inactive (IdPSuspended world) world orgID := by
      intro other row isSuspended found active
      grind [idpSuspended_iff]
    have kept : KeptRows (IdPSuspended world) world
        (act env world (.reconcile connectorID orgID domain choices)) :=
      (eval_ensures choices (fun _ => trivial) (reconcile_kept domain present respects inactive)).1
    left
    rwa [IdPSuspended, kept id suspended]
  | elsewhere other => exact .inl suspended

theorem run_suspended (id : String) (actions : List Action) :
    ∀ world : World, IdPSuspended world id →
    (∀ visit ∈ visits (act env) world actions, Respects visit.1 visit.2) →
    (∀ action ∈ actions, action.activates id = false) →
    (∀ reached ∈ states (act env) world actions, reached.clientUsers.rows.lookup id ≠ none) →
    IdPSuspended (Runs.run (act env) world actions) id := by
  induction actions with
  | nil => exact fun world suspended _ _ _ => suspended
  | cons action rest ih =>
    intro world suspended respects calm present
    have later : act env world action ∈ states (act env) (act env world action) rest := by
      cases rest <;> exact mem_cons_self
    have after : IdPSuspended (act env world action) id ∨
        (act env world action).clientUsers.rows.lookup id = none :=
      act_suspended suspended (respects (world, action) mem_cons_self)
        (calm action mem_cons_self)
    have stays := after.resolve_right (present _ (mem_cons_of_mem _ later))
    exact ih _ stays (fun visit member => respects visit (mem_cons_of_mem _ member))
      (fun other member => calm other (mem_cons_of_mem _ member))
      fun reached member => present reached (mem_cons_of_mem _ member)

end

/-- In every run of respectful steps, a user that the identity provider has suspended and that
is active later was activated by a SCIM request that carries `active = true`, or was deleted in
between. -/
theorem idp_suspension_sticky (env : Env) (world : World) (first second : List Action) (id : String)
    (respects : ∀ visit ∈ visits (act env) world (first ++ second), Respects visit.1 visit.2)
    (suspended : IdPSuspended (Runs.run (act env) world first) id)
    (again : Active (Runs.run (act env) world (first ++ second)) id) :
    (∃ action ∈ second, action.activates id = true) ∨
      ∃ reached ∈ states (act env) (Runs.run (act env) world first) second,
        reached.clientUsers.rows.lookup id = none := by
  by_contra neither
  rw [not_or] at neither
  have stays : IdPSuspended (Runs.run (act env) (Runs.run (act env) world first) second) id := by
    apply run_suspended id second _ suspended
    · intro visit member
      grind [visits_append, mem_append_right]
    · grind
    · exact fun reached member gone => neither.2 ⟨reached, member, gone⟩
  rw [run_append] at again
  obtain ⟨row, found, status, -⟩ := (idpSuspended_iff ..).mp stays
  rw [Active, found, map_some, status] at again
  exact absurd again (by decide)

/-- Carol was deactivated by the identity provider; a connector knows them too. -/
def suspendedWorld : World where
  organizations := ["org"]
  providers := (∅ : Table String Provider).insert "okta" ⟨"org", some "token", true⟩
  admins := .empty
  clientUsers := .ofRows [("carol",
    { orgID := "org"
      email := "carol@org.example"
      name := "Carol"
      status := "suspended"
      oauthProvider := some provisionSource
      oauthSubject := some "S-1"
      lastLoginAt := none
      details :=
        { scimExternalID := some "S-1"
          statusSource := some "idp_policy"
          createdAt := 0
          updatedAt := 0 } })]
  groups := (∅ : Table String Group).insert "staff"
    { orgID := "org"
      displayName := "Staff"
      externalID := some "G-1"
      source := "ldap"
      importEnabled := true
      createdAt := 0
      updatedAt := 0 }
  adminGroups := []
  clientGroups := []
  connectorGroups := (∅ : Table (String × String) ConnectorGroup).insert ("ad", "G-1")
    ⟨some "Staff", none, true⟩
  connectorUsers := (∅ : Table (String × String) ConnectorUser).insert ("ad", "S-1")
    { email := some "carol@org.example"
      enabled := some true
      groupSIDs := some (.arr [.str "G-1"]) }

def forCarol (call : Call) : Action :=
  .scim ⟨"Bearer token", ⟨true, "scim.example"⟩, call⟩ fun _ => {}

def retitled : Action :=
  forCarol (.patchClientUser "carol" (some [⟨"replace", "title", some (.str "Engineer")⟩]))

def reactivated : Action :=
  forCarol (.patchClientUser "carol" (some [⟨"replace", "active", some (.bool true)⟩]))

theorem carol_reactivated :
    IdPSuspended suspendedWorld "carol" ∧
      ((∃ action ∈ [retitled, reactivated], action.activates "carol" = true) ∨
        ∃ reached ∈ states (act demoEnv) suspendedWorld [retitled, reactivated],
          reached.clientUsers.rows.lookup "carol" = none) := by
  have suspended : IdPSuspended suspendedWorld "carol" := by decide +kernel
  refine ⟨suspended, idp_suspension_sticky demoEnv suspendedWorld [] [retitled, reactivated]
    "carol" ?_ suspended (by decide +kernel)⟩
  intro visit member
  simp [visits] at member
  rcases member with rfl | rfl <;> exact trivial

def renamed : Action :=
  forCarol (.updateClientUser "carol" (some { userName := "carol@org.example" }))

theorem carol_active_again :
    IdPSuspended suspendedWorld "carol" ∧ renamed.activates "carol" = false ∧
      Active (act demoEnv suspendedWorld renamed) "carol" := by
  decide +kernel

-- the connector's next pass has the same effect
example : Active (act demoEnv suspendedWorld
    (.reconcile "ad" "org" "org.example" fun _ => {})) "carol" := by
  decide +kernel

end ManagementPlane.Directory
