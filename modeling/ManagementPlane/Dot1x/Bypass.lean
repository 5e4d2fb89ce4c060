import ManagementPlane.Dot1x.Sessions

/-!
# MAC authentication bypass and tenants

`RegisterMAC` keeps one entry for each address, whichever organization it is for, and the bypass
does not ask whose entry it finds. So what one organization gets is what the last registration of
the address says, and this is its own business exactly while that registration is its own or like
its own.
-/

namespace ManagementPlane.Dot1x

open GoBinary Policy Tables List

/-- The last registration of an address, unless the address has been removed since. -/
def registration (mac : Bytes) (inputs : List Input) : Option MACAuthEntry :=
  inputs.foldl (fun entry input => input.entry mac entry) none

def Input.isOwn (orgID : Bytes) (input : Input) : Bool :=
  match input.call with
  | .registerMAC entry => entry.orgID = orgID
  | _ => true

def ownCalls (orgID : Bytes) (inputs : List Input) : List Input := inputs.filter (Input.isOwn orgID)

theorem registration_concat (mac : Bytes) (inputs : List Input) (input : Input) :
    registration mac (inputs ++ [input]) = input.entry mac (registration mac inputs) := by
  rw [registration, foldl_append]
  rfl

theorem reach_macDB (env : Env) (inputs : List Input) (mac : Bytes) :
    (reach env inputs).macDB.lookup mac = registration mac inputs := by
  induction inputs using reverseRecOn with
  | nil => rfl
  | append_singleton inputs input ih =>
    rw [reach_concat, step_macDB, registration_concat, ih]

/-- An organization's own registrations say the same as all of them where the last one is its own,
and nothing where there is none. -/
structure Covered (orgID : Bytes) (all own : Option MACAuthEntry) : Prop where
  mine : ∀ entry, all = some entry → entry.orgID = orgID → own = some entry
  absent : all = none → own = none

theorem covered_entry (orgID mac : Bytes) (input : Input) (all own : Option MACAuthEntry)
    (covered : Covered orgID all own) : Covered orgID (input.entry mac all) (input.entry mac own) := by
  obtain ⟨call, choice⟩ := input
  cases call with
  | registerMAC entry =>
    simp [Input.entry]
    split_ifs
    · exact ⟨fun _ found _ => found, fun absent => by cases absent⟩
    · exact covered
  | removeMAC other =>
    simp [Input.entry]
    split_ifs
    · exact ⟨fun _ found => (by cases found), fun _ => rfl⟩
    · exact covered
  | _ => exact covered

theorem covered_foreign {orgID : Bytes} (mac : Bytes) {input : Input} {all own : Option MACAuthEntry}
    (foreign : input.isOwn orgID = false) (covered : Covered orgID all own) :
    Covered orgID (input.entry mac all) own := by
  obtain ⟨call, choice⟩ := input
  cases call with
  | registerMAC entry =>
    have other : entry.orgID ≠ orgID := by simpa [Input.isOwn] using foreign
    simp [Input.entry]
    split_ifs
    · refine ⟨?_, fun absent => by cases absent⟩
      intro found same mine
      cases same
      exact absurd mine other
    · exact covered
  | _ => cases foreign

theorem registration_covered (orgID mac : Bytes) (inputs : List Input) :
    Covered orgID (registration mac inputs) (registration mac (ownCalls orgID inputs)) := by
  induction inputs using reverseRecOn with
  | nil => exact ⟨nofun, fun _ => rfl⟩
  | append_singleton inputs input ih =>
    rw [ownCalls, filter_append, ← ownCalls, registration_concat, filter_singleton]
    cases own : input.isOwn orgID with
    | true =>
      rw [cond_true, registration_concat]
      exact covered_entry orgID mac input _ _ ih
    | false =>
      rw [cond_false, append_nil]
      exact covered_foreign mac own ih

def bypassAnswer (choice : Choice) (req : AuthRequest) : Option MACAuthEntry → AuthResponse
  | none => rejected "MAC address not in whitelist"
  | some entry =>
    { (newSession req (text "mab:" ++ entry.deviceName) choice.clock).grant with
      assignedVLAN := entry.vlan, segmentGroup := entry.segmentGroup }

def MACAuthEntry.SameAccess (entry own : MACAuthEntry) : Prop :=
  entry.vlan = own.vlan ∧ entry.segmentGroup = own.segmentGroup ∧ entry.deviceName = own.deviceName

theorem bypassAnswer_eq_iff (choice : Choice) (req : AuthRequest) (entry own : MACAuthEntry) :
    bypassAnswer choice req (some entry) = bypassAnswer choice req (some own) ↔
      entry.SameAccess own := by
  simp [bypassAnswer, MACAuthEntry.SameAccess, newSession, Session.grant, AuthResponse.mk.injEq]
  tauto

section
variable (env : Env) {req : AuthRequest}

theorem authenticate_mab (a : Authenticator) (choice : Choice) (method : req.eapMethod = .mab) :
    (authenticate env a choice req).1 =
      some (bypassAnswer choice req (a.macDB.lookup (normalizeMAC req.macAddress))) := by
  simp [authenticate, method, authenticateMAB]
  cases a.macDB.lookup (normalizeMAC req.macAddress) with
  | none => rfl
  | some entry => rfl

def answer (inputs : List Input) (choice : Choice) (req : AuthRequest) : Option AuthResponse :=
  (authenticate env (reach env inputs) choice req).1

theorem answer_mab (inputs : List Input) (choice : Choice) (method : req.eapMethod = .mab) :
    answer env inputs choice req =
      some (bypassAnswer choice req (registration (normalizeMAC req.macAddress) inputs)) := by
  rw [answer, authenticate_mab env _ _ method, reach_macDB]

/-- The answer follows the organization's own last registration that is not removed, and is the
same without the registrations for other organizations. -/
structure PerTenant (before : List Input) (choice : Choice) (req : AuthRequest) : Prop where
  registered : ∀ resp, answer env before choice req = some resp → resp.result = .success →
    ∃ own, registration (normalizeMAC req.macAddress) (ownCalls req.orgID before) = some own ∧
      resp.assignedVLAN = own.vlan ∧ resp.segmentGroup = own.segmentGroup
  unaffected : answer env before choice req = answer env (ownCalls req.orgID before) choice req

/-- The last registration of the address, unless removed, is the organization's own, or like its
own. -/
def Undisturbed (before : List Input) (req : AuthRequest) : Prop :=
  ∀ entry, registration (normalizeMAC req.macAddress) before = some entry →
    entry.orgID = req.orgID ∨
      ∃ own, registration (normalizeMAC req.macAddress) (ownCalls req.orgID before) = some own ∧
        entry.SameAccess own

theorem unaffected_iff (before : List Input) (choice : Choice) (method : req.eapMethod = .mab) :
    answer env before choice req = answer env (ownCalls req.orgID before) choice req ↔
      Undisturbed before req := by
  rw [answer_mab env _ _ method, answer_mab env _ _ method, Option.some.injEq, Undisturbed]
  have covered := registration_covered req.orgID (normalizeMAC req.macAddress) before
  generalize registration (normalizeMAC req.macAddress) before = all at covered ⊢
  generalize registration (normalizeMAC req.macAddress) (ownCalls req.orgID before) = own at covered ⊢
  constructor
  · rintro same entry rfl
    cases own with
    | none => cases congrArg AuthResponse.result same
    | some own => exact .inr ⟨own, rfl, (bypassAnswer_eq_iff choice req entry own).mp same⟩
  · intro undisturbed
    cases all with
    | none => rw [covered.absent rfl]
    | some entry =>
      rcases undisturbed entry rfl with mine | ⟨own, rfl, like⟩
      · rw [covered.mine entry rfl mine]
      · exact (bypassAnswer_eq_iff choice req entry own).mpr like

theorem perTenant_iff (before : List Input) (choice : Choice) (method : req.eapMethod = .mab) :
    PerTenant env before choice req ↔ Undisturbed before req := by
  rw [← unaffected_iff env before choice method]
  constructor
  · intro perTenant
    exact perTenant.unaffected
  · intro unaffected
    refine ⟨?_, unaffected⟩
    intro resp answered success
    rw [unaffected, answer_mab env _ _ method, Option.some.injEq] at answered
    subst answered
    cases found : registration (normalizeMAC req.macAddress) (ownCalls req.orgID before) with
    | none =>
      rw [found] at success
      cases success
    | some own => exact ⟨own, rfl, rfl, rfl⟩

/-- Every bypass of a run meets a condition on the calls before it. -/
def EveryBypass (inputs : List Input) (P : List Input → Choice → AuthRequest → Prop) : Prop :=
  ∀ before input after req, inputs = before ++ input :: after → input.call = .authenticate req →
    req.eapMethod = .mab → P before input.choice req

/-- Bypass is per tenant along a run exactly when every request finds the last registration of its
address, unless removed, to be its organization's own or like its own. -/
theorem bypass_per_tenant_iff (inputs : List Input) :
    EveryBypass inputs (PerTenant env) ↔
      EveryBypass inputs fun before _ req => Undisturbed before req := by
  constructor
  · intro perTenant before input after req split asked method
    exact (perTenant_iff env before input.choice method).mp
      (perTenant before input after req split asked method)
  · intro undisturbed before input after req split asked method
    exact (perTenant_iff env before input.choice method).mpr
      (undisturbed before input after req split asked method)

end

def demoBypass : AuthRequest :=
  { switchID := text "sw1", portID := text "p1", macAddress := demoMAC, eapMethod := .mab
    orgID := text "globex" }

def demoTenants : List Input :=
  [⟨.registerMAC ⟨demoMAC, text "camera", text "camera", 30, text "video", text "globex", 0⟩,
      demoChoice 4⟩,
   ⟨.registerMAC ⟨text "0011.2233.4455", text "printer", text "printer", 20, text "iot",
      text "acme", 0⟩, demoChoice 5⟩]

/-- The device of one organization is let in under the name and into the network of the other's,
although the organization sees no entry of its own any more. -/
theorem camera_admitted_as_printer :
    (answer demoEnv demoTenants (demoChoice 6) demoBypass).map
        (fun resp => (resp.result, resp.username, resp.assignedVLAN, resp.segmentGroup)) =
          some (.success, text "mab:printer", 20, text "iot") ∧
      listMACs (reach demoEnv demoTenants) MapOrder.asStored (text "globex") = [] ∧
      ¬ EveryBypass (demoTenants ++ [⟨.authenticate demoBypass, demoChoice 6⟩])
        (PerTenant demoEnv) := by
  refine ⟨by decide, by decide, ?_⟩
  intro perTenant
  have unaffected := (perTenant demoTenants _ [] demoBypass rfl rfl rfl).unaffected
  have vlans := congrArg (Option.map AuthResponse.assignedVLAN) unaffected
  revert vlans
  decide

end ManagementPlane.Dot1x
