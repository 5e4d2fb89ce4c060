import ManagementPlane.Assistant.Service

/-!
# Which policy decides

A policy decides on a user and a host when it is enabled, names the user or one of their groups,
and lists an object that covers the host. An explanation reports the first such policy.
-/

namespace ManagementPlane.Assistant

open GoJson GoStrings Tables List
open Db (AddressObject AddressRow AddressTable normalizeHost hostMatchesValue)
open Policy (SecurityPolicy)

def destIDs (env : Env) (raw : Option String) : List String :=
  match raw with
  | none => []
  | some "" => []
  | some written => ((env.unmarshal written).bind (decodeSlice decodeString)).getD []

theorem destMatch_isSome_iff (env : Env) (raw : Option String)
    (candidates : Table String AddressObject) :
    (destMatch env raw candidates).isSome = true ↔
      ∃ id ∈ destIDs env raw, (candidates.lookup id).isSome = true := by
  cases raw with
  | none => simp [destMatch, destIDs]
  | some written =>
    by_cases empty : written = ""
    · simp [destMatch, destIDs, empty]
    · rw [destMatch, destIDs]
      · cases (env.unmarshal written).bind (decodeSlice decodeString) <;> simp
      all_goals exact empty

theorem destIDs_marshal (env : Env) (id : String) :
    destIDs env (some (env.marshal [id])) = [id] := by
  unfold destIDs
  split
  next absent => cases absent
  next empty => exact absurd (Option.some.inj empty) (env.nonempty id)
  next written _ same =>
      cases same
      rw [env.reads]
      rfl

def Covers (svc : Service) (destination : String) (row : AddressRow) : Prop :=
  row.orgID = svc.orgID ∧ row.objectType.named = true ∧
    hostMatchesValue svc.env.text (normalizeHost svc.env.text destination) row.value = true

instance (svc : Service) (destination : String) (row : AddressRow) :
    Decidable (Covers svc destination row) :=
  inferInstanceAs (Decidable (_ ∧ _))

theorem mem_findMatching_iff (svc : Service) (table : AddressTable) (destination : String)
    (addr : AddressObject) :
    addr ∈ table.findMatching svc.env.text svc.orgID destination ↔
      table.rows.lookup addr.id = some addr.toAddressRow ∧
        Covers svc destination addr.toAddressRow := by
  simp only [AddressTable.findMatching, mem_map, mem_filter]
  constructor
  · rintro ⟨⟨id, row⟩, ⟨member, covers⟩, same⟩
    subst same
    simp at covers
    exact ⟨(table.mem_entries_iff id row).mp member, covers.1.1, covers.1.2, covers.2⟩
  · rintro ⟨found, org, named, matched⟩
    refine ⟨(addr.id, addr.toAddressRow), ⟨(table.mem_entries_iff ..).mpr found, ?_⟩, rfl⟩
    simp
    exact ⟨⟨org, named⟩, matched⟩

theorem findMatching_ids_nodup (svc : Service) (table : AddressTable) (destination : String) :
    ((table.findMatching svc.env.text svc.orgID destination).map AddressObject.id).Nodup := by
  have keys : (table.entries.map Prod.fst).Nodup := by
    have same : table.entries.map Prod.fst = table.rows.keys := by
      simp only [AddressTable.entries, map_map, AList.keys, List.keys]
      rfl
    rw [same]
    exact table.rows.keys_nodup
  simp [AddressTable.findMatching]
  exact keys.sublist ((filter_sublist).map Prod.fst)

theorem candidatesFor_isSome_iff (svc : Service) (s : State) (destination id : String) :
    ((candidatesFor svc s destination).lookup id).isSome = true ↔
      ∃ row, s.addresses.rows.lookup id = some row ∧ Covers svc destination row := by
  have distinct := findMatching_ids_nodup svc s.addresses destination
  rw [Option.isSome_iff_exists, candidatesFor, candidateTable]
  constructor
  · grind [lookup_indexBy, mem_findMatching_iff]
  · rintro ⟨row, found, covers⟩
    refine ⟨{ row with id := id }, (lookup_indexBy distinct id _).mpr ⟨?_, rfl⟩⟩
    exact (mem_findMatching_iff svc s.addresses destination _).mpr ⟨found, covers⟩

variable (svc : Service) (s : State) (u : ConnectorUser) (groups : List NativeGroupRef)
  (destination : String)

def decides : SecurityPolicy → Bool :=
  policyMatch svc.env (groupNames groups) (userIdentifiers svc.env u)
    (candidatesFor svc s destination)

theorem decides_iff (p : SecurityPolicy) :
    decides svc s u groups destination p = true ↔ p.enabled = true ∧
      sourceMatch svc.env (groupNames groups) (userIdentifiers svc.env u) p = true ∧
      ∃ id ∈ destIDs svc.env p.destAddresses, ∃ row, s.addresses.rows.lookup id = some row ∧
        Covers svc destination row := by
  simp [decides, policyMatch, destMatch_isSome_iff, candidatesFor_isSome_iff, and_assoc]

def decisionOf (first : Option SecurityPolicy) : String :=
  match first with
  | none => "no_matching_policy"
  | some p => actionToDecision p.action

theorem explainAccess_found {query : String} (order : MapOrder SecurityPolicy)
    (resolved : resolve svc.dir query = .ok (.found u groups)) :
    ∃ ex, explainAccess svc s order none query destination = .ok ex ∧
      ex.decision = decisionOf ((Policy.list s.policies order).find?
        (decides svc s u groups destination)) ∧
      ex.policy.map PolicyRef.id = ((Policy.list s.policies order).find?
        (decides svc s u groups destination)).map SecurityPolicy.id := by
  unfold explainAccess decides
  simp [resolved]
  cases found : (Policy.list s.policies order).find? (policyMatch svc.env (groupNames groups)
      (userIdentifiers svc.env u) (candidatesFor svc s destination)) with
  | none => exact ⟨_, rfl, rfl, rfl⟩
  | some p =>
    have matched := find?_some found
    rw [policyMatch, Bool.and_eq_true] at matched
    obtain ⟨addr, there⟩ := Option.isSome_iff_exists.mp matched.2
    simp only [there]
    exact ⟨_, rfl, rfl, rfl⟩

end ManagementPlane.Assistant
