import ManagementPlane.Assistant.Effects
import ManagementPlane.Assistant.Matching

/-!
# Whether a grant takes effect

A grant is applied when its policy is stored. It takes effect when the policy is the first that
decides, whatever the order in which policies of one sequence are listed. The placement looks for
the first policy of the granted scope only, so a policy of the other scope can stand before it; and
the object for the host is found by its value or its name, whatever its type.
-/

namespace ManagementPlane.Assistant

open GoStrings Tables List Option
open Db (AddressObject AddressRow AddressTable normalizeHost)
open Policy (SecurityPolicy)

theorem groupNames_isSome_iff (groups : List NativeGroupRef) (id : String) :
    ((groupNames groups).lookup id).isSome = true ↔ ∃ g ∈ groups, g.id = id := by
  have general : ∀ names : Table String String,
      ((groups.foldl (fun names g => names.insert g.id g.displayName) names).lookup id).isSome =
        true ↔ (∃ g ∈ groups, g.id = id) ∨ (names.lookup id).isSome = true := by
    induction groups with
    | nil => simp
    | cons g rest ih =>
      intro names
      rw [foldl_cons, ih, lookup_insert_if]
      by_cases here : id = g.id
      · simp [here]
      · have other : g.id ≠ id := Ne.symm here
        simp [here, other]
  have all := general ∅
  simpa [groupNames] using all

def SourceReached (env : Env) (scope : Scope) (u : ConnectorUser) (groups : List NativeGroupRef) :
    Prop :=
  match scope with
  | .user => handle env u.samAccountName ≠ ""
  | .group => ∃ g, groups.head? = some g ∧ g.id ≠ ""

theorem firstGroupMatch_own (groups : List NativeGroupRef) :
    firstGroupMatch (some (groups.map (·.id))) (groupNames groups) ≠ "" ↔
      ∃ g, groups.head? = some g ∧ g.id ≠ "" := by
  cases groups with
  | nil => simp [firstGroupMatch]
  | cons g rest =>
    have known : ((groupNames (g :: rest)).lookup g.id).isSome = true :=
      (groupNames_isSome_iff ..).mpr ⟨g, mem_cons_self, rfl⟩
    simp [firstGroupMatch, known]

theorem userMatch_own (env : Env) (u : ConnectorUser) :
    userMatch env (some [u.samAccountName]) (userIdentifiers env u) = true ↔
      handle env u.samAccountName ≠ "" := by
  simp [userMatch, userIdentifiers]

section
variable (svc : Service) (s : State) (choice : GrantChoice) (destination : String) (scope : Scope)
  (author : String) (u : ConnectorUser) (groups : List NativeGroupRef)

theorem sourceMatch_grantPolicy :
    sourceMatch svc.env (groupNames groups) (userIdentifiers svc.env u)
      (grantPolicy svc s choice destination scope u groups) = true ↔
        SourceReached svc.env scope u groups := by
  cases scope with
  | user =>
    have nobody : firstGroupMatch none (groupNames groups) = "" := rfl
    have own := userMatch_own svc.env u
    simp [sourceMatch, grantPolicy, allowPolicy, sourceGroups, sourceUsers, nobody]
    simpa [SourceReached] using own
  | group =>
    have nobody : userMatch svc.env none (userIdentifiers svc.env u) = false := rfl
    have own := firstGroupMatch_own groups
    simp [sourceMatch, grantPolicy, allowPolicy, sourceGroups, sourceUsers, nobody]
    exact decide_eq_true_iff.trans own

/-- Another policy that will decide on the user and the host once the grant is made. -/
def Rival (r : SecurityPolicy) : Prop :=
  r.id ≠ grantID svc.env.text u (cleanHost svc.env.text destination) ∧ r.enabled = true ∧
    sourceMatch svc.env (groupNames groups) (userIdentifiers svc.env u) r = true ∧
    ∃ id ∈ destIDs svc.env r.destAddresses, id = (destinationObject svc s choice destination).1 ∨
        ∃ row, s.addresses.rows.lookup id = some row ∧ Covers svc destination row

def Clear : Prop :=
  ∀ id r, s.policies.policies.lookup id = some r → ¬ Rival svc s choice destination u groups r

/-- The place above the first match is above every rival: none stands before the match, half way
to the policy before it is a positive sequence, and where there is no room, every rival that has
the sequence of the match may be moved. -/
structure Above (before : List SecurityPolicy) (p : SecurityPolicy)
    (later : List SecurityPolicy) : Prop where
  split : SplitAt svc s choice destination scope u groups before p later
  ahead : ∀ r ∈ before, ¬ Rival svc s choice destination u groups r
  wide : 2 ≤ p.sequence - lastSequence 0 before → 2 ≤ p.sequence + lastSequence 0 before
  tight : p.sequence - lastSequence 0 before < 2 → 0 < p.sequence ∧
    ∀ k r, (p :: later)[k]? = some r → Rival svc s choice destination u groups r →
      r.sequence = p.sequence → permitted s author (choice.shifts k) = true

structure Prevails : Prop where
  source : SourceReached svc.env scope u groups
  covered : Covers svc destination (destinationObject svc s choice destination).2
  placed : Clear svc s choice destination u groups ∨
    ∃ before p later, Above svc s choice destination scope author u groups before p later

end

section
variable (svc : Service) (s : State) (choice : GrantChoice) (query destination : String)
  (scope : Scope) (author : String) (u : ConnectorUser) (groups : List NativeGroupRef)
  (addr : AddressObject) (after : AddressTable)

def grantedState : State :=
  ((madeRoom svc s choice destination scope author u groups after).create
    (grantPolicy svc s choice destination scope u groups) author choice.create).2

variable {svc s choice query destination scope author u groups addr after} {now : State}
  (granted : now = grantedState svc s choice destination scope author u groups after)
  {stored : SecurityPolicy}
  (isStored : stored = storedPolicy svc s choice destination scope author u groups after)
  (reaches : Reaches svc s choice destination scope u groups query addr after)

include granted reaches

theorem grantedState_address (id : String) :
    now.addresses.rows.lookup id =
      if id = (destinationObject svc s choice destination).1 then
        some (destinationObject svc s choice destination).2
      else s.addresses.rows.lookup id := by
  have same : now.addresses = after := by
    rw [granted, grantedState, create_addresses, madeRoom, applyShifts_addresses]
  rw [same]
  exact (upsert_lookup svc s choice destination reaches.upserted).2 id

include isStored in
theorem decides_storedPolicy :
    decides svc now u groups destination stored = true ↔
      SourceReached svc.env scope u groups ∧
        Covers svc destination (destinationObject svc s choice destination).2 := by
  obtain ⟨seq, same⟩ := storedPolicy_fields svc s choice destination scope author u groups after
  have source := sourceMatch_grantPolicy svc s choice destination scope u groups
  have listed := destIDs_marshal svc.env (destinationObject svc s choice destination).1
  rw [decides_iff, isStored, same]
  change true = true ∧
    sourceMatch _ _ _ (grantPolicy svc s choice destination scope u groups) = true ∧
    (∃ id ∈ destIDs svc.env (some (svc.env.marshal [_])), _) ↔ _
  rw [source, listed]
  simp [grantedState_address granted reaches]

theorem decides_moved (covered : Covers svc destination (destinationObject svc s choice destination).2)
    (ok : Nat → Bool) (tail : List SecurityPolicy) (r : SecurityPolicy)
    (other : r.id ≠ grantID svc.env.text u (cleanHost svc.env.text destination)) :
    decides svc now u groups destination (movedBy ok 0 tail r) = true ↔
      Rival svc s choice destination u groups r := by
  have fields : decides svc now u groups destination (movedBy ok 0 tail r) =
      decides svc now u groups destination r := by
    rcases movedBy_cases ok 0 tail r with same | same
    · rw [same]
    · rw [same]
      rfl
  rw [fields, decides_iff, Rival]
  have covering : ∀ id, (∃ row, now.addresses.rows.lookup id = some row ∧ Covers svc destination row) ↔
        (id = (destinationObject svc s choice destination).1 ∨
          ∃ row, s.addresses.rows.lookup id = some row ∧ Covers svc destination row) := by
    grind [grantedState_address granted reaches]
  simp [covering, other]

omit granted reaches in
include isStored in
theorem storedPolicy_id : stored.id = grantID svc.env.text u (cleanHost svc.env.text destination) := by
  obtain ⟨seq, same⟩ := storedPolicy_fields svc s choice destination scope author u groups after
  rw [isStored, same]
  rfl

variable (allowed : permitted s author choice.create = true) (tail : List SecurityPolicy)
  (shifts : (placement svc s choice destination scope u groups).shifts = tail.map shifted)
  (suffix : tail <:+ Policy.list s.policies choice.list)

include isStored allowed shifts suffix

omit reaches in
theorem grantedState_lookup (id : String) :
    now.policies.policies.lookup id =
      if id = grantID svc.env.text u (cleanHost svc.env.text destination) then some stored
      else (s.policies.policies.lookup id).map (movedBy (lets s choice author) 0 tail) := by
  have lockKept : permitted (madeRoom svc s choice destination scope author u groups after) author
      choice.create = true :=
    (permitted_congr (applyShifts_lock ..) author choice.create).trans allowed
  rw [granted, isStored, grantedState, create_lookup _ _ _ _ lockKept,
    madeRoom_lookup author after shifts suffix]
  rfl

theorem leads_iff :
    Leads SecurityPolicy.sequence (decides svc now u groups destination)
      (values now.policies.policies) stored ↔
    SourceReached svc.env scope u groups ∧
      Covers svc destination (destinationObject svc s choice destination).2 ∧
      ∀ id r, s.policies.policies.lookup id = some r → Rival svc s choice destination u groups r →
        stored.sequence < (movedBy (lets s choice author) 0 tail r).sequence := by
  have lookup := grantedState_lookup granted isStored allowed tail shifts suffix
  have own := decides_storedPolicy granted isStored reaches
  have sameID := storedPolicy_id isStored
  have moved := decides_moved granted reaches
  constructor
  · intro leads
    obtain ⟨source, covered⟩ := own.mp leads.matched
    refine ⟨source, covered, ?_⟩
    intro id r found rival
    have itsID := ((keyed_lookup_iff s.keyed).mp found).2
    apply leads.below
    · rw [mem_values_policies, movedBy_id, lookup, if_neg rival.1, itsID, found, map_some]
    · exact (moved covered _ tail r rival.1).mpr rival
    · intro same
      apply rival.1
      rw [← movedBy_id (lets s choice author) 0 tail r, same, sameID]
  · rintro ⟨source, covered, below⟩
    refine ⟨?_, own.mpr ⟨source, covered⟩, ?_⟩
    · rw [mem_values_policies, lookup, if_pos sameID]
    · grind [mem_values_policies, map_eq_some_iff, movedBy_id]

theorem explained_iff :
    (∀ order, ∃ ex, explainAccess svc now order none query destination = .ok ex ∧ ex.decision = "allow" ∧
      ex.policy.map PolicyRef.id =
        some (grantID svc.env.text u (cleanHost svc.env.text destination))) ↔
    Leads SecurityPolicy.sequence (decides svc now u groups destination)
      (values now.policies.policies) stored := by
  have explained := fun order =>
    explainAccess_found svc now u groups destination order reaches.resolved
  have sameID := storedPolicy_id isStored
  constructor
  · intro held
    apply leads_of_find?
    intro order
    obtain ⟨ex, run, _, named⟩ := held order
    obtain ⟨ex', run', _, named'⟩ := explained order
    rw [run] at run'
    cases run'
    rw [named] at named'
    obtain ⟨p, found, itsID⟩ := map_eq_some_iff.mp named'.symm
    have there := (mem_list_iff _ order p).mp (mem_of_find?_eq_some found)
    rw [itsID, grantedState_lookup granted isStored allowed tail shifts suffix, if_pos rfl,
      some.injEq] at there
    rwa [there]
  · intro leads order
    obtain ⟨ex, run, decision, named⟩ := explained order
    have found : (Policy.list now.policies order).find? (decides svc now u groups destination) =
        some stored := leads.find? order
    obtain ⟨seq, same⟩ := storedPolicy_fields svc s choice destination scope author u groups after
    refine ⟨ex, run, ?_, ?_⟩
    · rw [decision, found, isStored, same]
      rfl
    · rw [named, found, map_some, sameID]

end

/-! ## Sequences of the granted policy and its rivals -/

section
variable (svc : Service) (s : State) (choice : GrantChoice) (destination : String) (scope : Scope)
  (author : String) (u : ConnectorUser) (groups : List NativeGroupRef) (after : AddressTable)
  (room : Room s)

include room

theorem movedBy_bounds (ok : Nat → Bool) (tail : List SecurityPolicy) {id : String}
    {r : SecurityPolicy} (found : s.policies.policies.lookup id = some r) :
    r.sequence ≤ (movedBy ok 0 tail r).sequence ∧
      (movedBy ok 0 tail r).sequence ≤ r.sequence + 10 := by
  have bounds := room id r found
  grind [shifted_sequence, movedBy_cases]

variable {svc s choice destination scope u groups} in
theorem behind_of_unset (tail : List SecurityPolicy)
    (shifts : (placement svc s choice destination scope u groups).shifts = tail.map shifted)
    (suffix : tail <:+ Policy.list s.policies choice.list)
    (unset : (placement svc s choice destination scope u groups).seq ≤ 0) (id : String)
    (r : SecurityPolicy) (found : s.policies.policies.lookup id = some r) :
    (movedBy (lets s choice author) 0 tail r).sequence <
      (storedPolicy svc s choice destination scope author u groups after).sequence := by
  have lookup := madeRoom_lookup author after shifts suffix
  apply assignSequence_last unset
  · intro other q there
    rw [lookup] at there
    obtain ⟨old, stored, same⟩ := map_eq_some_iff.mp there
    have bounds := room other old stored
    have near := movedBy_bounds s room (lets s choice author) tail stored
    rw [← same]
    omega
  · rw [lookup, found, map_some]

omit room in
theorem storedPolicy_own (own : 0 < (placement svc s choice destination scope u groups).seq) :
    (storedPolicy svc s choice destination scope author u groups after).sequence =
      (placement svc s choice destination scope u groups).seq := by
  rw [storedPolicy, assignSequence_own _ own]
  rfl

variable {svc s choice destination scope u groups} in
theorem behind_of_none (nobody : ∀ r ∈ Policy.list s.policies choice.list,
      seen svc s choice destination scope u groups r = false) (id : String) (r : SecurityPolicy)
    (found : s.policies.policies.lookup id = some r) :
    (movedBy (lets s choice author) 0 [] r).sequence <
      (storedPolicy svc s choice destination scope author u groups after).sequence := by
  obtain ⟨shifts, last⟩ := placement_of_none room nobody
  by_cases own : 0 < (placement svc s choice destination scope u groups).seq
  · rw [storedPolicy_own _ _ _ _ _ _ _ _ _ own]
    have itsID := ((keyed_lookup_iff s.keyed).mp found).2
    exact last r ((mem_list_iff s choice.list r).mpr (itsID.symm ▸ found))
  · exact behind_of_unset author after room [] shifts nil_suffix (by omega) id r found

/-- Every rival is behind the granted policy, once a tail of the list has been moved. -/
def Overtakes (tail : List SecurityPolicy) : Prop :=
  ∀ id r, s.policies.policies.lookup id = some r → Rival svc s choice destination u groups r →
    (storedPolicy svc s choice destination scope author u groups after).sequence <
      (movedBy (lets s choice author) 0 tail r).sequence

variable {svc s choice destination scope author u groups after}

omit room in
theorem Clear.overtakes (clear : Clear svc s choice destination u groups)
    (tail : List SecurityPolicy) :
    Overtakes svc s choice destination scope author u groups after tail := by
  intro id r found rival
  exact absurd rival (clear id r found)

omit room in
theorem Overtakes.clear {tail : List SecurityPolicy}
    (overtakes : Overtakes svc s choice destination scope author u groups after tail)
    (behind : ∀ id r, s.policies.policies.lookup id = some r →
      (movedBy (lets s choice author) 0 tail r).sequence <
        (storedPolicy svc s choice destination scope author u groups after).sequence) :
    Clear svc s choice destination u groups := by
  intro id r found rival
  have ahead := overtakes id r found rival
  have late := behind id r found
  omega

/-- A policy that is created without a sequence of its own comes last. -/
theorem overtakes_iff_of_unset {tail : List SecurityPolicy} {above : Prop}
    (shifts : (placement svc s choice destination scope u groups).shifts = tail.map shifted)
    (suffix : tail <:+ Policy.list s.policies choice.list)
    (unset : (placement svc s choice destination scope u groups).seq ≤ 0) (never : ¬ above) :
    Overtakes svc s choice destination scope author u groups after tail ↔
      Clear svc s choice destination u groups ∨ above := by
  rw [or_iff_left never]
  exact ⟨fun overtakes => overtakes.clear (behind_of_unset author after room tail shifts suffix unset),
    fun clear => clear.overtakes tail⟩

section
variable {before later : List SecurityPolicy}
  {p : SecurityPolicy} (split : SplitAt svc s choice destination scope u groups before p later)

include split

omit room in
theorem SplitAt.mem_of_lookup (id : String) (r : SecurityPolicy)
    (found : s.policies.policies.lookup id = some r) : r ∈ before ∨ r ∈ p :: later := by
  have itsID := ((keyed_lookup_iff s.keyed).mp found).2
  have member := (mem_list_iff s choice.list r).mpr (itsID.symm ▸ found)
  rw [split.list] at member
  exact mem_append.mp member

theorem SplitAt.overtakes_wide (wide : 2 ≤ p.sequence - lastSequence 0 before) :
    Overtakes svc s choice destination scope author u groups after [] ↔
      Clear svc s choice destination u groups ∨
        Above svc s choice destination scope author u groups before p later := by
  obtain ⟨shifts, seq⟩ := split.placement_wide room wide
  by_cases own : 2 ≤ p.sequence + lastSequence 0 before
  · have stored := storedPolicy_own svc s choice destination scope author u groups after (by omega)
    constructor
    · intro overtakes
      right
      refine ⟨split, ?_, fun _ => own, fun tight => by omega⟩
      intro r member rival
      have ahead : _ < r.sequence :=
        overtakes r.id r (split.stored r (mem_append_left _ member)) rival
      have low := le_lastSequence (pairwise_append.mp split.sorted).1 r member
      omega
    · intro placed
      rcases placed with clear | above
      · exact clear.overtakes []
      · intro id r found rival
        change _ < r.sequence
        rcases split.mem_of_lookup id r found with early | late
        · exact absurd rival (above.ahead r early)
        · have high := split.match_le r late
          omega
  · exact overtakes_iff_of_unset room shifts nil_suffix (by omega)
      fun above => own (above.wide wide)

omit room in
theorem SplitAt.suffix : p :: later <:+ Policy.list s.policies choice.list :=
  ⟨before, split.list.symm⟩

omit room in
theorem SplitAt.before_stays (ok : Nat → Bool) (r : SecurityPolicy) (member : r ∈ before) :
    movedBy ok 0 (p :: later) r = r := by
  have distinct := list_ids_nodup s choice.list
  rw [split.list, map_append, nodup_append] at distinct
  grind [movedBy_absent]

theorem SplitAt.moved_at (k : Nat) (r : SecurityPolicy) (here : (p :: later)[k]? = some r) :
    (movedBy (lets s choice author) 0 (p :: later) r).sequence =
      if permitted s author (choice.shifts k) = true then r.sequence + 10 else r.sequence := by
  have distinct := (list_ids_nodup s choice.list).sublist (split.suffix.sublist.map _)
  have stored := split.stored r (mem_append_right _ (mem_of_getElem? here))
  have bounds := room r.id r stored
  rw [movedBy_getElem _ 0 _ distinct k r here, Nat.zero_add, lets]
  split_ifs
  · exact shifted_sequence bounds.1 bounds.2
  · rfl

theorem SplitAt.overtakes_tight (tight : p.sequence - lastSequence 0 before < 2) :
    Overtakes svc s choice destination scope author u groups after (p :: later) ↔
      Clear svc s choice destination u groups ∨
        Above svc s choice destination scope author u groups before p later := by
  obtain ⟨shifts, seq⟩ := split.placement_tight room tight
  by_cases own : 0 < p.sequence
  · have stored := storedPolicy_own svc s choice destination scope author u groups after (by omega)
    constructor
    · intro overtakes
      right
      refine ⟨split, ?_, fun wide => by omega, fun _ => ⟨own, ?_⟩⟩
      · intro r member rival
        have ahead := overtakes r.id r (split.stored r (mem_append_left _ member)) rival
        rw [split.before_stays _ r member] at ahead
        have low := split.le_match r member
        omega
      · intro k r here rival level
        have member := mem_of_getElem? here
        have ahead := overtakes r.id r (split.stored r (mem_append_right _ member)) rival
        rw [split.moved_at room k r here] at ahead
        by_contra refused
        rw [if_neg refused] at ahead
        omega
    · intro placed
      rcases placed with clear | above
      · exact clear.overtakes _
      · intro id r found rival
        rcases split.mem_of_lookup id r found with early | late
        · exact absurd rival (above.ahead r early)
        · obtain ⟨k, bound, atK⟩ := mem_iff_getElem.mp late
          have here := List.getElem?_eq_some_iff.mpr ⟨bound, atK⟩
          have high := split.match_le r late
          have moves := (above.tight tight).2 k r here rival
          rw [split.moved_at room k r here, stored, seq]
          split_ifs with allowed
          · omega
          · grind
  · exact overtakes_iff_of_unset room shifts split.suffix (by omega)
      fun above => own (above.tight tight).1

variable (author after) in
theorem SplitAt.overtakes : ∃ tail,
    (placement svc s choice destination scope u groups).shifts = tail.map shifted ∧
    tail <:+ Policy.list s.policies choice.list ∧
    (Overtakes svc s choice destination scope author u groups after tail ↔
      Clear svc s choice destination u groups ∨
        Above svc s choice destination scope author u groups before p later) := by
  by_cases wide : 2 ≤ p.sequence - lastSequence 0 before
  · exact ⟨[], (split.placement_wide room wide).1, nil_suffix, split.overtakes_wide room wide⟩
  · have tight : p.sequence - lastSequence 0 before < 2 := by omega
    exact ⟨p :: later, (split.placement_tight room tight).1, split.suffix,
      split.overtakes_tight room tight⟩

end

end

section
variable (svc : Service) (s : State) (choice : GrantChoice) (query destination : String)
  (scope : Scope) (author : String) (u : ConnectorUser) (groups : List NativeGroupRef)
  (addr : AddressObject) (after : AddressTable) (room : Room s)
  (reaches : Reaches svc s choice destination scope u groups query addr after)
  (allowed : permitted s author choice.create = true)

include room reaches allowed

theorem explained_iff_prevails :
    (∀ order, ∃ ex, explainAccess svc
        (grantedState svc s choice destination scope author u groups after) order none query
        destination = .ok ex ∧ ex.decision = "allow" ∧ ex.policy.map PolicyRef.id =
          some (grantID svc.env.text u (cleanHost svc.env.text destination))) ↔
      Prevails svc s choice destination scope author u groups := by
  have explained := explained_iff rfl rfl reaches allowed
  have leads := leads_iff rfl rfl reaches allowed
  constructor
  · intro held
    rcases split_or_none svc s choice destination scope u groups with
      nobody | ⟨before, p, later, split⟩
    · have shifts := (placement_of_none room nobody).1
      obtain ⟨source, covered, overtakes⟩ :=
        (leads [] shifts nil_suffix).mp ((explained [] shifts nil_suffix).mp held)
      have clear := Overtakes.clear overtakes (behind_of_none author after room nobody)
      exact ⟨source, covered, .inl clear⟩
    · obtain ⟨tail, shifts, suffix, overtakesIff⟩ := split.overtakes author after room
      obtain ⟨source, covered, overtakes⟩ :=
        (leads tail shifts suffix).mp ((explained tail shifts suffix).mp held)
      refine ⟨source, covered, ?_⟩
      rcases overtakesIff.mp overtakes with clear | above
      · exact .inl clear
      · exact .inr ⟨before, p, later, above⟩
  · intro prevails
    have placed : ∃ tail,
        (placement svc s choice destination scope u groups).shifts = tail.map shifted ∧
        tail <:+ Policy.list s.policies choice.list ∧
        Overtakes svc s choice destination scope author u groups after tail := by
      rcases prevails.placed with clear | ⟨before, p, later, above⟩
      · rcases split_or_none svc s choice destination scope u groups with
          nobody | ⟨before, p, later, split⟩
        · have shifts := (placement_of_none room nobody).1
          exact ⟨[], shifts, nil_suffix, Clear.overtakes clear []⟩
        · obtain ⟨tail, shifts, suffix, overtakesIff⟩ := split.overtakes author after room
          exact ⟨tail, shifts, suffix, overtakesIff.mpr (.inl clear)⟩
      · obtain ⟨tail, shifts, suffix, overtakesIff⟩ := above.split.overtakes author after room
        exact ⟨tail, shifts, suffix, overtakesIff.mpr (.inr above)⟩
    obtain ⟨tail, shifts, suffix, overtakes⟩ := placed
    exact (explained tail shifts suffix).mpr
      ((leads tail shifts suffix).mpr ⟨prevails.source, prevails.covered, overtakes⟩)

end

/-- An applied grant is what every explanation then reports, exactly when its policy prevails. -/
theorem grant_takes_effect_iff (svc : Service) (s : State) (choice : GrantChoice)
    (query destination : String) (opts : GrantOptions) (author : String) (res : GrantResult)
    (hostOnly : trimSpace opts.urlCategory = "") (room : Room s)
    (granted : (grantAccess svc s choice query destination opts true author).1 = .ok res)
    (applied : res.applied = true) :
    (∀ order, ∃ ex,
      explainAccess svc (grantAccess svc s choice query destination opts true author).2 order none
        query destination = .ok ex ∧
      ex.decision = "allow" ∧ ex.policy.map PolicyRef.id = res.policy.map PolicyRef.id) ↔
    ∃ u groups, resolve svc.dir query = .ok (.found u groups) ∧
      Prevails svc s choice destination opts.granted author u groups := by
  rcases grantAccess_cases svc s choice query destination opts author hostOnly with
    ⟨stopped, _⟩ | ⟨u, groups, addr, after, reaches, outcome⟩
  · have unapplied := stopped.unapplied res granted
    rw [applied] at unapplied
    cases unapplied
  · obtain ⟨allowed, named⟩ := outcome.named res granted
    have effect := explained_iff_prevails svc s choice query destination opts.granted author u groups
      addr after room reaches allowed
    rw [outcome.state, named]
    refine effect.trans ⟨fun prevails => ⟨u, groups, reaches.resolved, prevails⟩, ?_⟩
    rintro ⟨v, others, resolved, prevails⟩
    have same := reaches.resolved.symm.trans resolved
    cases same
    exact prevails

def plainText : Db.Text := ⟨toLower, toUpper, toLower⟩

def plainEnv : Env where
  text := plainText
  quote := fun s => "\"" ++ s ++ "\""
  marshal := fun ids => "[\"" ++ String.intercalate "\",\"" ids ++ "\"]"
  unmarshal := fun written =>
    some (GoJson.stringsDocument [String.ofList (written.toList.drop 2).dropLast.dropLast])
  reads := by
    intro id
    have chars : ("[\"" ++ String.intercalate "\",\"" [id] ++ "\"]").toList =
        '[' :: '"' :: (id.toList ++ ['"'] ++ [']']) := by simp
    rw [chars]
    simp
  nonempty := by
    intro id empty
    have chars := congrArg String.toList empty
    simp at chars

def mark : ConnectorUser :=
  { sid := "S-1-5-21-1104", upn := "mark@corp.example", samAccountName := "mark",
    displayName := "Mark", enabled := true, groupSIDs := ["S-1-5-21-513"] }

def anderson : ConnectorUser :=
  { sid := "S-1-5-21-1105", upn := "anderson@corp.example", samAccountName := "anderson",
    displayName := "Anderson", enabled := true }

def financeUsers : NativeGroupRef := ⟨"g-fin", "Finance Users", "S-1-5-21-513"⟩

def demoService : Service where
  env := plainEnv
  dir :=
    { resolveUsers := fun query =>
        .ok (if query = "mark" then [mark] else if query = "anderson" then [anderson] else [])
      nativeGroupsForUser := fun sids =>
        .ok (if financeUsers.externalID ∈ sids then [financeUsers] else []) }
  orgID := "org-1"

def noAddresses : AddressTable := ⟨∅, by intro first second row other found; cases found⟩

def demoAddresses : AddressTable :=
  noAddresses.add "obj-1" ⟨"org-1", "PRUDENTIAL-SG", .fqdn, "www.prudential.com.sg", ""⟩ rfl

def retailBlock : SecurityPolicy :=
  { id := "apex-demo-deny-prudential", orgID := "org-1", name := "SG-Retail-Web-Block",
    sequence := 100, enabled := true, action := "deny", sourceUserGroups := some ["g-fin"],
    destAddresses := some (plainEnv.marshal ["obj-1"]), logTraffic := true,
    logSecurityEvents := true }

def demoState : State where
  policies := { Policy.newStore with
    policies := (∅ : Table String SecurityPolicy).insert retailBlock.id retailBlock }
  keyed := keyed_insert SecurityPolicy.id ∅ retailBlock (keyed_empty SecurityPolicy.id)
  addresses := demoAddresses

theorem demoState_only {id : String} {r : SecurityPolicy}
    (found : demoState.policies.policies.lookup id = some r) : r = retailBlock := by
  change ((∅ : Table String SecurityPolicy).insert retailBlock.id retailBlock).lookup id = some r
    at found
  rw [lookup_insert_if] at found
  split_ifs at found <;> cases found
  rfl

theorem demoState_room : Room demoState := by
  intro id r found
  rw [demoState_only found]
  decide

/-- A grant to the group goes above the deny. -/
theorem group_grant_above_deny :
    ∃ res, (grantAccess demoService demoState {} "mark" "www.prudential.com.sg" {} true
        "alice").1 = .ok res ∧ res.applied = true ∧
      ∀ order, ∃ ex, explainAccess demoService (grantAccess demoService demoState {} "mark"
          "www.prudential.com.sg" {} true "alice").2 order none "mark" "www.prudential.com.sg" =
            .ok ex ∧
        ex.decision = "allow" ∧ ex.policy.map PolicyRef.id = res.policy.map PolicyRef.id := by
  have applied : (grantAccess demoService demoState {} "mark" "www.prudential.com.sg" {} true
      "alice").1.toOption.map GrantResult.applied = some true := by
    decide +kernel
  obtain ⟨res, ran, isApplied⟩ := map_eq_some_iff.mp applied
  have granted : (grantAccess demoService demoState {} "mark" "www.prudential.com.sg" {} true
      "alice").1 = .ok res := by
    cases outcome : (grantAccess demoService demoState {} "mark" "www.prudential.com.sg" {} true
        "alice").1 with
    | error err =>
      rw [outcome] at ran
      cases ran
    | ok other =>
      rw [outcome] at ran
      exact congrArg Except.ok (some.inj ran)
  have split : SplitAt demoService demoState {} "www.prudential.com.sg" .group mark
      [financeUsers] [] retailBlock [] :=
    ⟨rfl, fun _ member => (not_mem_nil member).elim, by decide +kernel⟩
  have above : Above demoService demoState {} "www.prudential.com.sg" .group "alice" mark
      [financeUsers] [] retailBlock [] :=
    ⟨split, fun _ member => (not_mem_nil member).elim, by decide,
      fun tight => absurd tight (by decide)⟩
  have covered : Covers demoService "www.prudential.com.sg"
      (destinationObject demoService demoState {} "www.prudential.com.sg").2 := by
    decide +kernel
  refine ⟨res, granted, isApplied, ?_⟩
  apply (grant_takes_effect_iff demoService demoState {} "mark" "www.prudential.com.sg" {} "alice"
    res (by decide) demoState_room granted isApplied).mpr
  exact ⟨mark, [financeUsers], rfl, ⟨financeUsers, rfl, by decide⟩, covered,
    .inr ⟨[], retailBlock, [], above⟩⟩

/-- A grant to one user is applied below the deny of their group, and the host stays denied. -/
theorem user_grant_below_group_deny :
    (grantAccess demoService demoState {} "mark" "www.prudential.com.sg" ⟨"user", ""⟩ true
      "alice").1.toOption.map GrantResult.applied = some true ∧
    (explainAccess demoService (grantAccess demoService demoState {} "mark" "www.prudential.com.sg"
      ⟨"user", ""⟩ true "alice").2 .asStored none "mark"
      "www.prudential.com.sg").toOption.map ExplainResult.decision = some "deny" := by
  decide +kernel

end ManagementPlane.Assistant
