import ManagementPlane.Assistant.Service
import ManagementPlane.Lib.FirstMatch

/-!
# What a grant writes

The list of the policies is split at the first one that matches. The ones before it stay; that one
and the later ones are moved down if the grant needs room, each as far as the edit lock allows at
the time; the allow policy goes under its id. Everything about grants is derived from the
description here.
-/

namespace ManagementPlane.Assistant

open GoStrings Tables List Option
open Db (AddressObject AddressTable normalizeHost)
open Policy (SecurityPolicy assignSequence checkLock maxSequence)

theorem mem_list_iff (s : State) (order : MapOrder SecurityPolicy) (p : SecurityPolicy) :
    p ∈ Policy.list s.policies order ↔ s.policies.policies.lookup p.id = some p := by
  rw [Policy.list, (sortedValues_perm order _ _).mem_iff, keyed_lookup_iff s.keyed]
  simp

theorem mem_values_policies (s : State) (p : SecurityPolicy) :
    p ∈ values s.policies.policies ↔ s.policies.policies.lookup p.id = some p := by
  rw [keyed_lookup_iff s.keyed]
  simp

theorem list_ids_nodup (s : State) (order : MapOrder SecurityPolicy) :
    ((Policy.list s.policies order).map SecurityPolicy.id).Nodup :=
  ((sortedValues_perm order SecurityPolicy.sequence s.policies.policies).map _).nodup_iff.mpr
    (keyed_values_nodup s.keyed)

def permitted (s : State) (author : String) (moment : Moment) : Bool :=
  Policy.checkLock s.policies author moment.now = ""

theorem permitted_congr {s t : State} (sameLock : t.policies.lock = s.policies.lock)
    (author : String) (moment : Moment) : permitted t author moment = permitted s author moment := by
  have same : checkLock t.policies author moment.now = checkLock s.policies author moment.now := by
    simp [checkLock, sameLock]
  rw [permitted, permitted, same]

section
variable (s : State) (p : SecurityPolicy) (author : String) (moment : Moment)

theorem update_of_refused (refused : permitted s author moment = false) :
    s.update p author moment = s := by
  have locked := of_decide_eq_false refused
  simp [State.update, Policy.update, locked]

theorem update_lookup (allowed : permitted s author moment = true) (old : SecurityPolicy)
    (found : s.policies.policies.lookup p.id = some old) (id : String) :
    (s.update p author moment).policies.policies.lookup id =
      if id = p.id then some p else s.policies.policies.lookup id := by
  have unlocked := of_decide_eq_true allowed
  simp [State.update, Policy.update, unlocked, found, lookup_insert_if]

@[simp]
theorem update_lock : (s.update p author moment).policies.lock = s.policies.lock := by
  simp only [State.update, Policy.update]
  split_ifs
  · rfl
  · cases s.policies.policies.lookup p.id <;> rfl

@[simp]
theorem update_addresses : (s.update p author moment).addresses = s.addresses := rfl

end

/-- The policy after the shifts of a list: `ok` says which calls the lock lets through. -/
def movedBy (ok : Nat → Bool) : Nat → List SecurityPolicy → SecurityPolicy → SecurityPolicy
  | _, [], r => r
  | i, p :: rest, r =>
    if p.id = r.id then (if ok i then shifted r else r) else movedBy ok (i + 1) rest r

variable (ok : Nat → Bool)

section
variable (i : Nat) (tail : List SecurityPolicy)

include i tail

variable (r : SecurityPolicy)

theorem movedBy_cases : movedBy ok i tail r = r ∨ movedBy ok i tail r = shifted r := by
  induction tail generalizing i with
  | nil => exact .inl rfl
  | cons p rest ih =>
    rw [movedBy]
    grind

theorem movedBy_absent (absent : r.id ∉ tail.map SecurityPolicy.id) : movedBy ok i tail r = r := by
  induction tail generalizing i with
  | nil => rfl
  | cons p rest ih =>
    rw [map_cons, mem_cons, not_or] at absent
    rw [movedBy, if_neg (Ne.symm absent.1)]
    exact ih (i + 1) absent.2

theorem movedBy_getElem
    (distinct : (tail.map SecurityPolicy.id).Nodup) (k : Nat) (r : SecurityPolicy)
    (here : tail[k]? = some r) : movedBy ok i tail r = if ok (i + k) then shifted r else r := by
  induction tail generalizing i k with
  | nil => cases here
  | cons p rest ih =>
    rw [map_cons, nodup_cons] at distinct
    cases k with
    | zero =>
      cases here
      rw [movedBy, if_pos rfl, Nat.add_zero]
    | succ k =>
      rw [getElem?_cons_succ] at here
      have other : p.id ≠ r.id := by
        grind
      have position : i + 1 + k = i + (k + 1) := by omega
      rw [movedBy, if_neg other, ih (i + 1) distinct.2 k here, position]

@[simp]
theorem movedBy_id : (movedBy ok i tail r).id = r.id := by
  rcases movedBy_cases ok i tail r with same | same
  · rw [same]
  · rw [same]
    rfl

end

section
variable (author : String) (moments : Nat → Moment)

section
variable (i : Nat) (shifts : List SecurityPolicy) (s : State)

@[simp]
theorem applyShifts_addresses :
    (applyShifts author moments i shifts s).addresses = s.addresses := by
  induction shifts generalizing i s with
  | nil => rfl
  | cons p rest ih => rw [applyShifts, ih, update_addresses]

@[simp]
theorem applyShifts_lock :
    (applyShifts author moments i shifts s).policies.lock = s.policies.lock := by
  induction shifts generalizing i s with
  | nil => rfl
  | cons p rest ih => rw [applyShifts, ih, update_lock]

end

theorem applyShifts_lookup (i : Nat) (tail : List SecurityPolicy) (s : State)
    (stored : ∀ p ∈ tail, s.policies.policies.lookup p.id = some p)
    (distinct : (tail.map SecurityPolicy.id).Nodup) (id : String) :
    (applyShifts author moments i (tail.map shifted) s).policies.policies.lookup id =
      (s.policies.policies.lookup id).map
        (movedBy (fun k => permitted s author (moments k)) i tail) := by
  induction tail generalizing i s with
  | nil =>
    simp [applyShifts]
    cases s.policies.policies.lookup id <;> rfl
  | cons p rest ih =>
    rw [map_cons, nodup_cons] at distinct
    have found := stored p mem_cons_self
    rw [map_cons, applyShifts]
    cases allowed : permitted s author (moments i) with
    | false =>
      rw [update_of_refused s _ author _ allowed,
        ih (i + 1) s (fun q member => stored q (mem_cons_of_mem _ member)) distinct.2]
      cases there : s.policies.policies.lookup id with
      | none => rfl
      | some r =>
        rw [map_some, map_some, movedBy]
        grind [movedBy_absent]
    | true =>
      have after := update_lookup s (shifted p) author (moments i) allowed p found
      have kept : ∀ q ∈ rest,
          (s.update (shifted p) author (moments i)).policies.policies.lookup q.id = some q := by
        intro q member
        have other : q.id ≠ (shifted p).id := by
          intro same
          have same : q.id = p.id := same
          exact distinct.1 (same ▸ List.mem_map_of_mem member)
        grind
      have lockKept := permitted_congr (update_lock s (shifted p) author (moments i)) author
      rw [ih (i + 1) _ kept distinct.2, after]
      simp [lockKept]
      split_ifs with here
      · have here : id = p.id := here
        have absent : (shifted p).id ∉ rest.map SecurityPolicy.id := distinct.1
        rw [here, found, map_some, map_some, movedBy_absent _ _ _ _ absent,
          movedBy, if_pos rfl, if_pos allowed]
      · have here : id ≠ p.id := here
        cases there : s.policies.policies.lookup id with
        | none => rfl
        | some r =>
          have itsKey := ((keyed_lookup_iff s.keyed).mp there).2
          have other : p.id ≠ r.id := by
            grind
          rw [map_some, map_some, movedBy, if_neg other]

end

section
variable (s : State) (p : SecurityPolicy) (author : String) (moment : Moment)

theorem create_of_refused (refused : permitted s author moment = false) :
    (s.create p author moment).1 ≠ "" ∧ (s.create p author moment).2 = s := by
  have locked := of_decide_eq_false refused
  simp [State.create, Policy.create, locked]

theorem create_message (allowed : permitted s author moment = true) :
    (s.create p author moment).1 = "" := by
  have unlocked := of_decide_eq_true allowed
  simp [State.create, Policy.create, unlocked]

theorem create_lookup (allowed : permitted s author moment = true) (id : String) :
    (s.create p author moment).2.policies.policies.lookup id =
      if id = p.id then some (assignSequence s.policies p)
      else s.policies.policies.lookup id := by
  have unlocked := of_decide_eq_true allowed
  have sameID : (assignSequence s.policies p).id = p.id := by
    rw [assignSequence]
    split_ifs <;> rfl
  simp [State.create, Policy.create, unlocked, lookup_insert_if, sameID]

@[simp]
theorem create_addresses : (s.create p author moment).2.addresses = s.addresses := rfl

end

theorem assignSequence_fields (s : Policy.Store) (p : SecurityPolicy) :
    ∃ seq, assignSequence s p = { p with sequence := seq } := by
  rw [assignSequence]
  split_ifs
  · exact ⟨_, rfl⟩
  · exact ⟨p.sequence, rfl⟩

/-- Sequences from which neither a difference nor a shift overflows. -/
def Room (s : State) : Prop :=
  ∀ id r, s.policies.policies.lookup id = some r → -2 ^ 62 ≤ r.sequence ∧ r.sequence < 2 ^ 62

theorem wrap_of_fits {n : Int} (low : -2 ^ 63 ≤ n) (high : n < 2 ^ 63) : wrap n = n := by
  rw [wrap]
  grind

theorem shifted_sequence {r : SecurityPolicy} (low : -2 ^ 62 ≤ r.sequence)
    (high : r.sequence < 2 ^ 62) : (shifted r).sequence = r.sequence + 10 := by
  exact wrap_of_fits (by omega) (by omega)

theorem le_foldl_max (list : List SecurityPolicy) (start : Int) :
    start ≤ list.foldl (fun max p => if p.sequence > max then p.sequence else max) start ∧
      ∀ p ∈ list,
        p.sequence ≤ list.foldl (fun max p => if p.sequence > max then p.sequence else max) start := by
  induction list generalizing start with
  | nil => simp
  | cons q rest ih =>
    grind

theorem foldl_max_lt (list : List SecurityPolicy) (start bound : Int) (low : start < bound)
    (below : ∀ p ∈ list, p.sequence < bound) :
    list.foldl (fun max p => if p.sequence > max then p.sequence else max) start < bound := by
  induction list generalizing start with
  | nil => exact low
  | cons q rest ih =>
    grind

theorem assignSequence_last {s : State} {p : SecurityPolicy} (unset : p.sequence ≤ 0)
    (bounded : ∀ id r, s.policies.policies.lookup id = some r → r.sequence < 2 ^ 62 + 10)
    {id : String} {r : SecurityPolicy} (found : s.policies.policies.lookup id = some r) :
    r.sequence < (assignSequence s.policies p).sequence := by
  have stored : ∀ q ∈ values s.policies.policies, q.sequence < 2 ^ 62 + 10 := by
    grind [mem_values_policies]
  obtain ⟨positive, above⟩ := le_foldl_max (values s.policies.policies) 0
  have high := foldl_max_lt (values s.policies.policies) 0 (2 ^ 62 + 10) (by omega) stored
  have member := ((keyed_lookup_iff s.keyed).mp found).1
  have low := above r member
  rw [assignSequence, if_pos unset]
  change r.sequence < wrap (maxSequence s.policies + 10)
  rw [maxSequence, wrap_of_fits (by omega) (by omega)]
  omega

theorem assignSequence_own (s : Policy.Store) {p : SecurityPolicy} (own : 0 < p.sequence) :
    assignSequence s p = p := by
  rw [assignSequence, if_neg (by omega)]

/-- The sequence of the last of some policies, as the loop carries it. -/
def lastSequence (prev : Int) (before : List SecurityPolicy) : Int :=
  (before.getLast?.map SecurityPolicy.sequence).getD prev

theorem lastSequence_cons (prev : Int) (q : SecurityPolicy) (rest : List SecurityPolicy) :
    lastSequence prev (q :: rest) = lastSequence q.sequence rest := by
  cases rest with
  | nil => rfl
  | cons r rest => simp [lastSequence, getLast?_cons]

theorem lastSequence_cases (before : List SecurityPolicy) :
    (before = [] ∧ lastSequence 0 before = 0) ∨
      ∃ front last, before = front ++ [last] ∧ lastSequence 0 before = last.sequence := by
  rcases eq_nil_or_concat' before with rfl | ⟨front, last, rfl⟩
  · exact .inl ⟨rfl, rfl⟩
  · exact .inr ⟨front, last, rfl, by simp [lastSequence]⟩

theorem le_lastSequence {before : List SecurityPolicy}
    (sorted : before.Pairwise fun a b => a.sequence ≤ b.sequence) (r : SecurityPolicy)
    (member : r ∈ before) : r.sequence ≤ lastSequence 0 before := by
  rcases lastSequence_cases before with ⟨rfl, -⟩ | ⟨front, last, rfl, isLast⟩
  · cases member
  · rw [isLast]
    rcases mem_append.mp member with early | final
    · exact (pairwise_append.mp sorted).2.2 r early last mem_cons_self
    · rw [mem_singleton.mp final]

variable {matched : SecurityPolicy → Bool}

theorem placeFrom_none (prev : Int)
    {list : List SecurityPolicy} (nobody : ∀ r ∈ list, matched r = false) :
    placeFrom matched prev list = none := by
  induction list generalizing prev with
  | nil => rfl
  | cons q rest ih =>
    rw [placeFrom, nobody q mem_cons_self]
    exact ih q.sequence fun r member => nobody r (mem_cons_of_mem _ member)

theorem placeFrom_append (prev : Int) {before : List SecurityPolicy} (p : SecurityPolicy)
    (after : List SecurityPolicy) (skipped : ∀ r ∈ before, matched r = false) :
    placeFrom matched prev (before ++ p :: after) =
      placeFrom matched (lastSequence prev before) (p :: after) := by
  induction before generalizing prev with
  | nil => rfl
  | cons q rest ih =>
    rw [cons_append, placeFrom, skipped q mem_cons_self, lastSequence_cons]
    exact ih q.sequence fun r member => skipped r (mem_cons_of_mem _ member)

section
variable (svc : Service) (s : State) (choice : GrantChoice) (destination : String)

def objectName : String :=
  let name := addressName svc.env.text (cleanHost svc.env.text destination)
  if trimSpace name = "" then normalizeHost svc.env.text destination else name

/-- The object for the destination: one that has the host as its value, else the one that has the
name, with its value replaced, else a new one. -/
def destinationObject : String × Db.AddressRow :=
  let host := normalizeHost svc.env.text destination
  match s.addresses.findByValue svc.env.text choice.address.order svc.orgID host with
  | some found => found
  | none =>
    match s.addresses.findByName svc.orgID (objectName svc destination) with
    | some (id, row) => (id, { row with value := host })
    | none => (choice.address.newID, ⟨svc.orgID, objectName svc destination, .fqdn, host,
        AddressTable.createdByAssistant⟩)

theorem upsert_lookup {addr : AddressObject} {after : AddressTable}
    (upserted : s.addresses.upsertFQDN svc.env.text choice.address svc.orgID
      (addressName svc.env.text (cleanHost svc.env.text destination)) destination =
        .ok (addr, after)) :
    addr.id = (destinationObject svc s choice destination).1 ∧
      ∀ id, after.rows.lookup id =
        if id = (destinationObject svc s choice destination).1 then
          some (destinationObject svc s choice destination).2
        else s.addresses.rows.lookup id := by
  rcases s.addresses.upsertFQDN_ok svc.env.text choice.address svc.orgID _ destination addr after
    upserted with ⟨row, byValue, same⟩ | ⟨byValue, inserted⟩
  · subst same
    simp only [destinationObject, byValue, true_and]
    intro id
    split_ifs with here
    · rw [here]
      exact s.addresses.findByValue_some svc.env.text _ _ _ _ _ byValue
    · rfl
  · rcases s.addresses.insertFQDN_ok _ _ _ _ _ _ inserted with
      ⟨row, byName, lookup⟩ | ⟨byName, isNew, _, lookup⟩
    · have byName : s.addresses.findByName svc.orgID (objectName svc destination) =
        some (addr.id, row) := byName
      simp_all [destinationObject]
    · have byName : s.addresses.findByName svc.orgID (objectName svc destination) = none := byName
      simp [destinationObject, byValue, byName]
      exact ⟨isNew, lookup⟩

end

/-! ## A confirmed grant for a host -/

section
variable (svc : Service) (s : State) (choice : GrantChoice) (destination : String) (scope : Scope)
  (author : String) (u : ConnectorUser) (groups : List NativeGroupRef)

/-- The test of the placement: the sources of the scope, and the objects that cover the host if
they could be read. -/
def seen : SecurityPolicy → Bool :=
  policyMatch svc.env (matchGroups scope groups) (matchUsers svc scope u)
    (grantCandidates svc s choice "" destination)

def placement : Placement :=
  placeAboveFirstMatch (seen svc s choice destination scope u groups)
    (Policy.list s.policies choice.list)

def grantPolicy : SecurityPolicy :=
  { allowPolicy svc scope u groups (cleanHost svc.env.text destination)
      (placement svc s choice destination scope u groups).seq with
    destAddresses := some (svc.env.marshal [(destinationObject svc s choice destination).1]) }

def madeRoom (after : AddressTable) : State :=
  applyShifts author choice.shifts 0 (placement svc s choice destination scope u groups).shifts
    { s with addresses := after }

def storedPolicy (after : AddressTable) : SecurityPolicy :=
  Policy.assignSequence (madeRoom svc s choice destination scope author u groups after).policies
    (grantPolicy svc s choice destination scope u groups)

/-- The grant gets as far as the policy store. -/
structure Reaches (query : String) (addr : AddressObject) (after : AddressTable) : Prop where
  resolved : resolve svc.dir query = .ok (.found u groups)
  sourced : ¬ (scope = .group ∧ groups = [])
  upserted : s.addresses.upsertFQDN svc.env.text choice.address svc.orgID
    (addressName svc.env.text (cleanHost svc.env.text destination)) destination = .ok (addr, after)

end

section
variable (svc : Service) (s : State) (choice : GrantChoice) (query destination : String)
  (opts : GrantOptions) (author : String)

/-- The outcome of a grant that reaches the policy store. -/
structure Outcome (u : ConnectorUser) (groups : List NativeGroupRef) (after : AddressTable)
    (out : Except String GrantResult × State) : Prop where
  state : out.2 = ((madeRoom svc s choice destination opts.granted author u groups after).create
    (grantPolicy svc s choice destination opts.granted u groups) author choice.create).2
  named : ∀ res, out.1 = .ok res → permitted s author choice.create = true ∧
    res.policy.map PolicyRef.id = some (grantID svc.env.text u (cleanHost svc.env.text destination))

theorem permitted_madeRoom (u : ConnectorUser) (groups : List NativeGroupRef)
    (after : AddressTable) (moment : Moment) :
    permitted (madeRoom svc s choice destination opts.granted author u groups after) author moment =
      permitted s author moment :=
  permitted_congr (applyShifts_lock ..) author moment

theorem applyGrant_outcome (u : ConnectorUser) (groups : List NativeGroupRef) (base : GrantResult)
    {addr : AddressObject} {after : AddressTable}
    (upserted : s.addresses.upsertFQDN svc.env.text choice.address svc.orgID
      (addressName svc.env.text (cleanHost svc.env.text destination)) destination =
        .ok (addr, after)) :
    Outcome svc s choice destination opts author u groups after
      (applyGrant svc s choice "" destination (cleanHost svc.env.text destination) opts.granted u
        groups (placement svc s choice destination opts.granted u groups) author base) := by
  have sameID := (upsert_lookup svc s choice destination upserted).1
  have allowed := permitted_madeRoom svc s choice destination opts author u groups after choice.create
  simp only [applyGrant, withDestination, upserted, sameID]
  change Outcome svc s choice destination opts author u groups after
    (if ((madeRoom svc s choice destination opts.granted author u groups after).create
      (grantPolicy svc s choice destination opts.granted u groups) author choice.create).1 ≠ ""
      then _ else _)
  cases may : permitted s author choice.create with
  | false =>
    have refused := create_of_refused _ (grantPolicy svc s choice destination opts.granted u groups)
      author choice.create (allowed.trans may)
    rw [if_pos refused.1]
    exact ⟨rfl, fun res same => by cases same⟩
  | true =>
    have message := create_message _ (grantPolicy svc s choice destination opts.granted u groups)
      author choice.create (allowed.trans may)
    rw [if_neg (not_not_intro message)]
    refine ⟨rfl, ?_⟩
    intro res same
    cases same
    exact ⟨may, rfl⟩

/-- The outcome of a grant that stops before it writes anything. -/
structure Stopped (out : Except String GrantResult × State) : Prop where
  state : out.2 = s
  unapplied : ∀ res, out.1 = .ok res → res.applied = false

theorem stopped_error (err : String) : Stopped s (.error err, s) := by
  refine ⟨rfl, ?_⟩
  intro res same
  cases same

theorem stopped_ok {res : GrantResult} (unapplied : res.applied = false) : Stopped s (.ok res, s) := by
  refine ⟨rfl, ?_⟩
  intro other same
  cases same
  exact unapplied

section
variable (hostOnly : trimSpace opts.urlCategory = "")

include hostOnly

theorem grantAccess_found {u : ConnectorUser}
    {groups : List NativeGroupRef} (resolved : resolve svc.dir query = .ok (.found u groups))
    (sourced : ¬ (opts.granted = .group ∧ groups = [])) :
    ∃ base, grantAccess svc s choice query destination opts true author =
      applyGrant svc s choice "" destination (cleanHost svc.env.text destination) opts.granted u
        groups (placement svc s choice destination opts.granted u groups) author base := by
  unfold grantAccess
  simp [hostOnly, resolved, if_neg sourced]
  exact ⟨_, rfl⟩

theorem grantAccess_stopped (unsourced : ∀ u groups, resolve svc.dir query = .ok (.found u groups) →
      opts.granted = .group ∧ groups = []) :
    Stopped s (grantAccess svc s choice query destination opts true author) := by
  unfold grantAccess
  cases resolved : resolve svc.dir query with
  | error err => exact stopped_error s err
  | ok resolution =>
    cases resolution with
    | problem what candidates => exact stopped_ok s rfl
    | found u groups =>
      simp_all [stopped_ok]

theorem grantAccess_cases :
    (Stopped s (grantAccess svc s choice query destination opts true author) ∧
      ∀ u groups addr after,
        ¬ Reaches svc s choice destination opts.granted u groups query addr after) ∨
    ∃ u groups addr after, Reaches svc s choice destination opts.granted u groups query addr after ∧
      Outcome svc s choice destination opts author u groups after
        (grantAccess svc s choice query destination opts true author) := by
  by_cases unsourced : ∀ u groups, resolve svc.dir query = .ok (.found u groups) →
      opts.granted = .group ∧ groups = []
  · left
    refine ⟨grantAccess_stopped svc s choice query destination opts author hostOnly unsourced, ?_⟩
    intro u groups addr after reaches
    exact reaches.sourced (unsourced u groups reaches.resolved)
  · push Not at unsourced
    obtain ⟨u, groups, resolved, sourced⟩ := unsourced
    have sourced : ¬ (opts.granted = .group ∧ groups = []) := fun both => sourced both.1 both.2
    obtain ⟨base, same⟩ :=
      grantAccess_found svc s choice query destination opts author hostOnly resolved sourced
    rw [same]
    cases upserted : s.addresses.upsertFQDN svc.env.text choice.address svc.orgID
        (addressName svc.env.text (cleanHost svc.env.text destination)) destination with
    | error err =>
      left
      simp only [applyGrant, withDestination, upserted]
      refine ⟨stopped_error s err, ?_⟩
      intro v others addr after reaches
      have both := reaches.upserted.symm.trans upserted
      cases both
    | ok result =>
      obtain ⟨addr, after⟩ := result
      right
      exact ⟨u, groups, addr, after, ⟨resolved, sourced, upserted⟩,
        applyGrant_outcome svc s choice destination opts author u groups base upserted⟩

end

end

variable (svc : Service) (s : State) (choice : GrantChoice) (destination : String) (scope : Scope)
  (author : String) (u : ConnectorUser) (groups : List NativeGroupRef) (after : AddressTable)

def lets (k : Nat) : Bool := permitted s author (choice.shifts k)

theorem storedPolicy_fields : ∃ seq, storedPolicy svc s choice destination scope author u groups
    after = { grantPolicy svc s choice destination scope u groups with sequence := seq } :=
  assignSequence_fields _ _

variable {svc s choice destination scope u groups}

theorem madeRoom_lookup {tail : List SecurityPolicy}
    (shifts : (placement svc s choice destination scope u groups).shifts = tail.map shifted)
    (suffix : tail <:+ Policy.list s.policies choice.list) (id : String) :
    (madeRoom svc s choice destination scope author u groups after).policies.policies.lookup id =
      (s.policies.policies.lookup id).map (movedBy (lets s choice author) 0 tail) := by
  rw [madeRoom, shifts]
  apply applyShifts_lookup author choice.shifts 0 tail { s with addresses := after }
  · grind [mem_list_iff]
  · exact List.Nodup.sublist (suffix.sublist.map _) (list_ids_nodup s choice.list)

theorem placement_of_none (room : Room s) (nobody : ∀ r ∈ Policy.list s.policies choice.list,
      seen svc s choice destination scope u groups r = false) :
    (placement svc s choice destination scope u groups).shifts = [] ∧
      ∀ r ∈ Policy.list s.policies choice.list,
        r.sequence < (placement svc s choice destination scope u groups).seq := by
  have sorted := sortedValues_sorted choice.list SecurityPolicy.sequence s.policies.policies
  rw [placement, placeAboveFirstMatch, placeFrom_none _ nobody]
  cases found : (Policy.list s.policies choice.list).getLast? with
  | none =>
    rw [getLast?_eq_none_iff.mp found]
    simp
  | some last =>
    refine ⟨rfl, ?_⟩
    intro r member
    obtain ⟨front, split⟩ := getLast?_eq_some_iff.mp found
    have here := mem_of_getLast? found
    have bounds := room last.id last ((mem_list_iff s choice.list last).mp here)
    have low : r.sequence ≤ last.sequence := by
      have sorted : (Policy.list s.policies choice.list).Pairwise
        fun a b => a.sequence ≤ b.sequence := sorted
      grind
    grind [wrap_of_fits]

section
variable (svc s choice destination scope u groups)

/-- The list of the policies is split at its first match. -/
structure SplitAt (before : List SecurityPolicy) (p : SecurityPolicy)
    (later : List SecurityPolicy) : Prop where
  list : Policy.list s.policies choice.list = before ++ p :: later
  skipped : ∀ r ∈ before, seen svc s choice destination scope u groups r = false
  found : seen svc s choice destination scope u groups p = true

theorem split_or_none :
    (∀ r ∈ Policy.list s.policies choice.list,
      seen svc s choice destination scope u groups r = false) ∨
    ∃ before p later, SplitAt svc s choice destination scope u groups before p later := by
  cases found : (Policy.list s.policies choice.list).find?
      (seen svc s choice destination scope u groups) with
  | none =>
    grind
  | some p =>
    obtain ⟨here, before, later, split, skipped⟩ := find?_eq_some_iff_append.mp found
    refine .inr ⟨before, p, later, split, ?_, here⟩
    intro r member
    simpa using skipped r member

variable {svc s choice destination scope u groups} {before later : List SecurityPolicy}
  {p : SecurityPolicy} (room : Room s)
  (split : SplitAt svc s choice destination scope u groups before p later)

include split

theorem SplitAt.stored (r : SecurityPolicy) (member : r ∈ before ++ p :: later) :
    s.policies.policies.lookup r.id = some r := by
  rw [← split.list] at member
  exact (mem_list_iff s choice.list r).mp member

theorem SplitAt.sorted : (before ++ p :: later).Pairwise fun a b => a.sequence ≤ b.sequence := by
  rw [← split.list]
  exact sortedValues_sorted choice.list SecurityPolicy.sequence s.policies.policies

theorem SplitAt.le_match (r : SecurityPolicy) (member : r ∈ before) : r.sequence ≤ p.sequence :=
  (pairwise_append.mp split.sorted).2.2 r member p mem_cons_self

theorem SplitAt.match_le (r : SecurityPolicy) (member : r ∈ p :: later) :
    p.sequence ≤ r.sequence := by
  rcases mem_cons.mp member with rfl | behind
  · exact Int.le_refl _
  · exact (pairwise_cons.mp (pairwise_append.mp split.sorted).2.1).1 r behind

include room

theorem SplitAt.last_bounds : -2 ^ 62 ≤ lastSequence 0 before ∧ lastSequence 0 before < 2 ^ 62 := by
  rcases lastSequence_cases before with ⟨-, isLast⟩ | ⟨front, last, rfl, isLast⟩ <;> rw [isLast]
  · decide
  · exact room last.id last (split.stored last (by simp))

theorem SplitAt.bounds : -2 ^ 62 ≤ p.sequence ∧ p.sequence < 2 ^ 62 :=
  room p.id p (split.stored p (mem_append_right _ mem_cons_self))

theorem SplitAt.gap : wrap (p.sequence - lastSequence 0 before) =
    p.sequence - lastSequence 0 before := by
  have last := split.last_bounds room
  have here := split.bounds room
  exact wrap_of_fits (by omega) (by omega)

theorem SplitAt.placement_wide (wide : 2 ≤ p.sequence - lastSequence 0 before) :
    (placement svc s choice destination scope u groups).shifts = [] ∧
      (placement svc s choice destination scope u groups).seq =
        lastSequence 0 before + (p.sequence - lastSequence 0 before) / 2 := by
  have last := split.last_bounds room
  have here := split.bounds room
  have half : (p.sequence - lastSequence 0 before).tdiv 2 =
      (p.sequence - lastSequence 0 before) / 2 := Int.tdiv_eq_ediv_of_nonneg (by omega)
  rw [placement, placeAboveFirstMatch, split.list, placeFrom_append _ _ _ split.skipped,
    placeFrom, if_pos split.found]
  simp [split.gap room, if_pos wide, half]
  exact wrap_of_fits (by omega) (by omega)

theorem SplitAt.placement_tight (tight : p.sequence - lastSequence 0 before < 2) :
    (placement svc s choice destination scope u groups).shifts = (p :: later).map shifted ∧
      (placement svc s choice destination scope u groups).seq = p.sequence := by
  rw [placement, placeAboveFirstMatch, split.list, placeFrom_append _ _ _ split.skipped,
    placeFrom, if_pos split.found]
  simp [split.gap room, if_neg (Int.not_le.mpr tight)]

end

end ManagementPlane.Assistant
