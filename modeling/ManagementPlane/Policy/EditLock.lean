import ManagementPlane.Policy.Store

/-!
# Edit-lock exclusion

While an author holds an unexpired edit lock, a call by anybody else should leave
the policies and the version alone. `create`, `update` and `delete` consult the
lock; `revert` does not. A run therefore keeps the exclusion exactly when none
of its calls is a revert to a retained version past somebody else's lock.
-/

namespace ManagementPlane.Policy

open Tables Runs List

def HoldsLock (s : Store) (author : String) (now : Time) : Prop :=
  ∃ held, s.lock = some held ∧ held.lockedBy = author ∧ now ≤ held.expiresAt

/-- The exclusion at one call: made by somebody other than the holder of an
unexpired lock, it changes neither the policies nor the version. -/
def Excludes (s : Store) (call : Call) : Prop :=
  ∀ holder, HoldsLock s holder call.now → call.author ≠ holder →
    (apply s call).policies = s.policies ∧ (apply s call).version = s.version

/-- The call reverts to a retained version although somebody else holds the lock. -/
def RevertsPastLock (s : Store) (call : Call) : Prop :=
  ∃ holder, HoldsLock s holder call.now ∧ call.author ≠ holder ∧
    ∃ targetVersion author order createdAt, call.op = .revert targetVersion author order createdAt ∧
      (getVersion s targetVersion).isSome

def Call.seeds (call : Call) : Prop :=
  ∃ order createdAt, call.op = .loadDefaults order createdAt

theorem checkLock_of_held (s : Store) (author holder : String) (now : Time)
    (held : HoldsLock s holder now) (other : author ≠ holder) : checkLock s author now ≠ "" := by
  obtain ⟨l, lockEq, byHolder, unexpired⟩ := held
  have notExpired : ¬ l.expiresAt < now := not_lt.mpr unexpired
  have notAuthor : l.lockedBy ≠ author := by
    rw [byHolder]
    exact Ne.symm other
  simp only [checkLock, lockEq, if_neg notExpired, if_pos notAuthor]
  intro empty
  have lengths := congrArg String.length empty
  simp at lengths

theorem guarded_edit_refused {s : Store} {call : Call} {holder : String}
    (held : HoldsLock s holder call.now) (other : call.author ≠ holder)
    (unseeded : ¬ call.seeds) (noRevert : ∀ targetVersion author order createdAt,
      call.op = .revert targetVersion author order createdAt → getVersion s targetVersion = none) :
    (apply s call).policies = s.policies ∧ (apply s call).version = s.version := by
  obtain ⟨now, op⟩ := call
  cases op with
  | lock author lockedNow expiresNow =>
    simp only [apply, answer, lock]
    grind
  | unlock author force =>
    simp only [apply, answer, unlock]
    grind
  | getLock =>
    simp only [apply, answer, getLock]
    grind
  | create p author order createdAt =>
    have locked := checkLock_of_held s author holder now held other
    simp [apply, answer, create, locked]
  | update p author order createdAt =>
    have locked := checkLock_of_held s author holder now held other
    simp [apply, answer, update, locked]
  | delete id author order createdAt =>
    have locked := checkLock_of_held s author holder now held other
    simp [apply, answer, delete, locked]
  | revert targetVersion author order createdAt =>
    have missing := noRevert targetVersion author order createdAt rfl
    simp only [getVersion] at missing
    simp [apply, answer, revert, missing]
  | loadDefaults order createdAt =>
    exact absurd ⟨order, createdAt, rfl⟩ unseeded

theorem excludes_iff (s : Store) {call : Call} (unseeded : ¬ call.seeds) :
    Excludes s call ↔ ¬ RevertsPastLock s call := by
  constructor
  · rintro excludes ⟨holder, held, other, targetVersion, author, order, createdAt, opEq, retained⟩
    obtain ⟨now, op⟩ := call
    subst opEq
    obtain ⟨target, found⟩ := Option.isSome_iff_exists.mp retained
    have unchanged := (excludes holder held other).2
    rw [apply_revert author order now createdAt found, commit_version] at unchanged
    simp only [restore] at unchanged
    omega
  · intro noBypass holder held other
    apply guarded_edit_refused held other unseeded
    intro targetVersion author order createdAt opEq
    cases found : getVersion s targetVersion with
    | none => rfl
    | some target =>
      refine absurd ⟨holder, held, other, targetVersion, author, order, createdAt, opEq, ?_⟩
        noBypass
      rw [found]
      rfl

/-- Over whole runs, from any store and at any clock readings: the exclusion holds
at every call exactly when no call reverts past somebody else's lock. -/
theorem edit_lock_excludes_iff (start : Store) (calls : List Call)
    (unseeded : ∀ call ∈ calls, ¬ call.seeds) :
    (∀ visit ∈ visits apply start calls, Excludes visit.1 visit.2) ↔
      ∀ visit ∈ visits apply start calls, ¬ RevertsPastLock visit.1 visit.2 := by
  have visitUnseeded : ∀ visit ∈ visits apply start calls, ¬ visit.2.seeds := by
    grind [mem_visits_iff]
  grind [excludes_iff]

/-- A run without reverts: one author edits under the lock, the other is refused. -/
def guardedRun : List Call :=
  [⟨0, .create { id := "p1", name := "Allow", sequence := 10 } "alice" .asStored 0⟩,
    ⟨1, .lock "alice" 1 1⟩,
    ⟨2, .delete "p1" "bob" .asStored 2⟩]

theorem guardedRun_excludes :
    (∀ call ∈ guardedRun, ¬ call.seeds) ∧
      ∀ visit ∈ visits apply newStore guardedRun, Excludes visit.1 visit.2 := by
  have unseeded : ∀ call ∈ guardedRun, ¬ call.seeds := by
    intro call member
    simp [guardedRun] at member
    rcases member with rfl | rfl | rfl <;> rintro ⟨_, _, opEq⟩ <;> cases opEq
  refine ⟨unseeded, (edit_lock_excludes_iff newStore guardedRun unseeded).mpr ?_⟩
  intro visit member
  simp [guardedRun, visits] at member
  rcases member with rfl | rfl | rfl <;>
    rintro ⟨_, _, _, _, _, _, _, opEq, _⟩ <;> cases opEq

/-- The first author creates a policy and takes the lock; before it expires the
second one reverts to version 1. -/
def bypassRun : List Call :=
  [⟨0, .create { id := "p1", name := "Allow", sequence := 10 } "alice" .asStored 0⟩,
    ⟨1, .lock "alice" 1 1⟩,
    ⟨2, .revert 1 "bob" .asStored 2⟩]

theorem bypassRun_breaks_exclusion :
    ¬ ∀ visit ∈ visits apply newStore bypassRun, Excludes visit.1 visit.2 := by
  intro excludes
  have last := excludes (run apply newStore (bypassRun.take 2), ⟨2, .revert 1 "bob" .asStored 2⟩)
    (by rw [mem_visits_iff]; exact ⟨bypassRun.take 2, [], rfl, rfl⟩)
  have held : HoldsLock (run apply newStore (bypassRun.take 2)) "alice" 2 :=
    ⟨⟨"alice", 1, 1 + lockDuration⟩, rfl, rfl, by decide⟩
  have unchanged := (last "alice" held (by decide)).2
  exact absurd unchanged (by decide)

end ManagementPlane.Policy
