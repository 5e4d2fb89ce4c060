import ManagementPlane.Lib.Runs

/-!
# The life of a test environment

`ProvisionEnvironment`, `RunTests` and `DestroyEnvironment` of `internal/validation/engine.go` on
one environment. A step is one section under the lock of the environment, or one choice of a
`select`; between two of them anything else may happen.
-/

namespace ManagementPlane.Validation

open Runs

inductive ContainerState where
  | none | provisioning | ready | testing | destroying | destroyed
deriving DecidableEq

inductive ServiceStatus where
  | pending | running | stopped
deriving DecidableEq

structure TestEnvironment where
  state : ContainerState := .provisioning
  services : List ServiceStatus
deriving DecidableEq

/-- Where the goroutine of `ProvisionEnvironment` is: before the `select` for a service or behind
it, before it reports the environment ready, waiting for the end of its life, or past that. -/
inductive Provisioner where
  | selecting (i : Nat)
  | marking (i : Nat)
  | reporting
  | waiting
  | expiring
  | returned

/-- Where a call of `RunTests` is. -/
inductive TestRun where
  | checking
  | starting
  | finishing
  | returned

structure Engine where
  env : TestEnvironment
  cancelled : Bool := false
  provisioner : Provisioner := .selecting 0
  runs : List TestRun := []

/-- A step of the goroutine says whether its `select` sees the cancellation or the timer. -/
inductive Step where
  | provision (sees : Bool)
  | cancel
  | call
  | test (k : Nat)
  | destroy

def destroyEnvironment (e : Engine) : Engine :=
  if e.env.state = .destroying ∨ e.env.state = .destroyed then e
  else
    { e with
      env := ⟨.destroyed, e.env.services.map fun _ => .stopped⟩
      cancelled := true }

def provision (e : Engine) (sees : Bool) : Engine :=
  match e.provisioner with
  | .selecting i =>
    if e.env.services.length ≤ i then { e with provisioner := .reporting }
    else if sees && e.cancelled then { e with provisioner := .returned }
    else { e with provisioner := .marking i }
  | .marking i =>
    { e with
      env := { e.env with services := e.env.services.set i .running }
      provisioner := .selecting (i + 1) }
  | .reporting => { e with env := { e.env with state := .ready }, provisioner := .waiting }
  | .waiting => { e with provisioner := if sees && e.cancelled then .returned else .expiring }
  | .expiring => { destroyEnvironment e with provisioner := .returned }
  | .returned => e

def runTests (e : Engine) (k : Nat) : Engine :=
  match e.runs[k]? with
  | some .checking =>
    let next := if e.env.state = .ready ∨ e.env.state = .testing then .starting else .returned
    { e with runs := e.runs.set k next }
  | some .starting =>
    { e with env := { e.env with state := .testing }, runs := e.runs.set k .finishing }
  | some .finishing =>
    { e with env := { e.env with state := .ready }, runs := e.runs.set k .returned }
  | _ => e

def step (e : Engine) : Step → Engine
  | .provision sees => provision e sees
  | .cancel => { e with cancelled := true }
  | .call => { e with runs := e.runs ++ [.checking] }
  | .test k => runTests e k
  | .destroy => destroyEnvironment e

/-- Nobody is about to write to the environment. -/
def Quiet (e : Engine) : Prop :=
  (∀ i, e.provisioner = .selecting i → i < e.env.services.length) ∧
    (∀ i, e.provisioner ≠ .marking i) ∧ e.provisioner ≠ .reporting ∧
    ∀ run ∈ e.runs, run = .checking ∨ run = .returned

/-- The environment is destroyed while nobody is about to write to it, and a goroutine whose
context is done does not take its timer instead. -/
def Orderly (e : Engine) : Step → Prop
  | .destroy => Quiet e
  | .provision sees => (e.cancelled = true → sees = true) ∧ (e.provisioner = .expiring → Quiet e)
  | _ => True

def Settled (e : Engine) : Prop := e.env.state = .destroyed → e.cancelled = true ∧ Quiet e

section
variable {e : Engine}

theorem settled_destroyEnvironment (settled : Settled e) (quiet : Quiet e) :
    Settled (destroyEnvironment e) := by
  unfold destroyEnvironment
  split
  · exact settled
  · intro _
    simpa [Quiet] using quiet

theorem env_provision {sees : Bool} (isDestroyed : e.env.state = .destroyed) (quiet : Quiet e) :
    (provision e sees).env = e.env := by
  obtain ⟨-, noMark, noReport, -⟩ := quiet
  cases at' : e.provisioner <;>
    simp_all [provision, destroyEnvironment, apply_ite Engine.env]

theorem settled_provision {sees : Bool} (settled : Settled e)
    (orderly : Orderly e (.provision sees)) : Settled (provision e sees) := by
  cases at' : e.provisioner with
  | expiring =>
    have torn := settled_destroyEnvironment settled (orderly.2 at')
    simp [provision, at']
    intro isDestroyed
    obtain ⟨isCancelled, -, -, -, quietRuns⟩ := torn isDestroyed
    exact ⟨isCancelled, by simp, by simp, by simp, quietRuns⟩
  | reporting => simp [provision, at', Settled]
  | returned => simpa only [provision, at'] using settled
  | selecting i | marking i | waiting =>
    intro isDestroyed
    have was : e.env.state = .destroyed := by
      simpa [provision, at', apply_ite Engine.env] using isDestroyed
    obtain ⟨isCancelled, inside, noMark, noReport, quietRuns⟩ := settled was
    have seen := orderly.1 isCancelled
    simp_all [provision, Quiet, Nat.not_le.mpr]

theorem quiet_set {k : Nat} {next : TestRun} (isQuiet : next = .checking ∨ next = .returned)
    (quiet : ∀ run ∈ e.runs, run = .checking ∨ run = .returned) :
    ∀ run ∈ e.runs.set k next, run = .checking ∨ run = .returned := by
  intro other member
  rcases List.mem_or_eq_of_mem_set member with early | rfl
  · exact quiet other early
  · exact isQuiet

/-- In a destroyed environment every run of the tests stops at its check. -/
theorem runTests_destroyed {k : Nat} (isDestroyed : e.env.state = .destroyed) (quiet : Quiet e) :
    (runTests e k).env = e.env ∧ Quiet (runTests e k) := by
  obtain ⟨inside, noMark, noReport, quietRuns⟩ := quiet
  unfold runTests
  split
  · exact ⟨rfl, inside, noMark, noReport, quiet_set (by simp [isDestroyed]) quietRuns⟩
  next starts => simpa using quietRuns _ (List.mem_of_getElem? starts)
  next ends => simpa using quietRuns _ (List.mem_of_getElem? ends)
  · exact ⟨rfl, inside, noMark, noReport, quietRuns⟩

theorem settled_step {s : Step} (settled : Settled e) (orderly : Orderly e s) :
    Settled (step e s) := by
  cases s with
  | provision sees => exact settled_provision settled orderly
  | cancel => exact fun isDestroyed => ⟨rfl, (settled isDestroyed).2⟩
  | call =>
    intro isDestroyed
    obtain ⟨isCancelled, inside, noMark, noReport, quietRuns⟩ := settled isDestroyed
    refine ⟨isCancelled, inside, noMark, noReport, ?_⟩
    simpa [step, or_imp, forall_and] using quietRuns
  | test k =>
    by_cases was : e.env.state = .destroyed
    · have quiet := runTests_destroyed (k := k) was (settled was).2
      exact fun _ => ⟨by simp [step, runTests]; split <;> exact (settled was).1, quiet.2⟩
    · simp [Settled, step, runTests]
      split <;> simp [was]
  | destroy => exact settled_destroyEnvironment settled orderly

theorem env_of_settled {s : Step} (settled : Settled e) (isDestroyed : e.env.state = .destroyed) :
    (step e s).env = e.env := by
  have quiet := (settled isDestroyed).2
  cases s with
  | provision sees => exact env_provision isDestroyed quiet
  | cancel | call => rfl
  | test k => exact (runTests_destroyed isDestroyed quiet).1
  | destroy => simp [step, destroyEnvironment, isDestroyed]

end

/-- A destroyed environment stays as it is in every run whose steps are orderly. -/
theorem destroyed_stays (services : List ServiceStatus) (steps : List Step)
    (orderly : ∀ visit ∈ visits step { env := { services } } steps, Orderly visit.1 visit.2) :
    ∀ visit ∈ visits step { env := { services } } steps,
      visit.1.env.state = .destroyed → (step visit.1 visit.2).env = visit.1.env := by
  intro visit member
  have settled := states_invariant_of step Orderly Settled (fun _ _ => settled_step) _ steps
    (by simp [Settled]) orderly visit.1 (visit_mem_states member)
  exact env_of_settled settled

theorem destroyed_stays_demo :
    (step { env := ⟨.destroyed, [.stopped]⟩, cancelled := true } (.provision true)).env =
      ⟨.destroyed, [.stopped]⟩ :=
  destroyed_stays [.pending] [.destroy, .provision true]
    (by simp [visits, Orderly, Quiet, step, destroyEnvironment])
    ({ env := ⟨.destroyed, [.stopped]⟩, cancelled := true }, .provision true)
    (by simp [visits, step, destroyEnvironment]) rfl

/-- The last of the ten default services was about to start: it is running after the environment
has been destroyed, which is then reported ready. -/
theorem destroyed_revived :
    let created : Engine := { env := { services := List.replicate 10 .pending } }
    let destroyed := run step created (List.replicate 19 (.provision true) ++ [.destroy])
    destroyed.env = ⟨.destroyed, List.replicate 10 .stopped⟩ ∧
      (run step destroyed (List.replicate 3 (.provision true))).env =
        ⟨.ready, List.replicate 9 .stopped ++ [.running]⟩ := by
  decide

end ManagementPlane.Validation
