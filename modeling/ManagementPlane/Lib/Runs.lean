import Mathlib.Data.List.Induction
import Mathlib.Algebra.Order.Group.Int
import Mathlib.Tactic.Common

/-!
# Runs of a state machine

A machine is a total step function; a step that is not enabled leaves the state
alone. `visits` lists every step a run takes together with the state it is
taken from, so "at every point of the run" and "every step of the run meets a
condition" are both statements about one list.
-/

namespace Runs

open List

variable {S I : Type*}

def run (step : S → I → S) : S → List I → S
  | state, [] => state
  | state, input :: rest => run step (step state input) rest

/-- Every state of the run, the starting state first. -/
def states (step : S → I → S) : S → List I → List S
  | state, [] => [state]
  | state, input :: rest => state :: states step (step state input) rest

/-- Every step of the run: the state it is taken from and its input. -/
def visits (step : S → I → S) : S → List I → List (S × I)
  | _, [] => []
  | state, input :: rest => (state, input) :: visits step (step state input) rest

section
variable (step : S → I → S) (state : S)

include step state

theorem run_append (first second : List I) :
    run step state (first ++ second) = run step (run step state first) second := by
  induction first generalizing state with
  | nil => rfl
  | cons input rest ih => exact ih (step state input)

variable (inputs : List I)

theorem run_concat (last : I) :
    run step state (inputs ++ [last]) = step (run step state inputs) last := by
  rw [run_append]
  rfl

theorem states_concat (last : I) :
    states step state (inputs ++ [last]) =
      states step state inputs ++ [step (run step state inputs) last] := by
  induction inputs generalizing state with
  | nil => rfl
  | cons input rest ih =>
    simp [states, run]
    rw [ih (step state input)]

theorem visits_append (first second : List I) :
    visits step state (first ++ second) =
      visits step state first ++ visits step (run step state first) second := by
  induction first generalizing state with
  | nil => rfl
  | cons input rest ih =>
    simp [visits, run]
    rw [ih (step state input)]

theorem visits_concat (last : I) :
    visits step state (inputs ++ [last]) =
      visits step state inputs ++ [(run step state inputs, last)] := by
  rw [visits_append]
  rfl

variable {step state inputs} in
theorem run_mem_states : run step state inputs ∈ states step state inputs := by
  induction inputs generalizing state with
  | nil => exact mem_singleton.mpr rfl
  | cons input rest ih => exact mem_cons_of_mem _ ih

end

/-- A state is on the run exactly when some initial part of the run ends in it. -/
theorem mem_states_iff (step : S → I → S) (state reached : S) (inputs : List I) :
    reached ∈ states step state inputs ↔
      ∃ before after, inputs = before ++ after ∧ reached = run step state before := by
  induction inputs generalizing state with
  | nil => simp [states, run]
  | cons input rest ih =>
    simp only [states, mem_cons, ih, cons_eq_append_iff]
    constructor
    · rintro (rfl | ⟨before, after, rfl, rfl⟩)
      · exact ⟨[], _, .inl ⟨rfl, rfl⟩, rfl⟩
      · exact ⟨input :: before, after, .inr ⟨before, rfl, rfl⟩, rfl⟩
    · rintro ⟨_, after, ⟨rfl, -⟩ | ⟨before, rfl, rfl⟩, rfl⟩
      · exact .inl rfl
      · exact .inr ⟨before, after, rfl, rfl⟩

/-- A step is on the run exactly when the run splits around it. -/
theorem mem_visits_iff {step : S → I → S} {state : S} {inputs : List I} {visit : S × I} :
    visit ∈ visits step state inputs ↔
      ∃ before after, inputs = before ++ visit.2 :: after ∧
        visit.1 = run step state before := by
  induction inputs generalizing state with
  | nil => simp [visits]
  | cons input rest ih =>
    simp only [visits, mem_cons, ih, cons_eq_append_iff]
    constructor
    · rintro (rfl | ⟨before, after, rfl, isRun⟩)
      · exact ⟨[], rest, .inl ⟨rfl, rfl⟩, rfl⟩
      · exact ⟨input :: before, after, .inr ⟨before, rfl, rfl⟩, isRun⟩
    · rintro ⟨_, after, ⟨rfl, isHead⟩ | ⟨before, rfl, rfl⟩, isRun⟩
      · cases isHead
        exact .inl (Prod.ext isRun rfl)
      · exact .inr ⟨before, after, rfl, isRun⟩

variable {inputs : List I} {state : S} {step : S → I → S}

theorem input_mem_of_visits {visit : S × I}
    (member : visit ∈ visits step state inputs) : visit.2 ∈ inputs := by
  obtain ⟨before, after, rfl, _⟩ := mem_visits_iff.mp member
  exact mem_append_right _ (mem_cons_self ..)

/-- The invariant rule under a condition on the steps: what holds at the start
and survives every step that meets the condition holds at the end of every run
whose steps all meet it. -/
theorem run_invariant_of (step : S → I → S) (Allowed : S → I → Prop) (Inv : S → Prop)
    (preserved : ∀ state input, Inv state → Allowed state input → Inv (step state input))
    (state : S) (inputs : List I) (start : Inv state)
    (allowed : ∀ visit ∈ visits step state inputs, Allowed visit.1 visit.2) :
    Inv (run step state inputs) := by
  induction inputs generalizing state with
  | nil => exact start
  | cons input rest ih =>
    have headAllowed : Allowed state input := allowed (state, input) (mem_cons_self ..)
    apply ih (step state input) (preserved state input start headAllowed)
    intro visit member
    exact allowed visit (mem_cons_of_mem _ member)

theorem run_invariant (step : S → I → S) (Inv : S → Prop)
    (preserved : ∀ state input, Inv state → Inv (step state input))
    (state : S) (inputs : List I) (start : Inv state) : Inv (run step state inputs) :=
  run_invariant_of step (fun _ _ => True) Inv (fun s i inv _ => preserved s i inv)
    state inputs start (fun _ _ => trivial)

theorem states_invariant_of (step : S → I → S) (Allowed : S → I → Prop) (Inv : S → Prop)
    (preserved : ∀ state input, Inv state → Allowed state input → Inv (step state input))
    (state : S) (inputs : List I) (start : Inv state)
    (allowed : ∀ visit ∈ visits step state inputs, Allowed visit.1 visit.2) :
    ∀ reached ∈ states step state inputs, Inv reached := by
  intro reached member
  obtain ⟨before, after, rfl, rfl⟩ := (mem_states_iff step state reached inputs).mp member
  apply run_invariant_of step Allowed Inv preserved state before start
  intro visit visited
  obtain ⟨early, late, rfl, visitEq⟩ := mem_visits_iff.mp visited
  apply allowed visit
  rw [mem_visits_iff]
  exact ⟨early, late ++ after, by simp, visitEq⟩

theorem visits_invariant (step : S → I → S) (Inv : S → Prop)
    (preserved : ∀ state input, Inv state → Inv (step state input))
    (state : S) (inputs : List I) (start : Inv state) :
    ∀ visit ∈ visits step state inputs, Inv visit.1 := by
  intro visit member
  obtain ⟨before, after, _, visitEq⟩ := mem_visits_iff.mp member
  rw [visitEq]
  exact run_invariant step Inv preserved state before start

/-- The state that a visited step is taken from is on the run. -/
theorem visit_mem_states {visit : S × I}
    (member : visit ∈ visits step state inputs) : visit.1 ∈ states step state inputs := by
  obtain ⟨before, after, rfl, visitEq⟩ := mem_visits_iff.mp member
  grind [mem_states_iff]

/-- So is the state that it leads to. -/
theorem step_mem_states {visit : S × I} (member : visit ∈ visits step state inputs) :
    step visit.1 visit.2 ∈ states step state inputs := by
  obtain ⟨before, after, rfl, visitEq⟩ := mem_visits_iff.mp member
  rw [mem_states_iff]
  exact ⟨before ++ [visit.2], after, by simp, by rw [run_concat, visitEq]⟩

/-! ## Machines with a counter

A counter that every step either keeps or raises by one numbers the states of a
run; `firstAt` is the first state with a given number. -/

variable (step : S → I → S) (count : S → Int)

def firstAt (state : S) (inputs : List I) (number : Int) : Option S :=
  (states step state inputs).find? fun reached => count reached = number

variable (bumps : ∀ state input, count (step state input) = count state ∨
  count (step state input) = count state + 1)

include bumps in
theorem count_le_run :
    ∀ reached ∈ states step state inputs, count reached ≤ count (run step state inputs) := by
  induction inputs using List.reverseRecOn with
  | nil =>
    intro reached member
    have reachedEq : reached = state := by simpa [states] using member
    rw [reachedEq]
    exact le_refl _
  | append_singleton inputs last ih =>
    intro reached member
    have bump := bumps (run step state inputs) last
    rw [states_concat, mem_append, mem_singleton] at member
    rw [run_concat]
    rcases member with member | rfl
    · have earlier := ih reached member
      omega
    · exact le_refl _

theorem firstAt_concat_of_some {state found : S} (last : I) {number : Int}
    (known : firstAt step count state inputs number = some found) :
    firstAt step count state (inputs ++ [last]) number = some found := by
  simp [firstAt] at known
  rw [firstAt, states_concat, find?_append, known]
  rfl

include bumps in
theorem firstAt_concat_new {last : I}
    (raised : count (step (run step state inputs) last) = count (run step state inputs) + 1) :
    firstAt step count state (inputs ++ [last]) (count (run step state inputs) + 1) =
      some (step (run step state inputs) last) := by
  have unseen : (states step state inputs).find?
      (fun reached => count reached = count (run step state inputs) + 1) = none := by
    rw [find?_eq_none]
    intro reached member
    have bound := count_le_run step count bumps reached member
    simp
    omega
  rw [firstAt, states_concat, find?_append, unseen]
  simp [raised]

end Runs
