import Mathlib.Data.List.Pairwise
import ManagementPlane.Lib.Interleave

/-!
# Operations that succeed once

Some operations take something that is open: they succeed only while it is open, and they
close it. What is closed stays closed. Then no interleaving takes a thing twice, whoever the
takers are and whichever of their operations they use.
-/

namespace Interleave

open List

/-- Where no value is drawn twice, a value is drawn in one place. -/
theorem eq_of_nodup_filterMap {β γ : Type} {drawn : β → Option γ} {trace : List β}
    (distinct : (trace.filterMap drawn).Nodup) {first second : β} (firstIn : first ∈ trace)
    (secondIn : second ∈ trace) {x : γ} (firstDrawn : drawn first = some x)
    (secondDrawn : drawn second = some x) : first = second := by
  by_contra different
  rw [List.Nodup, pairwise_filterMap] at distinct
  have symmetric : Std.Symm fun a b : β =>
      ∀ y, drawn a = some y → ∀ z, drawn b = some z → y ≠ z :=
    ⟨fun _ _ apart y left z right same => apart z right y left same.symm⟩
  exact distinct.forall firstIn secondIn different x firstDrawn x secondDrawn rfl

/-- What is stored under a drawn key is stored by the request that drew the key, so a request that
has stored nothing finds the key unused. -/
theorem stored_fresh {Op κ : Type} {Ans : Op → Type} (drawn stored : Event Op Ans → Option κ)
    {trace : List (Nat × Event Op Ans)}
    (distinct : (trace.filterMap fun entry => drawn entry.2).Nodup)
    (made : ∀ entry ∈ trace, ∀ k, stored entry.2 = some k →
      ∃ event, (entry.1, event) ∈ trace ∧ drawn event = some k)
    {i : Nat} {k : κ} (mine : ∃ event ∈ past trace i, drawn event = some k)
    (unstored : ∀ event ∈ past trace i, stored event = none) :
    ∀ entry ∈ trace, stored entry.2 ≠ some k := by
  intro entry member isStored
  obtain ⟨other, otherDone, otherDrew⟩ := made entry member k isStored
  obtain ⟨own, ownDone, ownDrew⟩ := mine
  have same := eq_of_nodup_filterMap distinct otherDone (mem_past_iff.mp ownDone) otherDrew ownDrew
  have ownerEq : entry.1 = i := congrArg Prod.fst same
  have mineToo : entry.2 ∈ past trace i := by
    rwa [mem_past_iff, ← ownerEq]
  rw [unstored entry.2 mineToo] at isStored
  cases isStored

variable {World Op κ : Type} {Ans : Op → Type} (takes : κ → Event Op Ans → Prop)
variable (Closed : κ → World → Prop)

structure Taken (world : World) (trace : List (Nat × Event Op Ans)) : Prop where
  closed : ∀ k, ∀ entry ∈ trace, takes k entry.2 → Closed k world
  once : ∀ k, trace.Pairwise fun first second => ¬ (takes k first.2 ∧ takes k second.2)

variable {takes Closed} {world after : World} {trace : List (Nat × Event Op Ans)}

/-- All that takes one thing is one entry of the trace. -/
theorem Taken.eq (taken : Taken takes Closed world trace) {k : κ} {first second : Nat × Event Op Ans}
    (firstDone : first ∈ trace) (secondDone : second ∈ trace) (firstTakes : takes k first.2)
    (secondTakes : takes k second.2) : first = second := by
  by_contra different
  have symmetric : Std.Symm fun first second : Nat × Event Op Ans =>
      ¬ (takes k first.2 ∧ takes k second.2) := ⟨fun _ _ apart both => apart both.symm⟩
  exact (taken.once k).forall firstDone secondDone different ⟨firstTakes, secondTakes⟩

theorem taken_nil : Taken takes Closed world [] where
  closed := nofun
  once := fun _ => List.Pairwise.nil

/-- An operation that takes a thing only while it is open and then closes it, and opens nothing,
takes nothing twice. -/
theorem Taken.concat (taken : Taken takes Closed world trace) {i : Nat} {event : Event Op Ans}
    (closes : ∀ k, takes k event → ¬ Closed k world ∧ Closed k after)
    (stays : ∀ k, Closed k world → Closed k after) :
    Taken takes Closed after (trace ++ [(i, event)]) where
  closed := by
    intro k entry member isTaken
    rcases mem_append.mp member with old | new
    · exact stays k (taken.closed k entry old isTaken)
    · rw [mem_singleton.mp new] at isTaken
      exact (closes k isTaken).2
  once := by
    intro k
    simp only [pairwise_append, pairwise_singleton, mem_singleton, true_and, forall_eq]
    refine ⟨taken.once k, ?_⟩
    intro entry member both
    exact (closes k both.2).1 (taken.closed k entry member both.1)

end Interleave
