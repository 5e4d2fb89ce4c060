import ManagementPlane.Assistant.Effects

/-!
# Where a new allow is placed

`placeAboveFirstMatch` on an arbitrary sorted list, for whatever decides a match. Sequences are
machine integers, and moving a policy down by ten can wrap around; and a policy before the first
match with its sequence is not moved with it.
-/

namespace ManagementPlane.Assistant

open List
open Policy (SecurityPolicy)

section
variable (matched : SecurityPolicy → Bool) (policies : List SecurityPolicy)

/-- Each policy with what it becomes: the copies that are returned replace the last policies. -/
def applied (shifts : List SecurityPolicy) : List (SecurityPolicy × SecurityPolicy) :=
  policies.zip (policies.take (policies.length - shifts.length) ++ shifts)

def preceding : List SecurityPolicy := policies.takeWhile fun r => !matched r

/-- The new policy stands above every match and not above what precedes the first one, which
stays where it is, and policies compare as before. -/
structure Placed (placement : Placement) : Prop where
  above : ∀ change ∈ applied policies placement.shifts, matched change.1 = true →
    placement.seq < change.2.sequence
  ordered : (applied policies placement.shifts).Pairwise fun a b =>
    a.2.sequence ≤ b.2.sequence ∧ (a.1.sequence < b.1.sequence ↔ a.2.sequence < b.2.sequence)
  stays : policies.any matched = true →
    (preceding matched policies).map (fun r => (r, r)) <+: applied policies placement.shifts ∧
      ∀ r ∈ preceding matched policies, r.sequence ≤ placement.seq
  unmatched : policies.any matched = false →
    placement.shifts = [] ∧ ∀ r ∈ policies, r.sequence < placement.seq

/-- Ten more than any sequence is a machine integer and no policy before the first match has its
sequence, or the slot above the first match is free. -/
def Roomy : Prop :=
  ((∀ r ∈ policies, r.sequence + 10 < 2 ^ 63) ∧ ∀ p, policies.find? matched = some p →
    ∀ r ∈ preceding matched policies, r.sequence < p.sequence) ∨
  ∃ p, policies.find? matched = some p ∧
    2 ≤ p.sequence - lastSequence 0 (preceding matched policies) ∧
    p.sequence - lastSequence 0 (preceding matched policies) < 2 ^ 63

end

/-- Sorted machine integers. -/
structure Listed (policies : List SecurityPolicy) : Prop where
  sorted : policies.Pairwise fun a b => a.sequence ≤ b.sequence
  fits : ∀ r ∈ policies, -2 ^ 63 ≤ r.sequence ∧ r.sequence < 2 ^ 63

theorem applied_append (before tail : List SecurityPolicy) :
    applied (before ++ tail) (tail.map shifted) =
      before.map (fun r => (r, r)) ++ tail.map fun r => (r, shifted r) := by
  simp only [applied, length_append, length_map, Nat.add_sub_cancel, take_left']
  induction before with
  | nil => simp [map_prod_left_eq_zip]
  | cons r rest ih => simpa using ih

theorem applied_nil (policies : List SecurityPolicy) :
    applied policies [] = policies.map fun r => (r, r) := by
  simpa using applied_append policies []

theorem wrap_cases {n : Int} (low : -2 ^ 63 ≤ n) (high : n < 2 ^ 64) :
    (n < 2 ^ 63 ∧ wrap n = n) ∨ (2 ^ 63 ≤ n ∧ wrap n = n - 2 ^ 64) := by
  rw [wrap, Int.bmod]
  split <;> omega

section
variable {matched : SecurityPolicy → Bool}

theorem placed_iff_of_none {policies : List SecurityPolicy} (listed : Listed policies)
    (nobody : ∀ r ∈ policies, matched r = false) :
    Placed matched policies (placeAboveFirstMatch matched policies) ↔ Roomy matched policies := by
  have noMatch : policies.any matched = false := by simpa using nobody
  have notFound : policies.find? matched = none := by simpa using nobody
  simp only [placeAboveFirstMatch, placeFrom_none _ nobody, Roomy, notFound, reduceCtorEq,
    false_and, exists_false, or_false, false_imp_iff, implies_true, and_true]
  rcases eq_nil_or_concat' policies with rfl | ⟨front, last, rfl⟩
  · exact iff_of_true ⟨by simp [applied], by simp [applied], by simp, by simp⟩ (by simp)
  · have least : ∀ r ∈ front ++ [last], r.sequence ≤ last.sequence := by
      simpa [or_imp, forall_and] using (pairwise_append.mp listed.sorted).2.2
    have bounds := listed.fits last (by simp)
    have ten := wrap_cases (n := last.sequence + 10) (by omega) (by omega)
    simp only [getLast?_concat]
    constructor
    · intro placed r member
      have above := (placed.unmatched noMatch).2 last (by simp)
      have le := least r member
      simp only at above
      omega
    · intro room
      have roomy := room last (by simp)
      refine ⟨?_, ?_, by simp [noMatch], fun _ => ⟨rfl, fun r member => ?_⟩⟩
      · rw [applied_nil, forall_mem_map]
        intro r here isMatch
        simp [nobody r here] at isMatch
      · rw [applied_nil, pairwise_map]
        exact listed.sorted.imp fun le => ⟨le, .rfl⟩
      · have le := least r member
        simp only
        omega

variable {before later : List SecurityPolicy} {p : SecurityPolicy}
  (skipped : ∀ r ∈ before, matched r = false) (found : matched p = true)
  (listed : Listed (before ++ p :: later))

include skipped found

theorem preceding_split : preceding matched (before ++ p :: later) = before := by
  rw [preceding, takeWhile_append_of_pos (by simpa using skipped)]
  simp [found]

include listed

/-- The first match and what follows it are moved down by `d`, and the new policy is above them. -/
theorem placed_of_moved {placement : Placement} {f : SecurityPolicy → SecurityPolicy} {d : Int}
    (moved : applied (before ++ p :: later) placement.shifts =
      before.map (fun r => (r, r)) ++ (p :: later).map fun r => (r, f r))
    (moves : ∀ r ∈ p :: later, (f r).sequence = r.sequence + d) (down : 0 ≤ d)
    (untied : d = 0 ∨ ∀ r ∈ before, r.sequence < p.sequence)
    (above : placement.seq < p.sequence + d) (below : ∀ r ∈ before, r.sequence ≤ placement.seq) :
    Placed matched (before ++ p :: later) placement := by
  obtain ⟨early, behind, across⟩ := pairwise_append.mp listed.sorted
  have atOrBehind : ∀ r ∈ p :: later, p.sequence ≤ r.sequence := by
    intro r here
    rcases mem_cons.mp here with rfl | late
    · exact le_rfl
    · exact (pairwise_cons.mp behind).1 r late
  refine ⟨?_, ?_, fun _ => ?_, by simp [found]⟩
  · rw [moved]
    simp only [forall_mem_append, forall_mem_map]
    refine ⟨fun r here isMatch => by simp [skipped r here] at isMatch, fun r here _ => ?_⟩
    have le := atOrBehind r here
    rw [moves r here]
    omega
  · rw [moved, pairwise_append, pairwise_map, pairwise_map]
    refine ⟨early.imp fun le => ⟨le, .rfl⟩, ?_, ?_⟩
    · refine behind.imp_of_mem fun hereA hereB le => ?_
      simp only [moves _ hereA, moves _ hereB]
      omega
    · simp only [forall_mem_map]
      intro a hereA b hereB
      have le := across a hereA b hereB
      have lt := untied.imp_right fun all => all a hereA
      have behindMatch := atOrBehind b hereB
      rw [moves b hereB]
      omega
  · rw [preceding_split skipped found, moved]
    exact ⟨prefix_append _ _, below⟩

theorem placed_iff_of_split :
    Placed matched (before ++ p :: later) (placeAboveFirstMatch matched (before ++ p :: later)) ↔
      Roomy matched (before ++ p :: later) := by
  obtain ⟨sorted, fits⟩ := listed
  obtain ⟨early, -, across⟩ := pairwise_append.mp sorted
  have isFirst : (before ++ p :: later).find? matched = some p := by
    simp [find?_append, find?_eq_none.mpr (by simpa using skipped), found]
  have atMost : ∀ r ∈ before, r.sequence ≤ p.sequence := fun r member => across r member p (by simp)
  have bounds := fits p (by simp)
  have earlier := le_lastSequence early
  have prevBounds : -2 ^ 63 ≤ lastSequence 0 before ∧
      (lastSequence 0 before = 0 ∨ lastSequence 0 before ≤ p.sequence) := by
    rcases lastSequence_cases before with ⟨-, isLast⟩ | ⟨front, last, rfl, isLast⟩
    · omega
    · have le := atMost last (by simp)
      have fitsLast := fits last (by simp)
      omega
  rw [placeAboveFirstMatch, placeFrom_append _ _ _ skipped, placeFrom, if_pos found]
  simp only [Roomy, isFirst, Option.some.injEq, exists_eq_left', preceding_split skipped found]
  generalize lastSequence 0 before = prev at *
  have gap := wrap_cases (n := p.sequence - prev) (by omega) (by omega)
  by_cases free : 2 ≤ p.sequence - prev ∧ p.sequence - prev < 2 ^ 63
  · -- the slot is free, and nothing is moved
    have isGap : wrap (p.sequence - prev) = p.sequence - prev := by omega
    have isSeq : wrap (prev + (p.sequence - prev).tdiv 2) = prev + (p.sequence - prev) / 2 := by
      rw [Int.tdiv_eq_ediv_of_nonneg (by omega)]
      exact wrap_of_fits (by omega) (by omega)
    rw [isGap, if_pos free.1, isSeq]
    refine iff_of_true ?_ (.inr free)
    refine placed_of_moved skipped found ⟨sorted, fits⟩ (f := id) (d := 0) ?_ (by simp) le_rfl
      (.inl rfl) ?_ ?_
    · simpa using applied_nil (before ++ p :: later)
    · simp only
      omega
    · intro r member
      have le := earlier r member
      simp only
      omega
  · rw [if_neg (by omega), or_iff_left free]
    have moved := applied_append before (p :: later)
    constructor
    · -- a shift that wraps, or a tie that it breaks, is seen in the sequences
      rintro ⟨above, ordered, -, -⟩
      simp only [moved] at above ordered
      have ten := wrap_cases (n := p.sequence + 10) (by omega) (by omega)
      have overtaken : p.sequence < wrap (p.sequence + 10) := above (p, shifted p) (by simp) found
      have behind := (pairwise_append.mp ordered).2.1
      simp only [map_cons, pairwise_cons, mem_map] at behind
      simp only [forall_mem_append, forall_mem_cons]
      refine ⟨⟨fun r member => ?_, by omega, fun r late => ?_⟩, fun _ isP r member => ?_⟩
      · have le := atMost r member
        omega
      · have le : wrap (p.sequence + 10) ≤ wrap (r.sequence + 10) := (behind.1 _ ⟨r, late, rfl⟩).1
        have fitsLate := fits r (by simp [late])
        have tenLate := wrap_cases (n := r.sequence + 10) (by omega) (by omega)
        omega
      · have kept := ((pairwise_append.mp ordered).2.2 (r, r) (by simp [member]) (p, shifted p)
          (by simp)).2
        have le := atMost r member
        rw [← isP]
        exact kept.mpr (le.trans_lt overtaken)
    · rintro ⟨room, untied⟩
      refine placed_of_moved skipped found ⟨sorted, fits⟩ moved (d := 10) (fun r here => ?_)
        (by omega) (.inr (untied p rfl)) ?_ atMost
      · have member : r ∈ before ++ p :: later := mem_append_right _ here
        have fitsHere := fits r member
        exact wrap_of_fits (by omega) (room r member)
      · simp only
        omega

end

def upTo (last : Int) : List SecurityPolicy :=
  [{ id := "allow", sequence := last - 1 }, { id := "deny", sequence := last }]

end ManagementPlane.Assistant
