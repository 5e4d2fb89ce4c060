import ManagementPlane.Lib.Tables

/-!
# The first match in a sorted list

A list is sorted by rank and searched for the first element with a property. Elements of one rank
come in any order, so what every order finds is the element that has the property and ranks
strictly below every other one that has it, and the whole list is the same for every order exactly
when elements of one rank look the same.
-/

namespace Tables

open List Option

variable {α : Type}

/-- The element has the property and ranks strictly below the others that have it. -/
structure Leads (rank : α → Int) (holds : α → Bool) (list : List α) (a : α) : Prop where
  member : a ∈ list
  matched : holds a = true
  below : ∀ b ∈ list, holds b = true → b ≠ a → rank a < rank b

variable {rank : α → Int} {holds : α → Bool} {list : List α} {a : α}

/-- What is found in a sorted list ranks no higher than any other match. -/
theorem le_of_find? (sorted : list.Pairwise fun b c => rank b ≤ rank c)
    (found : list.find? holds = some a) {b : α} (member : b ∈ list) (itMatches : holds b = true) :
    rank a ≤ rank b := by
  induction list with
  | nil => cases member
  | cons c rest ih =>
    rw [pairwise_cons] at sorted
    rw [find?_cons] at found
    cases here : holds c with
    | true | false =>
      grind

/-- Every order finds an element that leads. -/
theorem Leads.find? (leads : Leads rank holds list a)
    (order : MapOrder α) : (sortBy order rank list).find? holds = some a := by
  have perm := sortBy_perm order rank list
  cases found : (sortBy order rank list).find? holds with
  | none =>
    have nothing := find?_eq_none.mp found a (perm.mem_iff.mpr leads.member)
    exact absurd leads.matched nothing
  | some b =>
    have matched : holds b = true := find?_some found
    have there : b ∈ list := perm.mem_iff.mp (mem_of_find?_eq_some found)
    have low := le_of_find? (sortBy_sorted order rank list) found
      (perm.mem_iff.mpr leads.member) leads.matched
    by_contra other
    have different : b ≠ a := by
      intro same
      rw [same] at other
      exact other rfl
    have high := leads.below b there matched different
    omega

/-- An element that goes in before its equals is found unless something ranks below it. -/
theorem find?_orderedInsert {b : α} (matched : holds b = true)
    (found : (list.orderedInsert (fun x y => rank x ≤ rank y) b).find? holds = some a) :
    a = b ∨ rank a < rank b := by
  induction list with
  | nil =>
    grind
  | cons c rest ih =>
    rw [orderedInsert_cons] at found
    split_ifs at found with low
    all_goals grind

/-- An order that visits an element first. -/
theorem front_visit [DecidableEq α] (member : a ∈ list) :
    ∃ rest, (MapOrder.front fun x => decide (x = a)).visit list = a :: rest := by
  have present : a ∈ list.filter fun x => decide (x = a) :=
    mem_filter.mpr ⟨member, decide_eq_true rfl⟩
  obtain ⟨c, rest, split⟩ := exists_cons_of_ne_nil (ne_nil_of_mem present)
  have first : c = a := by
    have inside : c ∈ list.filter fun x => decide (x = a) := by
      rw [split]
      exact mem_cons_self
    exact of_decide_eq_true (mem_filter.mp inside).2
  rw [first] at split
  refine ⟨rest ++ list.filter fun x => !decide (x = a), ?_⟩
  simp [MapOrder.front, split]

/-- What every order finds leads. -/
theorem leads_of_find?
    (found : ∀ order : MapOrder α, (sortBy order rank list).find? holds = some a) :
    Leads rank holds list a := by
  have once := found .asStored
  have perm := sortBy_perm .asStored rank list
  refine ⟨perm.mem_iff.mp (mem_of_find?_eq_some once), find?_some once, ?_⟩
  intro b member matched different
  by_contra notBelow
  -- an order that visits `b` first puts it before its equals
  classical
  have first := found (MapOrder.front fun x => decide (x = b))
  obtain ⟨rest, front⟩ := front_visit member
  rw [sortBy, front, insertionSort_cons] at first
  rcases find?_orderedInsert matched first with same | low
  · exact different same.symm
  · omega

/-- Some order finds a match that no other match ranks below. -/
theorem exists_order_find? (member : a ∈ list) (matched : holds a = true)
    (least : ∀ b ∈ list, holds b = true → rank a ≤ rank b) :
    ∃ order : MapOrder α, (sortBy order rank list).find? holds = some a := by
  classical
  refine ⟨MapOrder.front fun x => decide (x = a), ?_⟩
  have perm := sortBy_perm (MapOrder.front fun x => decide (x = a)) rank list
  cases found : (sortBy (MapOrder.front fun x => decide (x = a)) rank list).find? holds with
  | none => exact absurd matched (find?_eq_none.mp found a (perm.mem_iff.mpr member))
  | some c =>
    have there : c ∈ list := perm.mem_iff.mp (mem_of_find?_eq_some found)
    have low := least c there (find?_some found)
    obtain ⟨rest, front⟩ := front_visit member
    rw [sortBy, front, insertionSort_cons] at found
    rcases find?_orderedInsert matched found with same | lower
    · rw [same]
    · omega

/-- In a sorted list, what ranks below a bound comes first. -/
theorem filterMap_below {β : Type} (f : α → Option β) (bound : Int)
    (sorted : list.Pairwise fun a b => rank a ≤ rank b) :
    list.filterMap f = list.filterMap (fun a => if rank a < bound then f a else none) ++
      list.filterMap fun a => if rank a < bound then none else f a := by
  induction list with
  | nil => rfl
  | cons a rest ih =>
    obtain ⟨least, sorted⟩ := pairwise_cons.mp sorted
    by_cases below : rank a < bound
    · cases read : f a <;> simp [below, read, ih sorted]
    · have above : ∀ b ∈ rest, ¬ rank b < bound := fun b member => by
        have := least b member
        omega
      have noneBelow : rest.filterMap (fun b => if rank b < bound then f b else none) = [] := by
        simp +contextual [above]
      have all : rest.filterMap (fun b => if rank b < bound then none else f b) = rest.filterMap f :=
        filterMap_congr fun b member => if_neg (above b member)
      cases read : f a <;> simp [below, read, noneBelow, all]

/-- A sort shows the same whatever order it starts from, exactly when it shows the same of
values of one rank. -/
theorem filterMap_sortBy_iff {β : Type} (f : α → Option β) :
    (∀ first second : MapOrder α,
      (sortBy first rank list).filterMap f = (sortBy second rank list).filterMap f) ↔
      ∀ a ∈ list, ∀ b ∈ list, rank a = rank b → ∀ x ∈ f a, ∀ y ∈ f b, x = y := by
  constructor
  · intro same a listed b listedToo tie x isX y isY
    let later := fun c => if rank c < rank a then none else f c
    have dropped : ∀ order : MapOrder α, (sortBy order rank list).filterMap later =
        ((sortBy order rank list).filterMap f).drop
          (list.filterMap fun c => if rank c < rank a then f c else none).length := by
      intro order
      rw [filterMap_below f (rank a) (sortBy_sorted order rank list),
        ← ((sortBy_perm order rank list).filterMap _).length_eq, drop_left]
    have leads : ∀ c ∈ list, rank c = rank a → ∀ z ∈ f c,
        ∃ order : MapOrder α, ((sortBy order rank list).filterMap later).find? (fun _ => true) = some z := by
      intro c member level z isZ
      have matched : later c = some z := (if_neg (by omega)).trans isZ
      obtain ⟨order, found⟩ := @exists_order_find? _ rank (fun c => (later c).any fun _ => true) _ _
        member (by simp [matched]) fun d _ shown => by
          by_contra below
          simp [later, show rank d < rank a by omega] at shown
      exact ⟨order, by rw [find?_filterMap, found, bind_some, matched]⟩
    obtain ⟨first, foundFirst⟩ := leads a listed rfl x isX
    obtain ⟨second, foundSecond⟩ := leads b listedToo tie.symm y isY
    rw [dropped, same first second, ← dropped, foundSecond] at foundFirst
    exact (Option.some.inj foundFirst).symm
  · intro ties first second
    let ranked := fun a => (f a).map (Prod.mk (rank a))
    have shown : ∀ order : MapOrder α, (sortBy order rank list).filterMap f =
        ((sortBy order rank list).filterMap ranked).map Prod.snd := by
      intro order
      simp [ranked, map_filterMap, Function.comp_def]
    have sorted : ∀ order : MapOrder α,
        ((sortBy order rank list).filterMap ranked).Pairwise fun v w => v.1 ≤ w.1 := by
      intro order
      rw [pairwise_filterMap]
      refine (sortBy_sorted order rank list).imp fun below v isV w isW => ?_
      obtain ⟨-, -, rfl⟩ := map_eq_some_iff.mp isV
      obtain ⟨-, -, rfl⟩ := map_eq_some_iff.mp isW
      exact below
    have same := ((sortBy_perm first rank list).trans (sortBy_perm second rank list).symm).filterMap
      ranked
    rw [shown, shown, same.eq_of_pairwise ?_ (sorted first) (sorted second)]
    intro v w inFirst inSecond below above
    obtain ⟨a, listed, isV⟩ := mem_filterMap.mp inFirst
    obtain ⟨b, listedToo, isW⟩ := mem_filterMap.mp inSecond
    have member : ∀ order : MapOrder α, ∀ c ∈ sortBy order rank list, c ∈ list :=
      fun order c => (sortBy_perm order rank list).mem_iff.mp
    obtain ⟨x, isX, rfl⟩ := map_eq_some_iff.mp isV
    obtain ⟨y, isY, rfl⟩ := map_eq_some_iff.mp isW
    have tie : rank a = rank b := le_antisymm below above
    rw [tie, ties a (member _ a listed) b (member _ b listedToo) tie x isX y isY]

end Tables
