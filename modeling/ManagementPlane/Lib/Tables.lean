import Mathlib.Data.List.AList
import Mathlib.Data.List.Sort
import Mathlib.Data.List.DropRight

/-!
# Keyed tables, visiting orders and sliding windows

A map keyed by a field of its own values is an `AList`; the values are `Keyed`
when every entry sits under its own key. A loop over such a map may visit the
entries in any order, so a loop takes a `MapOrder`, a reordering that is a
permutation by construction. Sorting after an arbitrary reordering covers
every result an unstable sort of the map can return.

`Window.push` appends to a bounded history and drops the oldest element once the
bound is reached; it keeps exactly the last elements of the full history.
-/

open List Option AList

namespace Tables

variable {κ α : Type} [DecidableEq κ]

abbrev Table (κ α : Type) := AList (fun _ : κ => α)

def values (table : Table κ α) : List α := table.entries.map Sigma.snd

/-- Every entry sits under the key of its own value. -/
def Keyed (key : α → κ) (table : Table κ α) : Prop :=
  ∀ entry ∈ table.entries, key entry.2 = entry.1

omit [DecidableEq κ] in
theorem keyed_empty (key : α → κ) : Keyed key (∅ : Table κ α) := by
  intro entry member
  simp at member

variable {key : α → κ} {table : Table κ α}

theorem keyed_erase (k : κ) (keyed : Keyed key table) : Keyed key (table.erase k) := by
  intro entry member
  exact keyed entry (kerase_sublist k table.entries |>.subset member)

theorem keyed_insert (key : α → κ) (table : Table κ α) (a : α)
    (keyed : Keyed key table) : Keyed key (table.insert (key a) a) := by
  intro entry member
  rw [entries_insert, mem_cons] at member
  rcases member with rfl | member
  · rfl
  · exact keyed entry (kerase_sublist (key a) table.entries |>.subset member)

omit [DecidableEq κ] in
theorem mem_values_iff (table : Table κ α) (a : α) :
    a ∈ values table ↔ ∃ k, (⟨k, a⟩ : Sigma fun _ : κ => α) ∈ table.entries := by
  simp only [values, List.mem_map]
  simp

theorem lookup_eq_some_iff {table : Table κ α} {k : κ} {a : α} :
    table.lookup k = some a ↔ (⟨k, a⟩ : Sigma fun _ : κ => α) ∈ table.entries :=
  mem_lookup_iff

instance decidableLookup {P : κ → α → Prop} [∀ k a, Decidable (P k a)] (table : Table κ α) :
    Decidable (∀ k a, table.lookup k = some a → P k a) :=
  decidable_of_iff (∀ entry ∈ table.entries, P entry.1 entry.2)
    ⟨fun all k a found => all ⟨k, a⟩ (lookup_eq_some_iff.mp found),
      fun all entry member => all entry.1 entry.2 (lookup_eq_some_iff.mpr member)⟩

/-- In a keyed table, looking a key up finds the value that carries it. -/
theorem keyed_lookup_iff {key : α → κ} {table : Table κ α} (keyed : Keyed key table)
    {k : κ} {a : α} : table.lookup k = some a ↔ a ∈ values table ∧ key a = k := by
  rw [lookup_eq_some_iff, mem_values_iff]
  constructor
  · intro member
    exact ⟨⟨k, member⟩, keyed _ member⟩
  · rintro ⟨⟨k', member⟩, rfl⟩
    have same : key a = k' := keyed _ member
    rwa [same]

omit [DecidableEq κ] in
theorem keyed_values_map (keyed : Keyed key table) : (values table).map key = table.keys := by
  simp only [values, AList.keys, List.keys, List.map_map]
  exact map_congr_left fun entry member => keyed entry member

omit [DecidableEq κ] in
theorem keyed_values_nodup (keyed : Keyed key table) : ((values table).map key).Nodup := by
  rw [keyed_values_map keyed]
  exact table.keys_nodup

omit [DecidableEq κ] in
theorem values_eq_nil_iff (table : Table κ α) : values table = [] ↔ table = ∅ := by
  simp [values]
  constructor
  · intro empty
    exact AList.ext empty
  · rintro rfl
    rfl

theorem eq_empty_of_lookup
    (nothing : ∀ k, table.lookup k = (∅ : Table κ α).lookup k) : table = ∅ := by
  apply AList.ext
  apply eq_nil_iff_forall_not_mem.mpr
  rintro ⟨k, a⟩ member
  have found := lookup_eq_some_iff.mpr member
  rw [nothing k] at found
  cases found

/-- The table that a loop inserting every element under its key builds. -/
def indexBy (key : α → κ) (list : List α) : Table κ α :=
  list.foldl (fun table a => table.insert (key a) a) ∅

theorem keyed_foldl (key : α → κ) (list : List α) (table : Table κ α) (keyed : Keyed key table) :
    Keyed key (list.foldl (fun table a => table.insert (key a) a) table) := by
  induction list generalizing table with
  | nil => exact keyed
  | cons a rest ih => exact ih _ (keyed_insert key table a keyed)

theorem keyed_indexBy (key : α → κ) (list : List α) : Keyed key (indexBy key list) :=
  keyed_foldl key list ∅ (keyed_empty key)

private theorem lookup_foldl (key : α → κ) (list : List α) (table : Table κ α)
    (distinct : (list.map key).Nodup) (k : κ) (a : α) :
    (list.foldl (fun table a => table.insert (key a) a) table).lookup k = some a ↔
      (a ∈ list ∧ key a = k) ∨ (k ∉ list.map key ∧ table.lookup k = some a) := by
  induction list generalizing table with
  | nil => simp
  | cons b rest ih =>
    simp only [map_cons, nodup_cons] at distinct
    obtain ⟨headFresh, restDistinct⟩ := distinct
    rw [foldl_cons, ih _ restDistinct]
    by_cases same : k = key b
    · subst same
      have notRest : ¬ (a ∈ rest ∧ key a = key b) := by
        simp_all
      simp [headFresh, notRest]
      constructor
      · rintro rfl
        exact ⟨.inl rfl, rfl⟩
      · rintro ⟨rfl | member, keyEq⟩
        · rfl
        · exact absurd ⟨member, keyEq⟩ notRest
    · rw [lookup_insert_ne same]
      have notHead : ∀ c, key c = k → c ≠ b := fun c keyEq cb => same (by rw [← keyEq, cb])
      simp [same]
      constructor
      · rintro (⟨member, keyEq⟩ | found)
        · exact .inl ⟨.inr member, keyEq⟩
        · exact .inr found
      · rintro (⟨rfl | member, keyEq⟩ | found)
        · exact absurd rfl (notHead a keyEq)
        · exact .inl ⟨member, keyEq⟩
        · exact .inr found

/-- With distinct keys nothing is overwritten. -/
theorem lookup_indexBy {list : List α} (distinct : (list.map key).Nodup) (k : κ) (a : α) :
    (indexBy key list).lookup k = some a ↔ a ∈ list ∧ key a = k := by
  rw [indexBy, lookup_foldl key list ∅ distinct]
  simp

/-- Rebuilding a table from any rearrangement of its values gives the same map. -/
theorem lookup_indexBy_of_perm (keyed : Keyed key table)
    {list : List α} (perm : list.Perm (values table)) (k : κ) :
    (indexBy key list).lookup k = table.lookup k := by
  have distinct := (perm.map key).nodup_iff.mpr (keyed_values_nodup keyed)
  apply Option.ext
  grind [lookup_indexBy, keyed_lookup_iff]

def updateEntry (f : κ → α → Option α) (entry : Sigma fun _ : κ => α) :
    Option (Sigma fun _ : κ => α) :=
  (f entry.1 entry.2).map fun a => ⟨entry.1, a⟩

omit [DecidableEq κ] in
theorem keys_updateEntry_sublist (f : κ → α → Option α) (entries : List (Sigma fun _ : κ => α)) :
    (entries.filterMap (updateEntry f)).keys.Sublist entries.keys := by
  induction entries with
  | nil => exact List.Sublist.slnil
  | cons entry rest ih =>
    cases kept : f entry.1 entry.2 with
    | none =>
      simp_all [updateEntry]
    | some a =>
      simp_all [updateEntry]

/-- Replace the value of every entry, or delete the entry. -/
def updateAll (f : κ → α → Option α) (table : Table κ α) : Table κ α :=
  ⟨table.entries.filterMap (updateEntry f),
    List.Nodup.sublist (keys_updateEntry_sublist f table.entries) table.nodupKeys⟩

theorem lookup_updateAll (f : κ → α → Option α) (table : Table κ α) (k : κ) :
    (updateAll f table).lookup k = (table.lookup k).bind (f k) := by
  apply Option.ext
  intro a
  rw [lookup_eq_some_iff, bind_eq_some_iff]
  simp [updateAll, updateEntry]
  constructor
  all_goals grind [lookup_eq_some_iff]

theorem lookup_insert_if (table : Table κ α) (k other : κ) (a : α) :
    (table.insert k a).lookup other = if other = k then some a else table.lookup other := by
  by_cases same : other = k
  · rw [if_pos same, same, lookup_insert]
  · rw [if_neg same, lookup_insert_ne same]

theorem lookup_erase_if (table : Table κ α) (k other : κ) :
    (table.erase k).lookup other = if other = k then none else table.lookup other := by
  by_cases same : other = k
  · rw [if_pos same, same, lookup_erase]
  · rw [if_neg same, lookup_erase_ne same]

section
variable {ε δ β γ : Type} {x : Except ε β}

theorem map_ok {f : β → γ} {c : γ} (mapped : x.map f = .ok c) : ∃ b, x = .ok b ∧ f b = c := by
  cases x with
  | error err => cases mapped
  | ok b => exact ⟨b, rfl, Except.ok.inj mapped⟩

theorem bind_ok {f : β → Except ε γ} {c : γ} (bound : (x >>= f) = .ok c) :
    ∃ b, x = .ok b ∧ f b = .ok c := by
  cases x with
  | error err => cases bound
  | ok b => exact ⟨b, rfl, bound⟩

theorem mapError_ok {f : ε → δ} {b : β} (mapped : x.mapError f = .ok b) : x = .ok b := by
  cases x with
  | error err => cases mapped
  | ok b => exact congrArg Except.ok (Except.ok.inj mapped)

end

/-- A row is new at its key. -/
structure Inserted (before after : Table κ α) (k : κ) (a : α) : Prop where
  fresh : before.lookup k = none
  lookup : ∀ other, after.lookup other = if other = k then some a else before.lookup other

/-- The row at a key, if there is one, is changed. -/
def Amended (before after : Table κ α) (k : κ) (f : α → α) : Prop :=
  ∀ other, after.lookup other = if other = k then (before.lookup other).map f else before.lookup other

variable {k : κ} {f : α → α} {before after : Table κ α}

/-- Changing a row that is not there changes nothing. -/
theorem amended_of_absent (absent : table.lookup k = none) : Amended table table k f := by
  intro other
  split_ifs with here
  · rw [here, absent]
    rfl
  · rfl

variable {a : α}

theorem Inserted.isSome
    (inserted : Inserted before after k a) (other : κ) (present : (before.lookup other).isSome) :
    (after.lookup other).isSome := by
  rw [inserted.lookup]
  split_ifs
  · rfl
  · exact present

theorem Amended.isSome (amended : Amended before after k f) (other : κ) :
    (after.lookup other).isSome = (before.lookup other).isSome := by
  rw [amended]
  split_ifs
  · exact isSome_map
  · rfl

/-- A change that keeps a property of the rows keeps which rows have it. -/
theorem Amended.exists_iff
    (amended : Amended before after k f) (P : α → Prop) (same : ∀ a, P (f a) ↔ P a) (other : κ) :
    (∃ a, after.lookup other = some a ∧ P a) ↔ ∃ a, before.lookup other = some a ∧ P a := by
  rw [amended]
  split_ifs
  · cases before.lookup other with
    | none => simp
    | some a => simp [same]
  · rfl

/-- A change of a row without a property leaves the rows that have it alone. -/
theorem Amended.lookup_iff
    (amended : Amended before after k f) (P : α → Prop) (same : ∀ a, P (f a) ↔ P a)
    (lacks : ∀ a, before.lookup k = some a → ¬ P a) (other : κ) (b : α) (holds : P b) :
    before.lookup other = some b ↔ after.lookup other = some b := by
  rw [amended]
  grind [map_eq_some_iff]

/-- So does a new row without the property. -/
theorem Inserted.lookup_iff
    (inserted : Inserted before after k a) (P : α → Prop) (lacks : ¬ P a) (other : κ) (b : α)
    (holds : P b) : before.lookup other = some b ↔ after.lookup other = some b := by
  rw [inserted.lookup]
  split_ifs with here
  · rw [here, inserted.fresh]
    grind
  · rfl

/-- The statement `UPDATE … WHERE key = k`. -/
def updateRow (k : κ) (f : α → α) (table : Table κ α) : Table κ α :=
  match table.lookup k with
  | some row => table.insert k (f row)
  | none => table

theorem lookup_updateRow (k : κ) (f : α → α) (table : Table κ α) (other : κ) :
    (updateRow k f table).lookup other =
      if other = k then (table.lookup other).map f else table.lookup other := by
  by_cases same : other = k
  · subst same
    cases found : table.lookup other with
    | none | some row => simp [updateRow, found]
  · cases found : table.lookup k with
    | none => simp [updateRow, found, same]
    | some row => simp [updateRow, found, same, lookup_insert_ne same]

/-- No two rows of the table are related. -/
def Unique (R : α → α → Prop) (table : Table κ α) : Prop :=
  ∀ first second x y, table.lookup first = some x → table.lookup second = some y → R x y →
    first = second

section
variable {R : α → α → Prop} (symm : ∀ x y, R x y → R y x) {table : Table κ α} {k : κ}
include symm

theorem unique_insert (unique : Unique R table)
    (fresh : ∀ other x, other ≠ k → table.lookup other = some x → ¬ R x a) :
    Unique R (table.insert k a) := by
  intro first second x y foundFirst foundSecond related
  rw [lookup_insert_if] at foundFirst foundSecond
  split_ifs at foundFirst foundSecond with firstHere secondHere secondHere
  · rw [firstHere, secondHere]
  · cases foundFirst
    exact absurd (symm _ _ related) (fresh second y secondHere foundSecond)
  · cases foundSecond
    exact absurd related (fresh first x firstHere foundFirst)
  · exact unique first second x y foundFirst foundSecond related

theorem unique_updateRow {f : α → α} (keeps : ∀ x y, R (f x) y → R x y)
    (unique : Unique R table) : Unique R (updateRow k f table) := by
  have before : ∀ other x, (updateRow k f table).lookup other = some x →
      ∃ old, table.lookup other = some old ∧ ∀ y, R x y → R old y := by
    intro other x found
    rw [lookup_updateRow] at found
    split_ifs at found
    · obtain ⟨old, foundOld, rfl⟩ := map_eq_some_iff.mp found
      exact ⟨old, foundOld, keeps old⟩
    · exact ⟨x, found, fun _ => id⟩
  intro first second x y foundFirst foundSecond related
  obtain ⟨old, foundOld, relatedOld⟩ := before first x foundFirst
  obtain ⟨other, foundOther, relatedOther⟩ := before second y foundSecond
  exact unique first second old other foundOld foundOther
    (symm _ _ (relatedOther old (symm _ _ (relatedOld y related))))

end

/-- The first row that a condition holds of, with its key. -/
def findRow (p : α → Bool) (table : Table κ α) : Option (κ × α) :=
  (table.entries.find? fun entry => p entry.2).map fun entry => (entry.1, entry.2)

theorem findRow_some {p : α → Bool}
    (found : findRow p table = some (k, a)) : table.lookup k = some a ∧ p a = true := by
  rw [findRow, map_eq_some_iff] at found
  obtain ⟨entry, first, ⟨⟩⟩ := found
  have holds := find?_some first
  exact ⟨lookup_eq_some_iff.mpr (mem_of_find?_eq_some first), holds⟩

variable (p : α → Bool)

theorem findRow_eq_none_iff (table : Table κ α) :
    findRow p table = none ↔ ∀ k a, table.lookup k = some a → p a = false := by
  rw [findRow, map_eq_none_iff, find?_eq_none]
  simp [lookup_eq_some_iff, Sigma.forall]

/-- A condition that holds of one row only finds that row. -/
theorem findRow_of_unique {p : α → Bool} (found : table.lookup k = some a) (holds : p a = true)
    (unique : ∀ other b, table.lookup other = some b → p b = true → other = k) :
    findRow p table = some (k, a) := by
  cases searched : findRow p table with
  | none =>
    rw [findRow, map_eq_none_iff, find?_eq_none] at searched
    exact absurd holds (searched _ (lookup_eq_some_iff.mp found))
  | some row =>
    obtain ⟨other, b⟩ := row
    obtain ⟨foundOther, holdsOther⟩ := findRow_some searched
    grind

/-- `SELECT count(*) … WHERE …` -/
def rowCount (p : α → Bool) (table : Table κ α) : Nat := table.entries.countP fun entry => p entry.2

theorem countP_kerase (k : κ) {entries : List (Sigma fun _ : κ => α)}
    (distinct : entries.NodupKeys) :
    entries.countP (fun entry => p entry.2) =
      (entries.kerase k).countP (fun entry => p entry.2) +
        if (entries.dlookup k).any p then 1 else 0 := by
  induction entries with
  | nil => rfl
  | cons entry rest ih =>
    obtain ⟨key, a⟩ := entry
    rw [nodupKeys_cons] at distinct
    by_cases here : k = key
    · subst here
      simp [countP_cons]
    · rw [kerase_cons_ne here, dlookup_cons_ne _ _ here, countP_cons, countP_cons, ih distinct.2]
      omega

theorem rowCount_insert (table : Table κ α) (k : κ) (a : α) :
    rowCount p (table.insert k a) + (if (table.lookup k).any p then 1 else 0) =
      rowCount p table + if p a then 1 else 0 := by
  have counted := countP_kerase p k table.nodupKeys
  simp [rowCount, countP_cons]
  change _ + (if (table.entries.dlookup k).any p then 1 else 0) = _
  omega

theorem rowCount_eq_zero_iff (table : Table κ α) :
    rowCount p table = 0 ↔ ∀ k a, table.lookup k = some a → p a = false := by
  rw [rowCount, countP_eq_zero]
  simp [lookup_eq_some_iff, Sigma.forall]

theorem rowCount_insert_new (a : α) (fresh : table.lookup k = none) :
    rowCount p (table.insert k a) = rowCount p table + if p a then 1 else 0 := by
  have counted := rowCount_insert p table k a
  rw [fresh] at counted
  simpa using counted

/-- A change that keeps the condition keeps the count. -/
theorem rowCount_updateRow {p : α → Bool} (k : κ) (table : Table κ α)
    (same : ∀ a, p (f a) = p a) : rowCount p (updateRow k f table) = rowCount p table := by
  unfold updateRow
  cases found : table.lookup k with
  | none => rfl
  | some row =>
    have counted := rowCount_insert p table k (f row)
    rw [found, same, any_some] at counted
    dsimp only
    omega

theorem mem_modify {list : List α} {i : Nat} {b : α} (member : b ∈ list.modify i f) :
    b ∈ list ∨ ∃ a, list[i]? = some a ∧ b = f a := by
  obtain ⟨j, bound, entryEq⟩ := mem_iff_getElem.mp member
  grind

/-- An order in which a loop visits the values of a map. -/
structure MapOrder (α : Type) where
  visit : List α → List α
  perm : ∀ list, (visit list).Perm list

def MapOrder.asStored : MapOrder α := ⟨fun list => list, fun _ => List.Perm.refl _⟩

/-- The values that a condition holds of come first. -/
def MapOrder.front (p : α → Bool) : MapOrder α where
  visit := fun list => list.filter p ++ list.filter fun a => !p a
  perm := fun list => filter_append_perm p list

def sortBy (order : MapOrder α) (rank : α → Int) (list : List α) : List α :=
  (order.visit list).insertionSort fun a b => rank a ≤ rank b

variable (order : MapOrder α) (rank : α → Int)

theorem sortBy_perm (list : List α) : (sortBy order rank list).Perm list :=
  (perm_insertionSort _ _).trans (order.perm _)

theorem sortBy_sorted (list : List α) :
    (sortBy order rank list).Pairwise fun a b => rank a ≤ rank b := by
  have : Std.Total (fun a b : α => rank a ≤ rank b) := ⟨fun a b => le_total _ _⟩
  have : IsTrans α (fun a b : α => rank a ≤ rank b) := ⟨fun _ _ _ => le_trans⟩
  exact pairwise_insertionSort _ _

def sortedValues (order : MapOrder α) (rank : α → Int) (table : Table κ α) : List α :=
  sortBy order rank (values table)

omit [DecidableEq κ] in
theorem sortedValues_perm (table : Table κ α) :
    (sortedValues order rank table).Perm (values table) :=
  sortBy_perm order rank (values table)

omit [DecidableEq κ] in
theorem sortedValues_sorted (table : Table κ α) :
    (sortedValues order rank table).Pairwise fun a b => rank a ≤ rank b :=
  sortBy_sorted order rank (values table)

end Tables

namespace Window

variable {α : Type}

/-- Append to a history bounded by `cap`, dropping the oldest element when it is
full. -/
def push (cap : Nat) (history : List α) (a : α) : List α :=
  (if cap ≤ history.length then history.tail else history) ++ [a]

/-- A bounded history holds exactly the last `cap` elements of the full one. -/
theorem push_rtake {cap : Nat} (positive : 0 < cap) (log : List α) (a : α) :
    push cap (log.rtake cap) a = (log ++ [a]).rtake cap := by
  obtain ⟨n, rfl⟩ : ∃ n, cap = n + 1 := ⟨cap - 1, by omega⟩
  rw [rtake_concat_succ, push]
  congr 1
  by_cases full : n + 1 ≤ log.length
  · have takenLength : n + 1 ≤ (log.rtake (n + 1)).length := by
      simp [List.rtake]
      omega
    grind [List.rtake, tail_drop]
  · grind [List.rtake, length_drop]

theorem mem_push {cap : Nat} {history : List α} {a b : α} (member : b ∈ push cap history a) :
    b ∈ history ∨ b = a := by
  rw [push, mem_append, mem_singleton] at member
  grind [mem_of_mem_tail]

end Window
