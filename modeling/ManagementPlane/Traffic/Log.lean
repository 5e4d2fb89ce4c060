import ManagementPlane.Lib.Runs

/-!
# The traffic log

`internal/trafficlog/store.go`: the log drops its oldest tenth when it is full, and
`Query` scans it backwards. An entry is its timestamp and the fields a filter
reads; a `time.Time` is its distance from the zero time.
-/

namespace ManagementPlane.Traffic

open Runs List

structure Entry where
  timestamp : Int
  gatewayID : String
  orgID : String
  userID : String
  destHost : String
  action : String

structure Filter where
  orgID : String
  userID : String
  gatewayID : String
  destHost : String
  action : String
  since : Int
  untilTime : Int
  limit : Int

structure Store where
  entries : List Entry
  maxEntries : Nat

def defaultMaxEntries : Nat := 100000

def newStore : Store := ⟨[], defaultMaxEntries⟩

/-- The entry that `Ingest` stores when the clock reads `call.2`. -/
def stamped (call : Entry × Int) : Entry :=
  if call.1.timestamp = 0 then { call.1 with timestamp := call.2 } else call.1

def ingest (s : Store) (call : Entry × Int) : Store :=
  let kept :=
    if s.maxEntries ≤ s.entries.length then s.entries.drop (s.maxEntries / 10) else s.entries
  { s with entries := kept ++ [stamped call] }

def matchesFilter (e : Entry) (f : Filter) : Bool :=
  if f.orgID ≠ "" ∧ e.orgID ≠ f.orgID then false
  else if f.userID ≠ "" ∧ e.userID ≠ f.userID then false
  else if f.gatewayID ≠ "" ∧ e.gatewayID ≠ f.gatewayID then false
  else if f.destHost ≠ "" ∧ e.destHost ≠ f.destHost then false
  else if f.action ≠ "" ∧ e.action ≠ f.action then false
  else if f.since ≠ 0 ∧ e.timestamp < f.since then false
  else if f.untilTime ≠ 0 ∧ f.untilTime < e.timestamp then false
  else true

/-- The loop of `Query` over the entries still to be visited, newest first. -/
def scan (f : Filter) (results : List Entry) : List Entry → List Entry
  | [] => results
  | e :: older =>
    if matchesFilter e f = false then scan f results older
    else if 0 < f.limit ∧ f.limit ≤ (results ++ [e]).length then results ++ [e]
    else scan f (results ++ [e]) older

def query (s : Store) (f : Filter) : List Entry := scan f [] s.entries.reverse

/-- What a filter asks for: all matches, or the first `limit` of them. -/
def cut (f : Filter) (found : List Entry) : List Entry :=
  if 0 < f.limit then found.take f.limit.toNat else found

/-- The scan stops as soon as the limit is reached, so it starts each round below it. -/
theorem scan_eq (f : Filter) (rest : List Entry) : ∀ results : List Entry,
    (0 < f.limit → results.length < f.limit) →
    scan f results rest = cut f (results ++ rest.filter (matchesFilter · f)) := by
  induction rest with
  | nil =>
    intro results room
    by_cases limited : 0 < f.limit
    · have short : results.length ≤ f.limit.toNat := by
        have below := room limited
        omega
      simp [scan, cut, limited, take_of_length_le short]
    · simp [scan, cut, limited]
  | cons e older ih =>
    intro results room
    by_cases hit : matchesFilter e f = false
    · simp [scan, hit, ih results room]
    · have matching : results ++ (e :: older).filter (matchesFilter · f) =
          results ++ [e] ++ older.filter (matchesFilter · f) := by
        simp [hit]
      by_cases full : 0 < f.limit ∧ f.limit ≤ (results ++ [e]).length
      · have exactly : f.limit.toNat = (results ++ [e]).length := by
          have below := room full.1
          have reached := full.2
          simp at reached ⊢
          omega
        rw [scan, if_neg hit, if_pos full, cut, if_pos full.1, matching, exactly, take_left]
      · rw [scan, if_neg hit, if_neg full, ih _ (by omega), matching]

/-- The store holds the newest of the entries ingested so far. -/
structure Retains (ingested : List Entry) (s : Store) : Prop where
  bound : s.maxEntries = defaultMaxEntries
  kept : s.entries <:+ ingested
  newest : s.entries.getLast? = ingested.getLast?
  most : s.entries.length ≤ 100000
  least : min 90000 ingested.length ≤ s.entries.length

theorem retains_ingest {ingested : List Entry} {s : Store} (call : Entry × Int)
    (retains : Retains ingested s) : Retains (ingested ++ [stamped call]) (ingest s call) := by
  obtain ⟨bound, kept, _, most, least⟩ := retains
  have grown : ∃ entries, (ingest s call).entries = entries ++ [stamped call] ∧
      entries <:+ s.entries ∧ entries.length + 1 ≤ 100000 ∧
      min 90000 (ingested.length + 1) ≤ entries.length + 1 := by
    by_cases full : 100000 ≤ s.entries.length
    · refine ⟨s.entries.drop 10000, ?_, drop_suffix .., ?_, ?_⟩
      · simp [ingest, bound, defaultMaxEntries, full]
      all_goals
        rw [length_drop]
        omega
    · have same : (ingest s call).entries = s.entries ++ [stamped call] := by
        simp [ingest, bound, defaultMaxEntries, full]
      exact ⟨s.entries, same, suffix_rfl, by omega, by omega⟩
  obtain ⟨entries, grownEq, older, fewer, enough⟩ := grown
  obtain ⟨early, split⟩ := older.trans kept
  refine ⟨bound, ⟨early, ?_⟩, ?_, ?_, ?_⟩ <;> rw [grownEq]
  · rw [← append_assoc, split]
  · simp
  all_goals simpa only [length_append, length_singleton]

abbrev storeAfter (calls : List (Entry × Int)) : Store := run ingest newStore calls

theorem retains_storeAfter (calls : List (Entry × Int)) :
    Retains (calls.map stamped) (storeAfter calls) := by
  induction calls using reverseRecOn with
  | nil => exact ⟨rfl, suffix_rfl, rfl, by decide, by decide⟩
  | append_singleton calls call ih =>
    rw [storeAfter, run_concat, map_append]
    exact retains_ingest call ih

end ManagementPlane.Traffic
