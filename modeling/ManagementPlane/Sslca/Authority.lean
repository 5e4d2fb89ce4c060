import ManagementPlane.Lib.Runs
import ManagementPlane.Lib.Tables

/-!
# The inspection authority

`IssueLeaf` of `internal/sslca/authority.go` with its cache. A leaf is valid for a day, and the
cache keeps it for as long as the authority lives: a host is served its first leaf for ever.
-/

namespace ManagementPlane.Sslca

open Runs Tables List Option

/-- The clock counts nanoseconds. -/
def second : Int := 10 ^ 9

/-- The times of a certificate have no fraction of a second. -/
def encoded (t : Int) : Int := t / second * second

structure Leaf where
  commonName : String
  dnsNames : List String
  notBefore : Int
  notAfter : Int

/-- The template of a leaf as it is signed. -/
def template (hostname : String) (now : Int) : Leaf where
  commonName := hostname
  dnsNames := [hostname]
  notBefore := encoded (now - 5 * 60 * second)
  notAfter := encoded (now + 24 * 60 * 60 * second)

structure Authority where
  leafCache : Table String Leaf := ∅

/-- A call for a host at a time of the clock. The key or the signature may fail, with the text
`generate leaf key: …` or `sign leaf: …`. -/
structure Call where
  hostname : String
  now : Int
  failure : Option String := none

def issueLeaf (a : Authority) (call : Call) : Except String Leaf × Authority :=
  match a.leafCache.lookup call.hostname with
  | some cached => (.ok cached, a)
  | none =>
    match call.failure with
    | some err => (.error err, a)
    | none =>
      let leaf := template call.hostname call.now
      (.ok leaf, { a with leafCache := a.leafCache.insert call.hostname leaf })

def serve (a : Authority) (call : Call) : Authority := (issueLeaf a call).2

/-- A leaf for the host of the call that is valid when the call is made. -/
def Current (call : Call) (leaf : Leaf) : Prop :=
  leaf.commonName = call.hostname ∧ leaf.dnsNames = [call.hostname] ∧
    leaf.notBefore ≤ call.now ∧ call.now ≤ leaf.notAfter

/-- The call whose leaf the cache holds after some calls: the first that could sign. -/
def signer (calls : List Call) (host : String) : Option Call :=
  calls.find? fun c => c.hostname = host && c.failure.isNone

theorem lookup_run (calls : List Call) (host : String) :
    (run serve {} calls).leafCache.lookup host =
      (signer calls host).map fun c => template host c.now := by
  induction calls using reverseRecOn with
  | nil => simp [run, signer]
  | append_singleton calls last ih =>
    rw [run_concat]
    generalize run serve {} calls = a at ih
    simp [signer] at ih ⊢
    by_cases isHost : last.hostname = host
    · subst isHost
      cases earlier : calls.find? fun c => c.hostname = last.hostname && c.failure.isNone <;>
        rw [earlier] at ih <;> cases failed : last.failure <;>
        simp [serve, issueLeaf, ih, failed]
    · have other : (serve a last).leafCache.lookup host = a.leafCache.lookup host := by
        unfold serve issueLeaf
        split <;> [rfl; split] <;> simp [Ne.symm isHost]
      simp [other, ih, isHost]

section
variable {calls : List Call} {last : Call}

theorem signer_least {host : String} {c d : Call} (clock : calls.Pairwise fun c d => c.now ≤ d.now)
    (first : signer calls host = some c) (member : d ∈ calls) (isHost : d.hostname = host)
    (signed : d.failure = none) : c.now ≤ d.now := by
  obtain ⟨-, before, after, rfl, skipped⟩ := find?_eq_some_iff_append.mp first
  rcases mem_append.mp member with early | late
  · have notSigned := skipped d early
    simp [isHost, signed] at notSigned
  · rcases mem_cons.mp late with rfl | behind
    · exact le_rfl
    · exact (pairwise_cons.mp (pairwise_append.mp clock).2.1).1 d behind

/-- A call is answered with a current leaf unless an earlier leaf for its host has run out. -/
theorem current_iff (clock : (calls ++ [last]).Pairwise fun c d => c.now ≤ d.now) :
    (∀ leaf, (issueLeaf (run serve {} calls) last).1 = .ok leaf → Current last leaf) ↔
      ∀ c ∈ calls, c.hostname = last.hostname → c.failure = none →
        last.now ≤ (template c.hostname c.now).notAfter := by
  obtain ⟨early, -, late⟩ := pairwise_append.mp clock
  have held := lookup_run calls last.hostname
  cases first : signer calls last.hostname with
  | some c =>
    have found := find?_some first
    simp at found
    have before := late c (mem_of_find?_eq_some first) last (by simp)
    simp [issueLeaf, held, first, Current]
    simp only [template, encoded, second]
    constructor
    · rintro ⟨-, -, -, fresh⟩ d member isHost signed
      have least := signer_least early first member isHost signed
      omega
    · intro fresh
      have valid := fresh c (mem_of_find?_eq_some first) found.1 found.2
      exact ⟨trivial, trivial, by omega, valid⟩
  | none =>
    have nobody := find?_eq_none.mp first
    refine iff_of_true ?_ fun c member isHost signed => absurd (nobody c member) (by simp [*])
    intro leaf answer
    cases failed : last.failure with
    | some err => simp [issueLeaf, held, first, failed] at answer
    | none =>
      simp [issueLeaf, held, first, failed] at answer
      subst answer
      refine ⟨rfl, rfl, ?_, ?_⟩ <;> simp [template, encoded, second] <;> omega

end

/-- Every leaf that is handed out is current exactly if no call comes after the expiry of a leaf
that an earlier call could sign for the same host. -/
theorem leaves_current_iff (calls : List Call) (clock : calls.Pairwise fun c d => c.now ≤ d.now) :
    (∀ visit ∈ visits serve {} calls, ∀ leaf,
        (issueLeaf visit.1 visit.2).1 = .ok leaf → Current visit.2 leaf) ↔
      calls.Pairwise fun c d => c.hostname = d.hostname → c.failure = none →
        d.now ≤ (template c.hostname c.now).notAfter := by
  induction calls using reverseRecOn with
  | nil => simp [visits]
  | append_singleton calls last ih =>
    simp only [visits_concat, mem_append, mem_singleton, or_imp, forall_and, forall_eq,
      pairwise_append, pairwise_singleton, true_and]
    exact and_congr (ih (pairwise_append.mp clock).1) (current_iff clock)

theorem leaves_current_demo :
    Current ⟨"a.example", 86400 * second, none⟩ (template "a.example" 0) :=
  (leaves_current_iff [⟨"a.example", 0, none⟩, ⟨"a.example", 86400 * second, none⟩]
    (by decide)).mpr (by decide) (serve {} ⟨"a.example", 0, none⟩, _) (by simp [visits]) _ rfl

/-- A host that is asked for again on the next day gets the leaf of the day before. -/
theorem stale_leaf :
    (issueLeaf (serve {} ⟨"a.example", 0, none⟩) ⟨"a.example", 25 * 60 * 60 * second, none⟩).1 =
        .ok (template "a.example" 0) ∧
      ¬ Current ⟨"a.example", 25 * 60 * 60 * second, none⟩ (template "a.example" 0) := by
  refine ⟨rfl, ?_⟩
  rw [Current]
  decide

end ManagementPlane.Sslca
