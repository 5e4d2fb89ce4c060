import ManagementPlane.Lib.Strings
import ManagementPlane.Lib.Tables

/-!
# Results of the TLS scanner

`ScanAll` of `internal/scanner/tls_scanner.go`. The results come in the order in which the scans
complete, and each is stored under its host: of two targets on one host the later one stays.
-/

namespace ManagementPlane.Scanner

open List hiding lookup_eq_some_iff
open GoStrings Tables

inductive ComplianceLevel where
  | compliant
  | nonCompliant
  | critical
  | unknown
  deriving DecidableEq

/-- `Report` stands for the fields that nothing here reads. -/
structure ScanResult (Report : Type) where
  host : String
  port : Int
  compliance : ComplianceLevel
  sourceTrustList : String
  report : Report

structure TrustedSource where
  id : String
  urls : List String

/-- `net.SplitHostPort`, and `fmt.Sscanf` with `%d`. -/
structure Env where
  splitHostPort : String → Option (String × String)
  sscanf : String → Option Int

def parseHostPort (env : Env) (rawURL : String) : String × Int :=
  let host := ["https://", "http://", "wss://", "ws://"].foldl trimPrefix rawURL
  let host := beforeAny host ['/']
  match env.splitHostPort host with
  | none => (host, 443)
  | some (h, p) => (h, if p = "" then 443 else (env.sscanf p).getD 443)

section
variable {Report : Type}

/-- The targets, each with what its scan finds. -/
def scans (env : Env) (sources : List TrustedSource) (found : Nat → ComplianceLevel × Report) :
    List (ScanResult Report) :=
  (sources.flatMap fun src => src.urls.map fun url => (url, src.id)).mapIdx fun i target =>
    { host := (parseHostPort env target.1).1
      port := (parseHostPort env target.1).2
      compliance := (found i).1
      sourceTrustList := target.2
      report := (found i).2 }

def storeResults (stored : Table String (ScanResult Report)) (results : List (ScanResult Report)) :
    Table String (ScanResult Report) :=
  results.foldl (fun stored r => stored.insert r.host r) stored

def ScanResult.flagged (r : ScanResult Report) : Bool :=
  r.compliance = .nonCompliant || r.compliance = .critical

def nonCompliantResults (stored : Table String (ScanResult Report)) : List (ScanResult Report) :=
  (values stored).filter ScanResult.flagged

/-- In every order of completion each flagged target is listed, and what is stored does not depend
on the order. -/
def NoneLost (stored : Table String (ScanResult Report)) (results : List (ScanResult Report)) :
    Prop :=
  (∀ completed, completed.Perm results → ∀ r ∈ results, r.flagged = true →
    ∃ listed ∈ nonCompliantResults (storeResults stored completed),
      listed.host = r.host ∧ listed.port = r.port) ∧
  ∀ first second, first.Perm results → second.Perm results → ∀ host,
    (storeResults stored first).lookup host = (storeResults stored second).lookup host

variable {stored : Table String (ScanResult Report)} {results : List (ScanResult Report)}

theorem lookup_storeResults_concat (r : ScanResult Report) (host : String) :
    (storeResults stored (results ++ [r])).lookup host =
      if host = r.host then some r else (storeResults stored results).lookup host := by
  rw [storeResults, foldl_append, foldl_cons, foldl_nil, lookup_insert_if]
  rfl

/-- Where the results of a host agree, it is stored with them. -/
theorem lookup_storeResults {r : ScanResult Report} (member : r ∈ results)
    (agree : ∀ other ∈ results, other.host = r.host → other = r) :
    (storeResults stored results).lookup r.host = some r := by
  induction results using reverseRecOn with
  | nil => cases member
  | append_singleton results last ih =>
    rw [lookup_storeResults_concat]
    split_ifs with here
    · rw [agree last (by simp) here.symm]
    · refine ih ?_ fun other early => agree other (mem_append_left _ early)
      rcases mem_append.mp member with early | isLast
      · exact early
      · rw [mem_singleton.mp isLast] at here
        exact absurd rfl here

theorem lookup_storeResults_other {host : String} (other : ∀ r ∈ results, r.host ≠ host) :
    (storeResults stored results).lookup host = stored.lookup host := by
  induction results using reverseRecOn with
  | nil => rfl
  | append_singleton results last ih =>
    rw [lookup_storeResults_concat, if_neg (other last (by simp)).symm]
    exact ih fun r early => other r (mem_append_left _ early)

/-- Any scan can be the last to complete. -/
theorem last_completes (stored : Table String (ScanResult Report)) {r : ScanResult Report}
    (member : r ∈ results) :
    ∃ completed, completed.Perm results ∧
      (storeResults stored completed).lookup r.host = some r := by
  obtain ⟨before, after, rfl⟩ := mem_iff_append.mp member
  refine ⟨before ++ after ++ [r], ?_, ?_⟩
  · rw [append_assoc]
    exact List.Perm.append_left before perm_append_comm
  · rw [lookup_storeResults_concat, if_pos rfl]

end

/-- No result is lost exactly if all results for one host are the same. -/
theorem none_lost_iff {Report : Type} (env : Env) (sources : List TrustedSource)
    (found : Nat → ComplianceLevel × Report) (stored : Table String (ScanResult Report)) :
    NoneLost stored (scans env sources found) ↔
      ∀ r ∈ scans env sources found, ∀ other ∈ scans env sources found,
        other.host = r.host → other = r := by
  constructor
  · intro kept r member other otherMember same
    obtain ⟨first, isFirst, last⟩ := last_completes stored member
    obtain ⟨second, isSecond, otherLast⟩ := last_completes stored otherMember
    have agree := kept.2 first second isFirst isSecond r.host
    rw [last, ← same, otherLast, Option.some.injEq] at agree
    exact agree.symm
  · intro agree
    have stays : ∀ completed, completed.Perm (scans env sources found) →
        ∀ r ∈ scans env sources found,
          (storeResults stored completed).lookup r.host = some r := by
      intro completed perm r member
      refine lookup_storeResults (perm.mem_iff.mpr member) fun other inside => ?_
      exact agree r member other (perm.mem_iff.mp inside)
    refine ⟨?_, ?_⟩
    · intro completed perm r member flagged
      refine ⟨r, mem_filter.mpr ⟨?_, flagged⟩, rfl, rfl⟩
      exact (mem_values_iff ..).mpr ⟨_, lookup_eq_some_iff.mp (stays completed perm r member)⟩
    · intro first second isFirst isSecond host
      by_cases scanned : ∃ r ∈ scans env sources found, r.host = host
      · obtain ⟨r, member, rfl⟩ := scanned
        rw [stays first isFirst r member, stays second isSecond r member]
      · have none : ∀ r ∈ scans env sources found, r.host ≠ host :=
          fun r member same => scanned ⟨r, member, same⟩
        rw [lookup_storeResults_other fun r inside => none r (isFirst.mem_iff.mp inside),
          lookup_storeResults_other fun r inside => none r (isSecond.mem_iff.mp inside)]

def demoEnv : Env where
  splitHostPort host := if host = "a.example:8443" then some ("a.example", "8443") else none
  sscanf _ := some 8443

/-- Two ports of one host, the first of them critical and scanned first. -/
def twoPorts : List (ScanResult Unit) :=
  scans demoEnv [⟨"corp", ["https://a.example:8443/", "a.example"]⟩]
    fun i => (if i = 0 then .critical else .compliant, ())

theorem critical_port_lost :
    twoPorts.map (fun r => (r.host, r.port, r.flagged)) =
        [("a.example", 8443, true), ("a.example", 443, false)] ∧
      nonCompliantResults (storeResults ∅ twoPorts) = [] := by
  decide

end ManagementPlane.Scanner
