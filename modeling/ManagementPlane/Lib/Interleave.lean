import ManagementPlane.Lib.Runs

/-!
# Interleaved programs

A request handler is a program over the operations of a shared store: it is done,
or it calls one operation and goes on with the answer. A pool runs any number of
requests at once, one operation of one of them at a time, and records every
operation with its answer.

`Keeps` says what a program does on every path: which operations it calls after
which past, and which results it returns. It is proved once for each handler,
against all answers. `pool_invariant` then proves an invariant over every
interleaving, and an induction step of it may use what the calling request has done
before.
-/

namespace Interleave

open Runs List Option

inductive Prog (Op : Type) (Ans : Op → Type) (α : Type) where
  | done (a : α)
  | call (op : Op) (next : Ans op → Prog Op Ans α)

structure Event (Op : Type) (Ans : Op → Type) where
  op : Op
  ans : Ans op

section
variable {Op : Type} {Ans : Op → Type} {α β : Type}

def Prog.bind : Prog Op Ans α → (α → Prog Op Ans β) → Prog Op Ans β
  | .done a, f => f a
  | .call op next, f => .call op fun ans => (next ans).bind f

instance : Monad (Prog Op Ans) where
  pure := .done
  bind := Prog.bind

theorem Prog.bind_done (p : Prog Op Ans α) : p.bind .done = p := by
  induction p with
  | done a => rfl
  | call op next ih => exact congrArg (Prog.call op) (funext ih)

theorem Prog.bind_bind {γ : Type} (p : Prog Op Ans α) (f : α → Prog Op Ans β)
    (g : β → Prog Op Ans γ) : (p.bind f).bind g = p.bind fun a => (f a).bind g := by
  induction p with
  | done a => rfl
  | call op next ih => exact congrArg (Prog.call op) (funext ih)

instance : LawfulMonad (Prog Op Ans) :=
  LawfulMonad.mk' _ Prog.bind_done (fun _ _ => rfl) Prog.bind_bind

def perform (op : Op) : Prog Op Ans (Ans op) := .call op .done

variable {condition : Prop} {p : Prog Op Ans α}

@[simp]
theorem ite_bind [Decidable condition] {q : Prog Op Ans α} {f : α → Prog Op Ans β} :
    (if condition then p else q) >>= f = if condition then p >>= f else q >>= f := by
  split <;> rfl

theorem forall_except {ε : Type} {p : Except ε α → Prop} :
    (∀ result, p result) ↔ (∀ err, p (.error err)) ∧ ∀ a, p (.ok a) := by
  refine ⟨fun all => ⟨fun err => all _, fun a => all _⟩, ?_⟩
  rintro ⟨failed, succeeded⟩ (err | a)
  · exact failed err
  · exact succeeded a

/-- An operation answered by a function of the operation is another one with its answer. -/
theorem event_eq_iff (answers : (op : Op) → Ans op) (op other : Op) (ans : Ans other) :
    (⟨op, answers op⟩ : Event Op Ans) = ⟨other, ans⟩ ↔ op = other ∧ answers other = ans := by
  constructor
  · grind
  · rintro ⟨rfl, rfl⟩
    rfl

/-- On every path from here, an operation is called only under its guard and a result
is returned only under the postcondition. -/
def Keeps (Guard : List (Event Op Ans) → Op → Prop) (Post : List (Event Op Ans) → α → Prop) :
    Prog Op Ans α → List (Event Op Ans) → Prop
  | .done a, past => Post past a
  | .call op next, past =>
    Guard past op ∧ ∀ ans, Keeps Guard Post (next ans) (past ++ [⟨op, ans⟩])

variable {Guard : List (Event Op Ans) → Op → Prop}

variable {Post : List (Event Op Ans) → α → Prop} {past : List (Event Op Ans)}

@[simp]
theorem keeps_pure {a : α} : Keeps Guard Post (pure a) past ↔ Post past a := Iff.rfl

@[simp]
theorem keeps_perform {op : Op} {Post : List (Event Op Ans) → Ans op → Prop} :
    Keeps Guard Post (perform op) past ↔
      Guard past op ∧ ∀ ans, Post (past ++ [⟨op, ans⟩]) ans := Iff.rfl

@[simp]
theorem keeps_ite [Decidable condition] {yes no : Prog Op Ans α} :
    Keeps Guard Post (if condition then yes else no) past ↔
      (condition → Keeps Guard Post yes past) ∧ (¬ condition → Keeps Guard Post no past) := by
  by_cases holds : condition
  all_goals simp [holds]

@[simp]
theorem keeps_call {op : Op} {next : Ans op → Prog Op Ans α}
    {Post : List (Event Op Ans) → α → Prop} {past : List (Event Op Ans)} :
    Keeps Guard Post (perform op >>= next) past ↔
      Guard past op ∧ ∀ ans, Keeps Guard Post (next ans) (past ++ [⟨op, ans⟩]) := Iff.rfl

/-- For every answer, where the answer is ignored: `simp` does not take it apart. -/
def Whatever {β : Type} (p : β → Prop) : Prop := ∀ b, p b

@[simp]
theorem whatever_true {β : Type} : Whatever fun _ : β => True := fun _ => trivial

@[simp high]
theorem keeps_ignore {op : Op} (rest : Prog Op Ans α) (Post : List (Event Op Ans) → α → Prop)
    (past : List (Event Op Ans)) : Keeps Guard Post (perform op >>= fun _ => rest) past ↔
      Guard past op ∧ Whatever fun ans => Keeps Guard Post rest (past ++ [⟨op, ans⟩]) := Iff.rfl

/-- A check that returns early. -/
theorem keeps_check {refused : Prop} [Decidable refused] {reply : α} {rest : Prog Op Ans α}
    (early : Post past reply) (goesOn : ¬ refused → Keeps Guard Post rest past) :
    Keeps Guard Post (if refused then pure reply else rest) past :=
  keeps_ite.mpr ⟨fun _ => early, goesOn⟩

theorem keeps_branch [Decidable condition] {yes no : Prog Op Ans α}
    (holds : condition → Keeps Guard Post yes past)
    (fails : ¬ condition → Keeps Guard Post no past) :
    Keeps Guard Post (if condition then yes else no) past :=
  keeps_ite.mpr ⟨holds, fails⟩

/-- What holds of every operation and every result needs no look at the program. -/
theorem keeps_always (guards : ∀ past op, Guard past op)
    (posts : ∀ past a, Post past a) (p : Prog Op Ans α) (past : List (Event Op Ans)) :
    Keeps Guard Post p past := by
  induction p generalizing past with
  | done a => exact posts past a
  | call op rest ih => exact ⟨guards past op, fun ans => ih ans _⟩

theorem keeps_mono {Weaker : List (Event Op Ans) → Op → Prop}
    {After : List (Event Op Ans) → α → Prop} (guards : ∀ past op, Guard past op → Weaker past op)
    (posts : ∀ past a, Post past a → After past a) (p : Prog Op Ans α) (past : List (Event Op Ans))
    (keeps : Keeps Guard Post p past) : Keeps Weaker After p past := by
  induction p generalizing past with
  | done a => exact posts past a keeps
  | call op rest ih => exact ⟨guards past op keeps.1, fun ans => ih ans _ (keeps.2 ans)⟩

/-- What is past from the beginning stays at the front. -/
theorem keeps_from (keeps : Keeps Guard Post p past) :
    Keeps (fun now op => past <+: now ∧ Guard now op) (fun now a => past <+: now ∧ Post now a) p
      past := by
  suffices longer : ∀ now, past <+: now → Keeps Guard Post p now →
      Keeps (fun now op => past <+: now ∧ Guard now op) (fun now a => past <+: now ∧ Post now a) p
        now from longer past prefix_rfl keeps
  clear keeps
  intro now starts kept
  induction p generalizing now with
  | done a => exact ⟨starts, kept⟩
  | call op rest ih =>
    refine ⟨⟨starts, kept.1⟩, fun ans => ?_⟩
    exact ih ans _ (starts.trans (prefix_append now _)) (kept.2 ans)

/-- A part of a program is replaced by what it guarantees, and what was past stays so. -/
theorem keeps_then {First : List (Event Op Ans) → α → Prop} {Post : List (Event Op Ans) → β → Prop}
    {f : α → Prog Op Ans β} (first : Keeps Guard First p past)
    (next : ∀ now a, past ⊆ now → First now a → Keeps Guard Post (f a) now) :
    Keeps Guard Post (p >>= f) past := by
  induction p generalizing past with
  | done a => exact next past a (List.Subset.refl past) first
  | call op rest ih =>
    refine ⟨first.1, fun ans => ih ans (first.2 ans) ?_⟩
    grind

end

section
variable {Op Wider : Type} {Ans : Op → Type} {WiderAns : Wider → Type} {α : Type}

/-- The same program where its operations are a part of more. -/
def Prog.lift (embed : Op → Wider) (answer : (op : Op) → WiderAns (embed op) → Ans op) :
    Prog Op Ans α → Prog Wider WiderAns α
  | .done a => .done a
  | .call op next => .call (embed op) fun ans => (next (answer op ans)).lift embed answer

variable {embed : Op → Wider} {answer : (op : Op) → WiderAns (embed op) → Ans op}

/-- What a program keeps on its own it keeps among more operations, its past being the same
operations under their wider names. -/
theorem keeps_lift {Guard : List (Event Op Ans) → Op → Prop} {Post : List (Event Op Ans) → α → Prop}
    {WiderGuard : List (Event Wider WiderAns) → Wider → Prop}
    {WiderPost : List (Event Wider WiderAns) → α → Prop}
    (widen : Event Op Ans → Event Wider WiderAns)
    (widens : ∀ op ans, widen ⟨op, answer op ans⟩ = ⟨embed op, ans⟩)
    (guards : ∀ past op, Guard past op → WiderGuard (past.map widen) (embed op))
    (posts : ∀ past a, Post past a → WiderPost (past.map widen) a) (p : Prog Op Ans α)
    (past : List (Event Op Ans)) (keeps : Keeps Guard Post p past) :
    Keeps WiderGuard WiderPost (p.lift embed answer) (past.map widen) := by
  induction p generalizing past with
  | done a => exact posts past a keeps
  | call op next ih =>
    refine ⟨guards past op keeps.1, fun ans => ?_⟩
    have later := ih (answer op ans) _ (keeps.2 (answer op ans))
    grind

end

/-! ## Pools of requests -/

structure Thread (Req Op : Type) (Ans : Op → Type) (α : Type) where
  request : Req
  rest : Prog Op Ans α

structure Pool (World Req Op : Type) (Ans : Op → Type) (α : Type) where
  world : World
  threads : List (Thread Req Op Ans α)
  trace : List (Nat × Event Op Ans)

inductive Input (Req Choice : Type) where
  | spawn (request : Req)
  | step (i : Nat) (choice : Choice)

variable {World Req Choice Op : Type} {Ans : Op → Type} {α : Type}

def initial (world : World) : Pool World Req Op Ans α := ⟨world, [], []⟩

def advance (exec : Choice → World → (op : Op) → Ans op × World)
    (pool : Pool World Req Op Ans α) (i : Nat) (choice : Choice) (request : Req) (op : Op)
    (next : Ans op → Prog Op Ans α) : Pool World Req Op Ans α where
  world := (exec choice pool.world op).2
  threads := pool.threads.set i ⟨request, next (exec choice pool.world op).1⟩
  trace := pool.trace ++ [(i, ⟨op, (exec choice pool.world op).1⟩)]

def step (exec : Choice → World → (op : Op) → Ans op × World) (program : Req → Prog Op Ans α)
    (pool : Pool World Req Op Ans α) : Input Req Choice → Pool World Req Op Ans α
  | .spawn request => { pool with threads := pool.threads ++ [⟨request, program request⟩] }
  | .step i choice =>
    match pool.threads[i]? with
    | some ⟨request, .call op next⟩ => advance exec pool i choice request op next
    | _ => pool

def Running (pool : Pool World Req Op Ans α) (i : Nat) : Prop :=
  match pool.threads[i]? with
  | some ⟨_, .call _ _⟩ => True
  | _ => False

instance (pool : Pool World Req Op Ans α) (i : Nat) : Decidable (Running pool i) := by
  unfold Running
  split <;> infer_instance

variable {request : Req} {i j : Nat}

theorem running_of_calling {pool : Pool World Req Op Ans α} {op : Op}
    {next : Ans op → Prog Op Ans α}
    (calling : pool.threads[i]? = some ⟨request, .call op next⟩) : Running pool i := by
  simp [Running, calling]

theorem Running.lt_length {pool : Pool World Req Op Ans α} (running : Running pool i) :
    i < pool.threads.length := by
  unfold Running at running
  grind

theorem running_advance_other (exec : Choice → World → (op : Op) → Ans op × World)
    (pool : Pool World Req Op Ans α) (choice : Choice) (request : Req) {op : Op}
    (next : Ans op → Prog Op Ans α) (other : i ≠ j) :
    Running (advance exec pool i choice request op next) j ↔ Running pool j := by
  simp [Running, advance, getElem?_set_ne other]

theorem running_spawn (exec : Choice → World → (op : Op) → Ans op × World)
    (program : Req → Prog Op Ans α) {pool : Pool World Req Op Ans α} (request : Req)
    (inside : i < pool.threads.length) :
    Running (step exec program pool (.spawn request)) i ↔ Running pool i := by
  simp [Running, step, getElem?_append_left inside]

/-- What one request has done so far. -/
def past (trace : List (Nat × Event Op Ans)) (i : Nat) : List (Event Op Ans) :=
  (trace.filter fun entry => entry.1 = i).map Prod.snd

variable {trace : List (Nat × Event Op Ans)}

theorem mem_past_iff {i : Nat} {event : Event Op Ans} :
    event ∈ past trace i ↔ (i, event) ∈ trace := by
  simp only [past, List.mem_map, mem_filter, decide_eq_true_eq]
  simp

theorem past_concat_other {event : Event Op Ans} (other : i ≠ j) :
    past (trace ++ [(i, event)]) j = past trace j := by
  simp [past, other]

variable (trace)

theorem past_subset (trace more : List (Nat × Event Op Ans)) (i : Nat) :
    past trace i ⊆ past (trace ++ more) i := by
  intro event member
  rw [mem_past_iff] at member ⊢
  exact mem_append_left _ member

theorem past_concat_self (i : Nat) (event : Event Op Ans) :
    past (trace ++ [(i, event)]) i = past trace i ++ [event] := by
  simp [past]

theorem past_fresh (i : Nat) (earlier : ∀ entry ∈ trace, entry.1 < i) : past trace i = [] := by
  have none : trace.filter (fun entry => entry.1 = i) = [] := by
    grind [filter_eq_nil_iff]
  rw [past, none, map_nil]

/-- Every entry of a trace is as it should be after the entries before it. -/
def Stepwise {β : Type} (P : List β → β → Prop) (trace : List β) : Prop :=
  ∀ early entry late, trace = early ++ entry :: late → P early entry

theorem stepwise_nil {β : Type} (P : List β → β → Prop) : Stepwise P [] := by
  intro early entry late split
  simp at split

theorem stepwise_concat {β : Type} (P : List β → β → Prop) (trace : List β) (last : β) :
    Stepwise P (trace ++ [last]) ↔ Stepwise P trace ∧ P trace last := by
  constructor
  · intro all
    refine ⟨?_, all trace last [] rfl⟩
    intro early entry late split
    apply all early entry (late ++ [last])
    rw [split, append_assoc, cons_append]
  · rintro ⟨before, new⟩ early entry late split
    -- the entry is the last one, or the split is one of the earlier trace
    rcases eq_nil_or_concat late with none | ⟨rest, final, rfl⟩
    · grind [append_inj', singleton_inj]
    · have lasts : trace ++ [last] = (early ++ entry :: rest) ++ [final] := by
        simpa using split
      exact before early entry rest (append_inj' lasts rfl).1

variable {exec : Choice → World → (op : Op) → Ans op × World}

/-- An entry of the trace is an earlier one or the operation just performed. -/
theorem mem_trace_advance {pool : Pool World Req Op Ans α} {choice : Choice} {op : Op}
    {next : Ans op → Prog Op Ans α} {event : Event Op Ans}
    (member : (j, event) ∈ (advance exec pool i choice request op next).trace) :
    (j, event) ∈ pool.trace ∨ j = i ∧ event = ⟨op, (exec choice pool.world op).1⟩ := by
  simpa [advance, mem_singleton] using member

/-- What thread `i` was asked. -/
def Pool.requestAt (pool : Pool World Req Op Ans α) (i : Nat) : Option Req :=
  (pool.threads[i]?).map Thread.request

/-- The request together with its reply, once there is one. -/
def Pool.answerAt (pool : Pool World Req Op Ans α) (i : Nat) : Option (Req × α) :=
  match pool.threads[i]? with
  | some ⟨request, .done a⟩ => some (request, a)
  | _ => none

theorem answerAt_eq_some_iff (pool : Pool World Req Op Ans α) (i : Nat) (request : Req) (a : α) :
    pool.answerAt i = some (request, a) ↔ pool.threads[i]? = some ⟨request, .done a⟩ := by
  constructor
  · intro answered
    unfold Pool.answerAt at answered
    grind
  · intro found
    simp [Pool.answerAt, found]

theorem requestAt_advance (exec : Choice → World → (op : Op) → Ans op × World)
    {pool : Pool World Req Op Ans α} (j : Nat) (choice : Choice) {op : Op}
    {next : Ans op → Prog Op Ans α} (calling : pool.threads[i]? = some ⟨request, .call op next⟩) :
    (advance exec pool i choice request op next).requestAt j = pool.requestAt j := by
  by_cases here : i = j
  · subst here
    have bound := (List.getElem?_eq_some_iff.mp calling).1
    simp [Pool.requestAt, advance, getElem?_set_self bound, calling]
  · simp [Pool.requestAt, advance, getElem?_set_ne here]

theorem request_advance {pool : Pool World Req Op Ans α} {choice : Choice} {op : Op}
    {next : Ans op → Prog Op Ans α} {thread : Thread Req Op Ans α}
    (calling : pool.threads[i]? = some ⟨request, .call op next⟩)
    (found : (advance exec pool i choice request op next).threads[j]? = some thread) :
    ∃ before, pool.threads[j]? = some before ∧ before.request = thread.request := by
  have same := requestAt_advance exec j choice calling
  rw [Pool.requestAt, found] at same
  exact map_eq_some_iff.mp same.symm

theorem requestAt_spawn (exec : Choice → World → (op : Op) → Ans op × World)
    (program : Req → Prog Op Ans α) {pool : Pool World Req Op Ans α} (request : Req)
    (inside : i < pool.threads.length) :
    (step exec program pool (.spawn request)).requestAt i = pool.requestAt i := by
  simp [Pool.requestAt, step, getElem?_append_left inside]

/-! ## What every interleaving keeps -/

section
variable (exec : Choice → World → (op : Op) → Ans op × World) (program : Req → Prog Op Ans α)
variable (Guard : Req → List (Event Op Ans) → Op → Prop)
variable (Post : Req → List (Event Op Ans) → α → Prop)

structure Kept (pool : Pool World Req Op Ans α) : Prop where
  numbered : ∀ entry ∈ pool.trace, entry.1 < pool.threads.length
  keeps : ∀ i thread, pool.threads[i]? = some thread →
    Keeps (Guard thread.request) (Post thread.request) thread.rest (past pool.trace i)

variable (pool : Pool World Req Op Ans α)

theorem step_cases (input : Input Req Choice) :
    (∃ request, input = .spawn request) ∨ step exec program pool input = pool ∨
      ∃ i choice request op next, input = .step i choice ∧
        pool.threads[i]? = some ⟨request, .call op next⟩ ∧
        step exec program pool input = advance exec pool i choice request op next := by
  cases input with
  | spawn request => exact .inl ⟨request, rfl⟩
  | step i choice =>
    right
    simp [step]
    grind

/-- What every operation keeps of the world, every run keeps, whatever the programs are. -/
theorem world_invariant (Inv : World → Prop)
    (kept : ∀ choice world op, Inv world → Inv (exec choice world op).2) (start : Inv pool.world)
    (inputs : List (Input Req Choice)) : Inv (run (step exec program) pool inputs).world := by
  refine run_invariant _ (fun pool => Inv pool.world) ?_ pool inputs start
  intro pool input inv
  rcases step_cases exec program pool input with
    ⟨request, rfl⟩ | same | ⟨i, choice, request, op, next, rfl, _, moved⟩
  · exact inv
  · rwa [same]
  · rw [moved]
    exact kept choice pool.world op inv

/-- The trace only grows. -/
theorem trace_run (inputs : List (Input Req Choice)) :
    ∃ more, (run (step exec program) pool inputs).trace = pool.trace ++ more := by
  induction inputs generalizing pool with
  | nil => exact ⟨[], (append_nil _).symm⟩
  | cons input rest ih =>
    obtain ⟨more, grown⟩ := ih (step exec program pool input)
    rw [run, grown]
    rcases step_cases exec program pool input with
      ⟨request, rfl⟩ | same | ⟨i, choice, request, op, next, rfl, _, moved⟩
    · exact ⟨more, rfl⟩
    · rw [same]
      exact ⟨more, rfl⟩
    · rw [moved]
      exact ⟨_, append_assoc ..⟩

theorem kept_spawn (spec : ∀ request, Keeps (Guard request) (Post request) (program request) [])
    {pool : Pool World Req Op Ans α} (request : Req) (kept : Kept Guard Post pool) :
    Kept Guard Post (step exec program pool (.spawn request)) where
  numbered := by
    intro entry member
    have bound := kept.numbered entry member
    simp [step]
    omega
  keeps := by
    intro i thread found
    simp [step] at found ⊢
    by_cases inside : i < pool.threads.length
    · rw [getElem?_append_left inside] at found
      exact kept.keeps i thread found
    · rw [getElem?_append_right (Nat.le_of_not_lt inside)] at found
      have isNew := mem_singleton.mp (mem_of_getElem? found)
      subst isNew
      have fresh : past pool.trace i = [] := by
        apply past_fresh
        intro entry member
        have bound := kept.numbered entry member
        omega
      rw [fresh]
      exact spec request

theorem kept_advance {pool : Pool World Req Op Ans α} (choice : Choice)
    {op : Op} {next : Ans op → Prog Op Ans α}
    (calling : pool.threads[i]? = some ⟨request, .call op next⟩) (kept : Kept Guard Post pool) :
    Kept Guard Post (advance exec pool i choice request op next) where
  numbered := by
    intro entry member
    simp only [advance, length_set, mem_append, mem_singleton] at member ⊢
    rcases member with old | rfl
    · exact kept.numbered entry old
    · exact (List.getElem?_eq_some_iff.mp calling).1
  keeps := by
    intro j thread found
    simp [advance] at found ⊢
    by_cases here : i = j
    · subst here
      have bound := (List.getElem?_eq_some_iff.mp calling).1
      rw [getElem?_set_self bound, Option.some.injEq] at found
      subst found
      rw [past_concat_self]
      exact (kept.keeps i _ calling).2 _
    · rw [getElem?_set_ne here] at found
      rw [past_concat_other here]
      exact kept.keeps j thread found

theorem kept_initial (world : World) : Kept Guard Post (initial world : Pool World Req Op Ans α) where
  numbered := by
    intro entry member
    cases member
  keeps := by
    intro i thread found
    cases found

variable {program Guard Post}

section
variable (spec : ∀ request, Keeps (Guard request) (Post request) (program request) [])
  (Allowed : Pool World Req Op Ans α → Input Req Choice → Prop)
  (Inv : Pool World Req Op Ans α → Prop) (spawns : ∀ pool request, Kept Guard Post pool → Inv pool →
    Inv (step exec program pool (.spawn request)))
  (calls : ∀ (pool : Pool World Req Op Ans α) (i : Nat) (choice : Choice) (request : Req)
    (op : Op) (next : Ans op → Prog Op Ans α), Kept Guard Post pool →
    pool.threads[i]? = some ⟨request, .call op next⟩ → Allowed pool (.step i choice) →
    Guard request (past pool.trace i) op → Inv pool →
    Inv (advance exec pool i choice request op next))

include spec spawns calls

/-- The invariant rule: what holds in a pool, survives the arrival of a request and
survives every operation that an allowed step performs under its guard holds in every
state of every interleaving whose steps are allowed. -/
theorem pool_invariant_from (pool : Pool World Req Op Ans α) (kept : Kept Guard Post pool)
    (start : Inv pool) (inputs : List (Input Req Choice))
    (allowed : ∀ visit ∈ visits (step exec program) pool inputs, Allowed visit.1 visit.2) :
    ∀ reached ∈ states (step exec program) pool inputs, Kept Guard Post reached ∧ Inv reached := by
  apply states_invariant_of (step exec program) Allowed
    (fun pool => Kept Guard Post pool ∧ Inv pool) _ _ inputs ⟨kept, start⟩ allowed
  rintro pool input ⟨kept, inv⟩ isAllowed
  rcases step_cases exec program pool input with
    ⟨request, rfl⟩ | same | ⟨i, choice, request, op, next, rfl, calling, moved⟩
  · grind [kept_spawn]
  · rw [same]
    exact ⟨kept, inv⟩
  · rw [moved]
    have guarded := (kept.keeps i _ calling).1
    grind [kept_advance]

/-- The rule for a pool that begins with no request. -/
theorem pool_invariant (world : World) (start : Inv (initial world))
    (inputs : List (Input Req Choice))
    (allowed : ∀ visit ∈ visits (step exec program) (initial world) inputs,
      Allowed visit.1 visit.2) :
    ∀ reached ∈ states (step exec program) (initial world) inputs,
      Kept Guard Post reached ∧ Inv reached :=
  pool_invariant_from exec spec Allowed Inv spawns calls _
    (kept_initial Guard Post world) start inputs allowed

end

/-- The rule for what speaks of the requests, the world and the trace: one operation is one step,
and it does not matter who else has asked. -/
theorem history_invariant
    (spec : ∀ request, Keeps (Guard request) (Post request) (program request) [])
    (Allowed : World → List (Nat × Event Op Ans) → Choice → Op → Prop)
    (Inv : (Nat → Option Req) → World → List (Nat × Event Op Ans) → Prop)
    (agree : ∀ asked other world trace, (∀ entry ∈ trace, other entry.1 = asked entry.1) →
      Inv asked world trace → Inv other world trace)
    (steps : ∀ asked world trace i request choice op, asked i = some request →
      Guard request (past trace i) op → Allowed world trace choice op → Inv asked world trace →
      Inv asked (exec choice world op).2 (trace ++ [(i, ⟨op, (exec choice world op).1⟩)]))
    (world : World) (start : Inv (fun _ => none) world []) (inputs : List (Input Req Choice))
    (allowed : ∀ visit ∈ visits (step exec program) (initial world) inputs,
      ∀ i choice request op next, visit.2 = .step i choice →
        visit.1.threads[i]? = some ⟨request, .call op next⟩ →
        Allowed visit.1.world visit.1.trace choice op) :
    ∀ reached ∈ states (step exec program) (initial world) inputs,
      Kept Guard Post reached ∧ Inv reached.requestAt reached.world reached.trace := by
  refine pool_invariant exec spec
    (fun pool input => ∀ i choice request op next, input = .step i choice →
      pool.threads[i]? = some ⟨request, .call op next⟩ → Allowed pool.world pool.trace choice op)
    (fun pool => Inv pool.requestAt pool.world pool.trace) ?_ ?_ world start inputs allowed
  · intro pool request kept inv
    refine agree pool.requestAt _ _ _ ?_ inv
    intro entry member
    exact requestAt_spawn exec program request (kept.numbered entry member)
  · intro pool i choice request op next _ calling isAllowed guarded inv
    have sameRequests : (advance exec pool i choice request op next).requestAt = pool.requestAt :=
      funext fun j => requestAt_advance exec j choice calling
    have asked : pool.requestAt i = some request := by
      rw [Pool.requestAt, calling, map_some]
    rw [sameRequests]
    exact steps pool.requestAt pool.world pool.trace i request choice op asked guarded
      (isAllowed i choice request op next rfl calling) inv

/-- Every operation that has been performed was performed under its guard. -/
theorem pool_guarded (spec : ∀ request, Keeps (Guard request) (Post request) (program request) [])
    (world : World) (inputs : List (Input Req Choice)) :
    ∀ reached ∈ states (step exec program) (initial world) inputs, ∀ early i event late,
      reached.trace = early ++ (i, event) :: late →
      ∃ request, reached.requestAt i = some request ∧ Guard request (past early i) event.op := by
  intro reached member early i event late
  refine (pool_invariant exec spec (fun _ _ => True)
    (fun pool => Stepwise (fun early entry => ∃ request, pool.requestAt entry.1 = some request ∧
      Guard request (past early entry.1) entry.2.op) pool.trace)
    ?_ ?_ world (stepwise_nil _) inputs (fun _ _ => trivial) reached member).2 early (i, event) late
  · intro pool request kept inv early entry late split
    obtain ⟨asked, found, guarded⟩ := inv early entry late split
    have inside : entry.1 < pool.threads.length := by
      apply kept.numbered entry
      rw [show pool.trace = _ from split]
      simp
    exact ⟨asked, by rw [requestAt_spawn exec program request inside, found], guarded⟩
  · intro pool i choice request op next kept calling _ guarded inv
    simp [requestAt_advance exec _ choice calling]
    refine (stepwise_concat _ _ _).mpr ⟨inv, request, ?_, guarded⟩
    rw [Pool.requestAt, calling]
    rfl

end

/-! ## Claiming something by reading it

Requests of a kind read a record, check it and mark it in separate operations. From the
reading on such a request claims the record, until it stops before marking it. -/

section
variable (mine : Req → Prop) (reads marks : Event Op Ans → Prop)

structure Claims (pool : Pool World Req Op Ans α) (i : Nat) : Prop where
  kind : ∀ thread, pool.threads[i]? = some thread → mine thread.request
  read : ∃ event ∈ past pool.trace i, reads event
  goesOn : (∃ event ∈ past pool.trace i, marks event) ∨ Running pool i

variable {mine reads marks} {exec : Choice → World → (op : Op) → Ans op × World}
  {program : Req → Prog Op Ans α}

theorem claims_spawn {pool : Pool World Req Op Ans α}
    (numbered : ∀ entry ∈ pool.trace, entry.1 < pool.threads.length)
    (claims : Claims mine reads marks (step exec program pool (.spawn request)) i) :
    Claims mine reads marks pool i := by
  obtain ⟨kind, ⟨event, member, read⟩, goesOn⟩ := claims
  have inside := numbered _ (mem_past_iff.mp member)
  rw [running_spawn exec program request inside] at goesOn
  simp [step, getElem?_append_left inside] at kind
  exact ⟨kind, ⟨event, member, read⟩, goesOn⟩

variable {pool : Pool World Req Op Ans α} {i : Nat} {choice : Choice} {request : Req} {op : Op}
variable {next : Ans op → Prog Op Ans α}
variable (calling : pool.threads[i]? = some ⟨request, .call op next⟩)

include calling

/-- Reading is the only way to begin claiming. -/
theorem claims_advance {j : Nat}
    (claims : Claims mine reads marks (advance exec pool i choice request op next) j) :
    Claims mine reads marks pool j ∨
      j = i ∧ mine request ∧ reads ⟨op, (exec choice pool.world op).1⟩ := by
  obtain ⟨kind, read, goesOn⟩ := claims
  by_cases other : i = j
  · subst other
    have bound := (List.getElem?_eq_some_iff.mp calling).1
    have kindHere : mine request := by
      simp only [advance, getElem?_set_self bound] at kind
      exact kind _ rfl
    simp only [advance, past_concat_self] at read
    obtain ⟨event, member, read⟩ := read
    rcases mem_append.mp member with before | now
    · refine .inl ⟨?_, ⟨event, before, read⟩, .inr (running_of_calling calling)⟩
      grind
    · grind
  · rw [running_advance_other exec pool choice request next other] at goesOn
    simp [advance, past_concat_other other, getElem?_set_ne other]
      at kind read goesOn
    exact .inl ⟨kind, read, goesOn⟩

/-- If nobody claims what is read, at most one request claims it afterwards. -/
theorem single_advance
    (single : ∀ j k, Claims mine reads marks pool j → Claims mine reads marks pool k → j = k)
    (alone : mine request → reads ⟨op, (exec choice pool.world op).1⟩ →
      ∀ j, ¬ Claims mine reads marks pool j) {j k : Nat}
    (claimsJ : Claims mine reads marks (advance exec pool i choice request op next) j)
    (claimsK : Claims mine reads marks (advance exec pool i choice request op next) k) : j = k := by
  rcases claims_advance calling claimsJ with
    beforeJ | ⟨rfl, kind, read⟩
  · rcases claims_advance calling claimsK with beforeK | ⟨rfl, kind, read⟩
    · exact single j k beforeJ beforeK
    · exact absurd beforeJ (alone kind read j)
  · rcases claims_advance calling claimsK with beforeK | ⟨rfl, _⟩
    · exact absurd beforeK (alone kind read k)
    · rfl

end

end Interleave
