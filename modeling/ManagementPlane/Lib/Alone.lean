import ManagementPlane.Lib.Interleave

/-!
# Programs on their own

A program that nobody interrupts, each of its operations with the next choice of a
stream. `Ensures` is its weakest precondition over all streams of allowed choices,
with one rule for each way a program is put together.
-/

namespace Interleave

variable {World Choice Op : Type} {Ans : Op → Type} {α β : Type}
variable (exec : Choice → World → (op : Op) → Ans op × World)

def Prog.eval : Prog Op Ans α → (Nat → Choice) → World → α × World
  | .done a, _, world => (a, world)
  | .call op next, choices, world =>
    (next (exec (choices 0) world op).1).eval (fun n => choices (n + 1))
      (exec (choices 0) world op).2

theorem eval_call (op : Op) (next : Ans op → Prog Op Ans α) (choices : Nat → Choice)
    (world : World) :
    (perform op >>= next).eval exec choices world =
      (next (exec (choices 0) world op).1).eval exec (fun n => choices (n + 1))
        (exec (choices 0) world op).2 := rfl

/-- However the allowed choices fall, the program ends with the postcondition. -/
def Ensures (Allowed : Choice → Prop) (Post : α → World → Prop) : Prog Op Ans α → World → Prop
  | .done a, world => Post a world
  | .call op next, world => ∀ choice, Allowed choice →
      Ensures Allowed Post (next (exec choice world op).1) (exec choice world op).2

variable {exec} {Allowed : Choice → Prop}

variable {Post First Second : α → World → Prop} {p : Prog Op Ans α} {world : World}
variable {f : α → Prog Op Ans β}

theorem eval_ensures (choices : Nat → Choice) (allowed : ∀ n, Allowed (choices n))
    (ensures : Ensures exec Allowed Post p world) :
    Post (p.eval exec choices world).1 (p.eval exec choices world).2 := by
  induction p generalizing choices world with
  | done a => exact ensures
  | call op next ih =>
    exact ih _ _ (fun n => allowed (n + 1)) (ensures (choices 0) (allowed 0))

/-- The precondition says nothing more than that: every stream ends so. -/
theorem ensures_iff_eval (possible : ∃ choice, Allowed choice) (p : Prog Op Ans α) (world : World) :
    Ensures exec Allowed Post p world ↔ ∀ choices : Nat → Choice, (∀ n, Allowed (choices n)) →
      Post (p.eval exec choices world).1 (p.eval exec choices world).2 := by
  constructor
  · grind [eval_ensures]
  · intro always
    induction p generalizing world with
    | done a =>
      obtain ⟨choice, allowed⟩ := possible
      exact always (fun _ => choice) fun _ => allowed
    | call op next ih =>
      intro choice allowed
      apply ih
      intro choices rest
      -- the choice goes in front of the stream
      refine always (fun n => Nat.casesOn n choice choices) fun n => ?_
      cases n with
      | zero => exact allowed
      | succ n => exact rest n

/-- Two things that a program ensures hold at a common end. -/
theorem ensures_both (possible : ∃ choice, Allowed choice)
    (first : Ensures exec Allowed First p world)
    (second : Ensures exec Allowed Second p world) : ∃ a now, First a now ∧ Second a now := by
  obtain ⟨choice, allowed⟩ := possible
  exact ⟨_, _, eval_ensures (fun _ => choice) (fun _ => allowed) first,
    eval_ensures (fun _ => choice) (fun _ => allowed) second⟩

@[simp]
theorem ensures_pure (a : α) (Post : α → World → Prop) (world : World) :
    Ensures exec Allowed Post (pure a) world ↔ Post a world := Iff.rfl

@[simp]
theorem ensures_call (op : Op) (next : Ans op → Prog Op Ans α) (Post : α → World → Prop)
    (world : World) :
    Ensures exec Allowed Post (perform op >>= next) world ↔
      ∀ choice, Allowed choice →
        Ensures exec Allowed Post (next (exec choice world op).1) (exec choice world op).2 :=
  Iff.rfl

@[simp]
theorem ensures_perform (op : Op) (Post : Ans op → World → Prop) (world : World) :
    Ensures exec Allowed Post (perform op) world ↔
      ∀ choice, Allowed choice → Post (exec choice world op).1 (exec choice world op).2 := Iff.rfl

@[simp]
theorem ensures_ite {condition : Prop} [Decidable condition] {yes no : Prog Op Ans α} :
    Ensures exec Allowed Post (if condition then yes else no) world ↔
      (condition → Ensures exec Allowed Post yes world) ∧
        (¬ condition → Ensures exec Allowed Post no world) := by
  by_cases holds : condition
  all_goals simp [holds]

/-- A check that returns early. -/
theorem ensures_check {refused : Prop} [Decidable refused] {reply : α} {rest : Prog Op Ans α}
    (early : refused → Post reply world)
    (goesOn : ¬ refused → Ensures exec Allowed Post rest world) :
    Ensures exec Allowed Post (if refused then pure reply else rest) world :=
  ensures_ite.mpr ⟨early, goesOn⟩

/-- What follows a part is ensured at the ends of the part. -/
theorem ensures_bind {Post : β → World → Prop} (p : Prog Op Ans α) (f : α → Prog Op Ans β)
    (world : World) :
    Ensures exec Allowed Post (p >>= f) world ↔
      Ensures exec Allowed (fun a now => Ensures exec Allowed Post (f a) now) p world := by
  induction p generalizing world with
  | done a => exact Iff.rfl
  | call op rest ih => exact forall_congr' fun choice => imp_congr_right fun _ => ih _ _

theorem ensures_mono
    (weaker : ∀ a now, First a now → Second a now) (first : Ensures exec Allowed First p world) :
    Ensures exec Allowed Second p world := by
  induction p generalizing world with
  | done a => exact weaker a world first
  | call op rest ih => exact fun choice allowed => ih _ (first choice allowed)

/-- A part of a program is replaced by what it ensures. -/
theorem ensures_then {Post : β → World → Prop} (first : Ensures exec Allowed First p world)
    (next : ∀ a now, First a now → Ensures exec Allowed Post (f a) now) :
    Ensures exec Allowed Post (p >>= f) world := by
  rw [ensures_bind]
  exact ensures_mono next first

/-- A part whose outcome does not matter. -/
theorem ensures_skip {Post : β → World → Prop}
    (next : ∀ a now, Ensures exec Allowed Post (f a) now) :
    Ensures exec Allowed Post (p >>= f) world := by
  induction p generalizing world with
  | done a => exact next a world
  | call op rest ih => exact fun choice _ => ih _

/-- Every operation that the program may call is allowed, whatever the answers. -/
def Calls (allowed : Op → Prop) : Prog Op Ans α → Prop
  | .done _ => True
  | .call op next => allowed op ∧ ∀ ans, Calls allowed (next ans)

@[simp]
theorem calls_pure (allowed : Op → Prop) (a : α) : Calls allowed (pure a : Prog Op Ans α) := trivial

variable {allowed : Op → Prop}

@[simp]
theorem calls_perform {op : Op} : Calls allowed (perform op : Prog Op Ans (Ans op)) ↔ allowed op :=
  ⟨fun calls => calls.1, fun isAllowed => ⟨isAllowed, fun _ => trivial⟩⟩

@[simp]
theorem calls_call {op : Op} {next : Ans op → Prog Op Ans α} :
    Calls allowed (perform op >>= next) ↔ allowed op ∧ ∀ ans, Calls allowed (next ans) := Iff.rfl

@[simp]
theorem calls_ite {condition : Prop} [Decidable condition] {yes no : Prog Op Ans α} :
    Calls allowed (if condition then yes else no) ↔
      (condition → Calls allowed yes) ∧ (¬ condition → Calls allowed no) := by
  by_cases holds : condition
  all_goals simp [holds]

/-- The rule for a part of a program; `simp` applies it where it knows the part. -/
@[simp]
theorem calls_bind
    (first : Calls allowed p) (next : ∀ a, Calls allowed (f a)) : Calls allowed (p >>= f) := by
  induction p with
  | done a => exact next a
  | call op rest ih => exact ⟨first.1, fun ans => ih ans (first.2 ans)⟩

@[simp]
theorem calls_map (f : α → β) : Calls allowed (f <$> p) ↔ Calls allowed p := by
  induction p with
  | done a => exact Iff.rfl
  | call op rest ih => exact and_congr_right fun _ => forall_congr' ih

theorem calls_mono {wider : Op → Prop} (widens : ∀ op, allowed op → wider op)
    (calls : Calls allowed p) : Calls wider p := by
  induction p with
  | done a => exact trivial
  | call op rest ih => exact ⟨widens op calls.1, fun ans => ih ans (calls.2 ans)⟩

theorem keeps_of_calls (calls : Calls allowed p)
    (past : List (Event Op Ans)) : Keeps (fun _ op => allowed op) (fun _ _ => True) p past := by
  induction p generalizing past with
  | done a => exact trivial
  | call op next ih => exact ⟨calls.1, fun ans => ih ans (calls.2 ans) _⟩

/-- A program keeps what every operation that it may call keeps. -/
theorem ensures_of_calls {Inv : World → Prop}
    (kept : ∀ choice world op, allowed op → Inv world → Inv (exec choice world op).2)
    (p : Prog Op Ans α) (world : World) (calls : Calls allowed p) (inv : Inv world) :
    Ensures exec Allowed (fun _ now => Inv now) p world := by
  induction p generalizing world with
  | done a => exact inv
  | call op next ih =>
    exact fun choice _ => ih _ _ (calls.2 _) (kept choice world op calls.1 inv)

/-- Two things that a program ensures hold together. -/
theorem ensures_and
    (first : Ensures exec Allowed First p world) (second : Ensures exec Allowed Second p world) :
    Ensures exec Allowed (fun a now => First a now ∧ Second a now) p world := by
  induction p generalizing world with
  | done a => exact ⟨first, second⟩
  | call op next ih => exact fun choice allowed => ih _ (first choice allowed) (second choice allowed)

theorem ensures_forall {ι : Sort*} {Post : ι → α → World → Prop}
    (each : ∀ i, Ensures exec Allowed (Post i) p world) :
    Ensures exec Allowed (fun a now => ∀ i, Post i a now) p world := by
  induction p generalizing world with
  | done a => exact each
  | call op next ih => exact fun choice allowed => ih _ fun i => each i choice allowed

/-- What is ensured against more choices is ensured against fewer. -/
theorem ensures_fewer {Fewer : Choice → Prop} (fewer : ∀ choice, Fewer choice → Allowed choice)
    (ensures : Ensures exec Allowed Post p world) : Ensures exec Fewer Post p world := by
  induction p generalizing world with
  | done a => exact ensures
  | call op next ih => exact fun choice isFewer => ih _ (ensures choice (fewer choice isFewer))

/-- The operations, with a log of them and of their answers. -/
def recorded (exec : Choice → World → (op : Op) → Ans op × World) (choice : Choice)
    (state : World × List (Event Op Ans)) (op : Op) : Ans op × (World × List (Event Op Ans)) :=
  ((exec choice state.1 op).1,
    ((exec choice state.1 op).2, state.2 ++ [⟨op, (exec choice state.1 op).1⟩]))

theorem ensures_recorded (ensures : Ensures exec Allowed Post p world) (log : List (Event Op Ans)) :
    Ensures (recorded exec) Allowed (fun a state => Post a state.1) p (world, log) := by
  induction p generalizing world log with
  | done a => exact ensures
  | call op next ih => exact fun choice allowed => ih _ (ensures choice allowed) _

end Interleave
