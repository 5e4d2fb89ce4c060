import ManagementPlane.Lib.OnceOnly
import ManagementPlane.Onboard.Handler

/-!
# How often a passcode is guessed and used

`VerifyOTP` checks the row in one statement and writes to it in another. A passcode is exchanged
once, guessed at five times at most and exchanged before its expiry when no request selects it
while another one is between the two statements, it does not expire while one is, and every wrong
guess is counted.
-/

namespace ManagementPlane.Onboard

open GoStrings Interleave Policy Runs Tables List

def Op.settles : Op → Option String
  | .addAttempt id => some id
  | .consumeOTP _ id => some id
  | _ => none

inductive Change (choice : Choice) (op : Op) (before after : Table String PasscodeRow) : Prop where
  | same (same : after = before)
  | inserted (id : String) (row : PasscodeRow) (inserted : Inserted before after id row)
  | attempted (id : String) (called : op = .addAttempt id)
      (amended : Amended before after id fun row => { row with attempts := row.attempts + 1 })
  | consumed (token id : String) (called : op = .consumeOTP token id)
      (amended : Amended before after id fun row =>
        { row with consumedAt := some choice.now, token := some token })

variable (choice : Choice)

theorem keep_cases (before after : Table String PasscodeRow) :
    choice.keep before after = before ∨ choice.keep before after = after := by
  unfold Choice.keep
  split
  · exact .inl rfl
  · exact .inr rfl

theorem exec_change (db : Database) (op : Op) :
    Change choice op db.rows (exec choice db op).2.rows := by
  cases op with
  | randomDigits n | randomToken | timeNow => exact .same rfl
  | insertOTP email codeHash expiresAt =>
    simp [exec, insertOTP]
    split_ifs with taken
    · exact .same rfl
    · rcases keep_cases choice db.rows (db.rows.insert choice.newID
        { email, codeHash, expiresAt, createdAt := choice.now }) with same | done
      · exact .same same
      · refine .inserted choice.newID
          { email, codeHash, expiresAt, createdAt := choice.now } ⟨by simpa using taken, ?_⟩
        grind [lookup_insert_if]
  | selectOTP email =>
    simp [exec]
    split <;> exact .same rfl
  | addAttempt id =>
    rcases keep_cases choice db.rows (addAttempt db.rows id) with same | done
    · exact .same same
    · refine .attempted id rfl fun other => ?_
      simp [exec, done]
      exact lookup_updateRow ..
  | consumeOTP token id =>
    rcases keep_cases choice db.rows (consumeOTP choice.now db.rows token id) with same | done
    · exact .same same
    · refine .consumed token id rfl fun other => ?_
      simp [exec, done]
      exact lookup_updateRow ..

theorem exec_now (db : Database) (op : Op) : (exec choice db op).2.now = choice.now := by
  cases op with
  | insertOTP email codeHash expiresAt | selectOTP email =>
    simp [exec]
    split <;> rfl
  | _ => rfl

variable {row : PasscodeRow}

theorem row_kept {db : Database} (op : Op) {id : String} (found : db.rows.lookup id = some row) :
    ∃ later, (exec choice db op).2.rows.lookup id = some later ∧
      (op.settles ≠ some id → later = row) := by
  cases exec_change choice db op with
  | same same =>
    rw [same]
    exact ⟨row, found, fun _ => rfl⟩
  | inserted new other inserted =>
    have apart : id ≠ new := by
      intro here
      rw [here, inserted.fresh] at found
      cases found
    exact ⟨row, by rw [inserted.lookup, if_neg apart, found], fun _ => rfl⟩
  | attempted changed called amended | consumed token changed called amended =>
    subst called
    rw [amended]
    split_ifs with here
    · rw [found, here]
      exact ⟨_, rfl, fun notSettled => absurd rfl notSettled⟩
    · exact ⟨row, found, fun _ => rfl⟩

theorem row_from {choice : Choice} {db : Database} {op : Op} {id : String}
    (other : op.settles ≠ some id) (found : (exec choice db op).2.rows.lookup id = some row) :
    db.rows.lookup id = some row ∨ db.rows.lookup id = none := by
  cases before : db.rows.lookup id with
  | none => exact .inr rfl
  | some old =>
    obtain ⟨later, foundLater, same⟩ := row_kept choice op before
    grind

theorem selectOTP_ok {choice : Choice} {db : Database} {email id hash : String}
    (selected : (exec choice db (.selectOTP email)).1 = .ok (id, hash)) :
    ∃ row, db.rows.lookup id = some row ∧ row.usable email choice.now ∧ row.codeHash = hash := by
  simp [exec] at selected
  cases failed : choice.failure with
  | some err =>
    rw [failed] at selected
    cases selected
  | none =>
    rw [failed] at selected
    simp [selectOTP] at selected
    split at selected
    · cases selected
    · rename_i first row rest sorted
      cases selected
      have member : (id, row) ∈ sortBy choice.order (fun entry => -entry.2.createdAt)
          ((entries db.rows).filter fun entry => entry.2.usable email choice.now) := by
        rw [sorted]
        exact mem_cons_self ..
      rw [(sortBy_perm ..).mem_iff, mem_filter, mem_entries_iff] at member
      exact ⟨row, member.1, of_decide_eq_true member.2, rfl⟩

def Request.hash (env : Env) : Request → Option String
  | .verifyOTP (some (_, code)) => some (env.sha256Hex (trimSpace code))
  | _ => none

def Event.selected : Event → Option (String × String)
  | ⟨.selectOTP _, .ok found⟩ => some found
  | _ => none

def Event.consumed : Event → Option String
  | ⟨.consumeOTP _ id, .ok _⟩ => some id
  | _ => none

def selections (past : List Event) : List (String × String) := past.filterMap Event.selected

def settlements (past : List Event) : List String := past.filterMap fun event => event.op.settles

/-- The request has selected a passcode and not written to it yet. -/
structure Chosen (past : List Event) (id hash : String) : Prop where
  selected : selections past = [(id, hash)]
  unsettled : settlements past = []

def Wrong (env : Env) (request : Option Request) (hash : String) : Prop :=
  ∃ given, request.bind (Request.hash env) = some given ∧ given ≠ hash

/-- A request selects once, counts a wrong guess and nothing else after it, and consumes after a
right one. -/
def Guard (env : Env) (request : Request) (past : List Event) : Op → Prop
  | .selectOTP _ => selections past = [] ∧ settlements past = []
  | .addAttempt id => ∃ hash, Chosen past id hash
  | .consumeOTP _ id => ∃ hash, Chosen past id hash ∧ ¬ Wrong env (some request) hash
  | _ => ∀ id hash, (id, hash) ∈ selections past → ¬ Wrong env (some request) hash

variable (env : Env)

theorem keeps_requestOTP (body : Option String) :
    Keeps (Guard env (.requestOTP body)) (fun _ _ => True) (handleRequestOTP env body) [] := by
  cases body with
  | none => exact trivial
  | some given =>
    refine keeps_check trivial fun _ => ?_
    refine ⟨by simp [Guard, selections], fun code => ?_⟩
    refine ⟨by simp [Guard, selections, Event.selected], fun now => ?_⟩
    refine ⟨by simp [Guard, selections, Event.selected], fun inserted => ?_⟩
    cases inserted <;> exact trivial

theorem keeps_verifyOTP (body : Option (String × String)) :
    Keeps (Guard env (.verifyOTP body)) (fun _ _ => True) (handleVerifyOTP env body) [] := by
  cases body with
  | none => exact trivial
  | some given =>
    obtain ⟨email, code⟩ := given
    refine keeps_check trivial fun _ => ?_
    refine ⟨⟨rfl, rfl⟩, fun selected => ?_⟩
    cases selected with
    | error err => exact trivial
    | ok found =>
      obtain ⟨id, hash⟩ := found
      refine keeps_branch (fun _ => ?_) fun same => ?_
      · exact ⟨⟨hash, rfl, rfl⟩, fun _ => trivial⟩
      · have right : ¬ Wrong env (some (.verifyOTP (some (email, code)))) hash := by
          rintro ⟨given, isGiven, differs⟩
          cases isGiven
          exact same differs
        refine ⟨by simpa [Guard, selections, Event.selected] using right, fun token => ?_⟩
        refine ⟨by simpa [Guard, selections, Event.selected] using right, fun now => ?_⟩
        refine ⟨⟨hash, ⟨rfl, rfl⟩, right⟩, fun consumed => ?_⟩
        cases consumed <;> exact trivial

theorem keeps_handle (request : Request) :
    Keeps (Guard env request) (fun _ _ => True) (handle env request) [] := by
  cases request with
  | requestOTP body => exact keeps_requestOTP env body
  | verifyOTP body => exact keeps_verifyOTP env body

abbrev Server := Pool Database Request Op Op.Ans Reply

abbrev Action := Input Request Choice

abbrev Entry := Nat × Event

def serve (env : Env) (server : Server) (action : Action) : Server :=
  step exec (handle env) server action

/-- The request is between selecting the passcode and writing to it. -/
def Verifying (trace : List Entry) (i : Nat) (id : String) : Prop :=
  id ∈ (selections (past trace i)).map Prod.fst ∧ settlements (past trace i) = []

instance (trace : List Entry) (i : Nat) (id : String) : Decidable (Verifying trace i id) :=
  inferInstanceAs (Decidable (_ ∧ _))

/-- A passcode is selected only while nobody is verifying it, and counting a wrong guess takes
effect. -/
def Calm (choice : Choice) (db : Database) (trace : List Entry) : Op → Prop
  | .selectOTP email =>
    match (exec choice db (.selectOTP email)).1 with
    | .ok (id, _) => ∀ entry ∈ trace, ¬ Verifying trace entry.1 id
    | .error _ => True
  | .addAttempt _ => choice.failure = none ∨ choice.applied = true
  | _ => True

def Unexpired (choice : Choice) (db : Database) (trace : List Entry) : Prop :=
  ∀ entry ∈ trace, ∀ stored ∈ entries db.rows, Verifying trace entry.1 stored.1 →
    db.now < stored.2.expiresAt → choice.now < stored.2.expiresAt

def Undisturbed (server : Server) : Action → Prop
  | .spawn _ => True
  | .step i choice =>
    Unexpired choice server.world server.trace ∧
      match server.threads[i]? with
      | some ⟨_, .call op _⟩ => Calm choice server.world server.trace op
      | _ => True

instance (choice : Choice) (db : Database) (trace : List Entry) (op : Op) :
    Decidable (Calm choice db trace op) := by
  unfold Calm
  split
  · split <;> infer_instance
  · infer_instance
  · infer_instance

instance (server : Server) (action : Action) : Decidable (Undisturbed server action) := by
  unfold Undisturbed Unexpired
  split
  · infer_instance
  · apply @instDecidableAnd _ _ _ ?_
    split <;> infer_instance

/-- The operation selects the passcode for a request whose code is another one. -/
def isWrongGuess (env : Env) (request : Option Request) (id : String) (event : Event) : Bool :=
  match request.bind (Request.hash env), event.selected with
  | some given, some (selected, hash) => selected = id && given ≠ hash
  | _, _ => false

def wrongGuesses (env : Env) (asked : Nat → Option Request) (trace : List Entry) (id : String) :
    Nat :=
  trace.countP fun entry => isWrongGuess env (asked entry.1) id entry.2

/-- The request has been answered with a token for the passcode. -/
def Exchanged (server : Server) (i : Nat) (id : String) : Prop :=
  (∃ request token expiresAt, server.answerAt i = some (request, .verified token expiresAt)) ∧
    ∃ event ∈ past server.trace i, Event.consumed event = some id

/-- Each passcode is exchanged at most once, guessed at five times at most, and consumed before
its expiry. -/
structure Protected (env : Env) (server : Server) : Prop where
  once : ∀ id i j, Exchanged server i id → Exchanged server j id → i = j
  guesses : ∀ id, wrongGuesses env server.requestAt server.trace id ≤ maxOTPAttempts
  inTime : ∀ id i, Exchanged server i id → ∃ row consumed, server.world.rows.lookup id = some row ∧
    row.consumedAt = some consumed ∧ consumed < row.expiresAt

/-! ## The invariant -/

/-- A request that is verifying the passcode has guessed wrong. -/
def WrongPending (env : Env) (asked : Nat → Option Request) (trace : List Entry) (id : String) :
    Prop :=
  ∃ i hash, Verifying trace i id ∧ (id, hash) ∈ selections (past trace i) ∧
    Wrong env (asked i) hash

def Consumed (id : String) (db : Database) : Prop :=
  ∃ row consumed, db.rows.lookup id = some row ∧ row.consumedAt = some consumed ∧
    consumed < row.expiresAt

structure Sound (env : Env) (asked : Nat → Option Request) (db : Database) (trace : List Entry) :
    Prop where
  held : ∀ i id hash, (id, hash) ∈ selections (past trace i) → (db.rows.lookup id).isSome
  alone : ∀ id i j, Verifying trace i id → Verifying trace j id → i = j
  usable : ∀ i id, Verifying trace i id → ∃ row, db.rows.lookup id = some row ∧
    row.consumedAt = none ∧ db.now < row.expiresAt
  counted : ∀ id row, db.rows.lookup id = some row →
    wrongGuesses env asked trace id ≤ row.attempts + 1 ∧
      (¬ WrongPending env asked trace id → wrongGuesses env asked trace id ≤ row.attempts)
  bounded : ∀ id, wrongGuesses env asked trace id ≤ maxOTPAttempts
  taken : Taken (fun id event => Event.consumed event = some id) Consumed db trace

theorem isWrongGuess_iff (request : Option Request) (id : String) (event : Event) :
    isWrongGuess env request id event = true ↔
      ∃ hash, Event.selected event = some (id, hash) ∧ Wrong env request hash := by
  unfold isWrongGuess Wrong
  grind

theorem mem_selections {trace : List Entry} {i : Nat} {event : Event} {id hash : String}
    (done : (i, event) ∈ trace) (selected : Event.selected event = some (id, hash)) :
    (id, hash) ∈ selections (past trace i) :=
  mem_filterMap.mpr ⟨event, mem_past_iff.mpr done, selected⟩

theorem Verifying.exists_entry {trace : List Entry} {i : Nat} {id : String}
    (verifying : Verifying trace i id) : ∃ event, (i, event) ∈ trace := by
  obtain ⟨_, selected, _⟩ := mem_map.mp verifying.1
  obtain ⟨event, done, _⟩ := mem_filterMap.mp selected
  exact ⟨event, mem_past_iff.mp done⟩

section
variable {trace : List Entry} {i j : Nat} {event : Event} {id hash : String}

theorem selections_concat : selections (past (trace ++ [(i, event)]) i) =
    selections (past trace i) ++ (Event.selected event).toList := by
  simp [past_concat_self, selections]
  cases found : Event.selected event <;> simp [found]

theorem settlements_concat : settlements (past (trace ++ [(i, event)]) i) =
    settlements (past trace i) ++ event.op.settles.toList := by
  simp [past_concat_self, settlements]
  cases found : event.op.settles <;> simp [found]

theorem verifying_concat (verifying : Verifying (trace ++ [(i, event)]) j id) :
    (Verifying trace j id ∧ (j = i → event.op.settles = none)) ∨
      j = i ∧ ∃ hash, Event.selected event = some (id, hash) := by
  obtain ⟨selected, unsettled⟩ := verifying
  by_cases here : i = j
  · subst here
    rw [selections_concat, map_append, mem_append] at selected
    rw [settlements_concat, append_eq_nil_iff] at unsettled
    rcases selected with before | now
    · exact .inl ⟨⟨before, unsettled.1⟩, fun _ => by simpa using unsettled.2⟩
    · grind
  · rw [past_concat_other here] at selected unsettled
    exact .inl ⟨⟨selected, unsettled⟩, fun same => absurd same.symm here⟩

theorem wrongGuesses_concat (asked : Nat → Option Request) (id : String) :
    wrongGuesses env asked (trace ++ [(i, event)]) id =
      wrongGuesses env asked trace id + if isWrongGuess env (asked i) id event then 1 else 0 := by
  simp [wrongGuesses]

end

section
variable {choice : Choice} {db : Database} {op : Op} {id hash : String}

theorem selected_iff : Event.selected ⟨op, (exec choice db op).1⟩ = some (id, hash) ↔
    ∃ email, op = .selectOTP email ∧ (exec choice db (.selectOTP email)).1 = .ok (id, hash) := by
  cases op with
  | selectOTP email =>
    simp [Op.selectOTP.injEq]
    cases (exec choice db (.selectOTP email)).1 <;> simp [Event.selected]
  | _ => simp [Event.selected]

theorem consumed_iff : Event.consumed ⟨op, (exec choice db op).1⟩ = some id ↔
    ∃ token, op = .consumeOTP token id ∧ choice.failure = none := by
  cases op with
  | consumeOTP token other =>
    cases failed : choice.failure <;>
      simp [Event.consumed, exec, Choice.outcome, failed]
  | _ => simp [Event.consumed]

end

section
variable {env : Env} {asked : Nat → Option Request} {db : Database} {trace : List Entry} {i : Nat}
variable {choice : Choice} {request : Request} {op : Op} {id hash : String}
variable (guarded : Guard env request (past trace i) op) (calling : asked i = some request)
variable (calm : Calm choice db trace op) (unexpired : Unexpired choice db trace)
variable (sound : Sound env asked db trace)

include guarded in
theorem settler_verifying (settles : op.settles = some id) : Verifying trace i id := by
  cases op with
  | addAttempt other =>
    cases settles
    obtain ⟨hash, chosen⟩ := guarded
    exact ⟨by simp [chosen.selected], chosen.unsettled⟩
  | consumeOTP token other =>
    cases settles
    obtain ⟨hash, chosen, _⟩ := guarded
    exact ⟨by simp [chosen.selected], chosen.unsettled⟩
  | _ => cases settles

include guarded calling in
theorem wrong_counts (selected : (id, hash) ∈ selections (past trace i))
    (wrong : Wrong env (asked i) hash) : op = .addAttempt id := by
  rw [calling] at wrong
  cases op with
  | selectOTP email =>
    rw [guarded.1] at selected
    cases selected
  | addAttempt other =>
    obtain ⟨otherHash, chosen⟩ := guarded
    rw [chosen.selected, mem_singleton] at selected
    cases selected
    rfl
  | consumeOTP token other =>
    obtain ⟨otherHash, chosen, right⟩ := guarded
    rw [chosen.selected, mem_singleton] at selected
    cases selected
    exact absurd wrong right
  | _ => exact absurd wrong (guarded id hash selected)

include calm in
theorem nobody_verifying (selected : Event.selected ⟨op, (exec choice db op).1⟩ = some (id, hash))
    (j : Nat) : ¬ Verifying trace j id := by
  intro verifying
  obtain ⟨email, rfl, answered⟩ := selected_iff.mp selected
  simp only [Calm, answered] at calm
  obtain ⟨event, done⟩ := verifying.exists_entry
  exact calm _ done verifying

include unexpired in
theorem unexpired_step {j : Nat} (verifying : Verifying trace j id)
    (found : db.rows.lookup id = some row) (inTime : db.now < row.expiresAt) :
    choice.now < row.expiresAt := by
  obtain ⟨event, done⟩ := verifying.exists_entry
  exact unexpired _ done (id, row) ((mem_entries_iff ..).mpr found) verifying inTime

include guarded sound in
theorem unsettled_of_verifying {j : Nat} (verifying : Verifying trace j id)
    (own : j = i → op.settles = none) : op.settles ≠ some id := by
  intro settles
  rw [own (sound.alone id j i verifying (settler_verifying guarded settles))] at settles
  cases settles

include guarded calm unexpired sound in
theorem usable_step {j : Nat}
    (verifying : Verifying (trace ++ [(i, ⟨op, (exec choice db op).1⟩)]) j id) :
    ∃ row, (exec choice db op).2.rows.lookup id = some row ∧ row.consumedAt = none ∧
      (exec choice db op).2.now < row.expiresAt := by
  rw [exec_now]
  rcases verifying_concat verifying with ⟨before, own⟩ | ⟨_, hash, selected⟩
  · obtain ⟨row, found, unconsumed, inTime⟩ := sound.usable j id before
    obtain ⟨later, foundLater, same⟩ := row_kept choice op found
    rw [same (unsettled_of_verifying guarded sound before own)] at foundLater
    exact ⟨row, foundLater, unconsumed, unexpired_step unexpired before found inTime⟩
  · obtain ⟨email, rfl, answered⟩ := selected_iff.mp selected
    obtain ⟨row, found, usable, _⟩ := selectOTP_ok answered
    obtain ⟨later, foundLater, same⟩ := row_kept choice (.selectOTP email) found
    rw [same nofun] at foundLater
    exact ⟨row, foundLater, usable.2.1, usable.2.2.1⟩

include calm sound in
theorem alone_step {j k : Nat}
    (first : Verifying (trace ++ [(i, ⟨op, (exec choice db op).1⟩)]) j id)
    (second : Verifying (trace ++ [(i, ⟨op, (exec choice db op).1⟩)]) k id) : j = k := by
  rcases verifying_concat first with ⟨beforeJ, _⟩ | ⟨hereJ, hash, selected⟩
  · rcases verifying_concat second with ⟨beforeK, _⟩ | ⟨_, hash, selected⟩
    · exact sound.alone id j k beforeJ beforeK
    · exact absurd beforeJ (nobody_verifying calm selected j)
  · rcases verifying_concat second with ⟨beforeK, _⟩ | ⟨hereK, _⟩
    · exact absurd beforeK (nobody_verifying calm selected k)
    · rw [hereJ, hereK]

include sound in
theorem held_step {j : Nat}
    (selected : (id, hash) ∈ selections (past (trace ++ [(i, ⟨op, (exec choice db op).1⟩)]) j)) :
    ((exec choice db op).2.rows.lookup id).isSome := by
  have before : (db.rows.lookup id).isSome := by
    obtain ⟨event, member, isSelected⟩ := mem_filterMap.mp selected
    rw [mem_past_iff, mem_append, mem_singleton] at member
    rcases member with old | new
    · exact sound.held j id hash (mem_selections old isSelected)
    · grind [selected_iff, selectOTP_ok]
  obtain ⟨row, found⟩ := Option.isSome_iff_exists.mp before
  obtain ⟨later, foundLater, _⟩ := row_kept choice op found
  rw [foundLater]
  rfl

include sound in
theorem wrongGuesses_absent (absent : db.rows.lookup id = none) :
    wrongGuesses env asked trace id = 0 := by
  rw [wrongGuesses, countP_eq_zero]
  rintro ⟨j, event⟩ member wrong
  obtain ⟨hash, selected, _⟩ := (isWrongGuess_iff env _ id event).mp wrong
  have held := sound.held j id hash (mem_selections member selected)
  rw [absent] at held
  cases held

include calm sound in
theorem counted_guess (selected : Event.selected ⟨op, (exec choice db op).1⟩ = some (id, hash))
    (found : db.rows.lookup id = some row) : wrongGuesses env asked trace id ≤ row.attempts := by
  apply (sound.counted id row found).2
  rintro ⟨j, _, verifying, _⟩
  exact nobody_verifying calm selected j verifying

include guarded calling calm sound in
theorem counted_settled (settles : op.settles = some id)
    (found : (exec choice db op).2.rows.lookup id = some row) :
    wrongGuesses env asked trace id ≤ row.attempts := by
  have verifying := settler_verifying guarded settles
  obtain ⟨before, foundBefore, _⟩ := sound.usable i id verifying
  obtain ⟨atMostOne, noneLeft⟩ := sound.counted id before foundBefore
  cases op with
  | addAttempt other =>
    cases settles
    have takesEffect : ¬ (choice.failure.isSome = true ∧ choice.applied = false) := by
      rintro ⟨failed, unapplied⟩
      rcases calm with works | applied
      · rw [works] at failed
        cases failed
      · rw [applied] at unapplied
        cases unapplied
    simp [exec, Choice.keep, takesEffect, addAttempt, lookup_updateRow, foundBefore] at found
    subst found
    exact atMostOne
  | consumeOTP token other =>
    cases settles
    have sameAttempts : row.attempts = before.attempts := by
      rcases keep_cases choice db.rows (consumeOTP choice.now db.rows token id) with same | done
      · rw [exec, same, foundBefore, Option.some.injEq] at found
        rw [found]
      · rw [exec, done, consumeOTP, lookup_updateRow, if_pos rfl, foundBefore] at found
        cases found
        rfl
    rw [sameAttempts]
    apply noneLeft
    rintro ⟨j, hash, pending, selected, wrong⟩
    obtain rfl : j = i := sound.alone id j i pending verifying
    cases wrong_counts guarded calling selected wrong
  | _ => cases settles

include guarded calling in
theorem wrongPending_step (unsettled : op.settles ≠ some id)
    (guess : WrongPending env asked trace id ∨
      isWrongGuess env (asked i) id ⟨op, (exec choice db op).1⟩ = true) :
    WrongPending env asked (trace ++ [(i, ⟨op, (exec choice db op).1⟩)]) id := by
  rcases guess with ⟨j, hash, verifying, selected, wrong⟩ | guess
  · have apart : i ≠ j := by
      rintro rfl
      rw [wrong_counts guarded calling selected wrong] at unsettled
      exact unsettled rfl
    refine ⟨j, hash, by rwa [Verifying, past_concat_other apart], ?_, wrong⟩
    rwa [past_concat_other apart]
  · obtain ⟨hash, selected, wrong⟩ := (isWrongGuess_iff env _ id _).mp guess
    obtain ⟨email, rfl, _⟩ := selected_iff.mp selected
    have isSelected : (id, hash) ∈ selections
        (past (trace ++ [(i, ⟨.selectOTP email, (exec choice db (.selectOTP email)).1⟩)]) i) := by
      rw [selections_concat, selected]
      simp
    refine ⟨i, hash, ⟨mem_map.mpr ⟨_, isSelected, rfl⟩, ?_⟩, isSelected, wrong⟩
    rw [settlements_concat, guarded.2]
    rfl

include guarded calling calm sound in
theorem counted_step (found : (exec choice db op).2.rows.lookup id = some row) :
    wrongGuesses env asked (trace ++ [(i, ⟨op, (exec choice db op).1⟩)]) id ≤ row.attempts + 1 ∧
      (¬ WrongPending env asked (trace ++ [(i, ⟨op, (exec choice db op).1⟩)]) id →
        wrongGuesses env asked (trace ++ [(i, ⟨op, (exec choice db op).1⟩)]) id ≤ row.attempts) := by
  rw [wrongGuesses_concat]
  by_cases settles : op.settles = some id
  · have counted := counted_settled guarded calling calm sound settles found
    have noGuess : ¬ isWrongGuess env (asked i) id ⟨op, (exec choice db op).1⟩ = true := by
      intro guess
      obtain ⟨hash, selected, _⟩ := (isWrongGuess_iff env _ id _).mp guess
      obtain ⟨email, rfl, _⟩ := selected_iff.mp selected
      cases settles
    rw [if_neg noGuess]
    exact ⟨by omega, fun _ => counted⟩
  · by_cases guess : isWrongGuess env (asked i) id ⟨op, (exec choice db op).1⟩ = true
    · rw [if_pos guess]
      have pending := wrongPending_step guarded calling settles (.inr guess)
      obtain ⟨hash, selected, _⟩ := (isWrongGuess_iff env _ id _).mp guess
      obtain ⟨email, rfl, answered⟩ := selected_iff.mp selected
      obtain ⟨before, foundBefore, _⟩ := selectOTP_ok answered
      obtain ⟨later, foundLater, same⟩ := row_kept choice (.selectOTP email) foundBefore
      rw [same settles, found, Option.some.injEq] at foundLater
      rw [foundLater]
      have counted := counted_guess calm sound selected foundBefore
      exact ⟨by omega, fun nonePending => absurd pending nonePending⟩
    · rw [if_neg guess]
      rcases row_from settles found with foundBefore | absent
      · obtain ⟨atMostOne, noneLeft⟩ := sound.counted id row foundBefore
        grind [wrongPending_step]
      · rw [wrongGuesses_absent sound absent]
        exact ⟨Nat.zero_le _, fun _ => Nat.zero_le _⟩

include calm sound in
theorem bounded_step (id : String) :
    wrongGuesses env asked (trace ++ [(i, ⟨op, (exec choice db op).1⟩)]) id ≤ maxOTPAttempts := by
  rw [wrongGuesses_concat]
  split_ifs with guess
  · obtain ⟨hash, selected, _⟩ := (isWrongGuess_iff env _ id _).mp guess
    obtain ⟨email, same, answered⟩ := selected_iff.mp selected
    obtain ⟨row, found, usable, _⟩ := selectOTP_ok answered
    have counted := counted_guess calm sound selected found
    have fewer := usable.2.2.2
    omega
  · exact sound.bounded id

include guarded unexpired sound in
theorem taken_step : Taken (fun id event => Event.consumed event = some id) Consumed
    (exec choice db op).2 (trace ++ [(i, ⟨op, (exec choice db op).1⟩)]) := by
  have unspent : ∀ id, op.settles = some id → ¬ Consumed id db := by
    rintro id settles ⟨row, consumed, found, isConsumed, _⟩
    obtain ⟨other, foundOther, unconsumed, _⟩ :=
      sound.usable i id (settler_verifying guarded settles)
    grind
  apply sound.taken.concat
  · intro id consumed
    obtain ⟨token, rfl, works⟩ := consumed_iff.mp consumed
    have verifying := settler_verifying guarded (rfl : Op.settles (.consumeOTP token id) = some id)
    obtain ⟨row, found, _, inTime⟩ := sound.usable i id verifying
    have stillInTime := unexpired_step unexpired verifying found inTime
    refine ⟨unspent id rfl, { row with consumedAt := some choice.now, token := some token },
      choice.now, ?_, rfl, stillInTime⟩
    simp [exec, Choice.keep, works, consumeOTP, lookup_updateRow, found]
  · rintro id ⟨row, consumed, found, isConsumed, inTime⟩
    obtain ⟨later, foundLater, same⟩ := row_kept choice op found
    rw [same fun settles => unspent id settles ⟨row, consumed, found, isConsumed, inTime⟩]
      at foundLater
    exact ⟨row, consumed, foundLater, isConsumed, inTime⟩

include guarded calling calm unexpired sound in
theorem sound_step : Sound env asked (exec choice db op).2
    (trace ++ [(i, ⟨op, (exec choice db op).1⟩)]) where
  held := fun _ _ _ => held_step sound
  alone := fun _ _ _ => alone_step calm sound
  usable := fun _ _ => usable_step guarded calm unexpired sound
  counted := fun _ _ => counted_step guarded calling calm sound
  bounded := bounded_step calm sound
  taken := taken_step guarded unexpired sound

end

theorem sound_nil (db : Database) : Sound env (fun _ => none) db [] where
  held := nofun
  alone := nofun
  usable := nofun
  counted := fun _ _ _ => ⟨Nat.zero_le _, fun _ => Nat.zero_le _⟩
  bounded := fun _ => Nat.zero_le _
  taken := taken_nil

theorem sound_agree (asked other : Nat → Option Request) (db : Database)
    (trace : List Entry) (agree : ∀ entry ∈ trace, other entry.1 = asked entry.1)
    (sound : Sound env asked db trace) : Sound env other db trace := by
  have sameGuesses : ∀ id, wrongGuesses env other trace id = wrongGuesses env asked trace id := by
    intro id
    apply countP_congr
    intro entry member
    rw [agree entry member]
  refine ⟨sound.held, sound.alone, sound.usable, ?_, ?_, sound.taken⟩
  · intro id row found
    rw [sameGuesses]
    obtain ⟨atMostOne, noneLeft⟩ := sound.counted id row found
    refine ⟨atMostOne, fun nonePending => noneLeft ?_⟩
    rintro ⟨i, hash, verifying, selected, wrong⟩
    obtain ⟨event, done⟩ := verifying.exists_entry
    exact nonePending ⟨i, hash, verifying, selected, by rw [agree _ done]; exact wrong⟩
  · intro id
    rw [sameGuesses]
    exact sound.bounded id

theorem protected_of_sound {env : Env} {server : Server}
    (sound : Sound env server.requestAt server.world server.trace) : Protected env server where
  once := by
    rintro id i j ⟨_, first, doneI, takesI⟩ ⟨_, second, doneJ, takesJ⟩
    rw [mem_past_iff] at doneI doneJ
    exact congrArg Prod.fst (sound.taken.eq doneI doneJ takesI takesJ)
  guesses := sound.bounded
  inTime := by
    rintro id i ⟨_, event, done, takes⟩
    rw [mem_past_iff] at done
    exact sound.taken.closed id _ done takes

/-- In every interleaving of any requests whose steps are undisturbed, every passcode is protected
in every state. -/
theorem passcodes_protected (env : Env) (db : Database) (actions : List Action)
    (undisturbed : ∀ visit ∈ visits (serve env) (initial db) actions, Undisturbed visit.1 visit.2) :
    ∀ reached ∈ states (serve env) (initial db) actions, Protected env reached := by
  intro reached member
  have invariant := history_invariant exec
    (keeps_handle env) (fun db trace choice op => Unexpired choice db trace ∧ Calm choice db trace op)
    (Sound env) (sound_agree env)
    (fun _ _ _ _ _ _ _ calling guarded allowed sound =>
      sound_step guarded calling allowed.2 allowed.1 sound)
    db (sound_nil env db) actions ?_
  · exact protected_of_sound (invariant reached member).2
  · rintro visit isVisit i choice request op next isStep calling
    have allowed := undisturbed visit isVisit
    simpa [isStep, Undisturbed, calling] using allowed

def plainEnv : Env where
  sha256Hex := id
  toLower := id
  sesConfigured := true

def noPasscodes : Database where
  rows := ∅

def issue : List Action :=
  .spawn (.requestOTP (some "client@example.com")) ::
    List.replicate 3 (.step 0 { newID := "otp-1", digits := [1, 2, 3, 4, 5, 6] })

def guess (code : String) : Action := .spawn (.verifyOTP (some ("client@example.com", code)))

def steps (i count : Nat) : List Action := List.replicate count (.step i { token := "token" })

def served (actions : List Action) : Server := run (serve plainEnv) (initial noPasscodes) actions

/-- A wrong guess, and the right one after it has been counted. -/
def guessInTurn : List Action :=
  issue ++ guess "000000" :: guess "123456" :: steps 1 2 ++ steps 2 4

theorem passcode_protected_in_turn :
    (∀ visit ∈ visits (serve plainEnv) (initial noPasscodes) guessInTurn,
        Undisturbed visit.1 visit.2) ∧
      Exchanged (served guessInTurn) 2 "otp-1" ∧ Protected plainEnv (served guessInTurn) := by
  have undisturbed : ∀ visit ∈ visits (serve plainEnv) (initial noPasscodes) guessInTurn,
      Undisturbed visit.1 visit.2 := by
    decide +kernel
  refine ⟨undisturbed, ⟨⟨.verifyOTP (some ("client@example.com", "123456")), "token",
    onboardOTPTTL, by decide +kernel⟩, by decide +kernel⟩, ?_⟩
  exact passcodes_protected plainEnv noPasscodes guessInTurn undisturbed _ run_mem_states

/-- Both requests select the passcode before either consumes it. -/
def guessTwiceAtOnce : List Action :=
  issue ++ guess "123456" :: guess "123456" :: steps 1 1 ++ steps 2 1 ++ steps 1 3 ++ steps 2 3

/-- Six requests select the passcode before any of them counts its guess. -/
def guessSixAtOnce : List Action :=
  issue ++ List.replicate 6 (guess "000000") ++
    (steps 1 1 ++ steps 2 1 ++ steps 3 1 ++ steps 4 1 ++ steps 5 1 ++ steps 6 1)

theorem passcode_unprotected_at_once :
    (Exchanged (served guessTwiceAtOnce) 1 "otp-1" ∧
        Exchanged (served guessTwiceAtOnce) 2 "otp-1") ∧
      maxOTPAttempts < wrongGuesses plainEnv (served guessSixAtOnce).requestAt
        (served guessSixAtOnce).trace "otp-1" ∧
      ¬ Protected plainEnv (served guessTwiceAtOnce) := by
  have exchanged : ∀ i, i = 1 ∨ i = 2 → Exchanged (served guessTwiceAtOnce) i "otp-1" := by
    rintro i (rfl | rfl) <;>
      exact ⟨⟨.verifyOTP (some ("client@example.com", "123456")), "token", onboardOTPTTL,
        by decide +kernel⟩, by decide +kernel⟩
  have first := exchanged 1 (.inl rfl)
  have second := exchanged 2 (.inr rfl)
  refine ⟨⟨first, second⟩, by decide +kernel, fun isProtected => ?_⟩
  exact absurd (isProtected.once "otp-1" 1 2 first second) (by decide)

end ManagementPlane.Onboard
