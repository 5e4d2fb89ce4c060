import ManagementPlane.Security.Commands

/-!
# Commands execute at most once and only as issued

The history of calls determines every answer of `VerifyCommand`: it is valid exactly when the
values presented are those of a command issued before, its time is not over, and no verification
of it has been answered valid before (`Decided`). That takes an invariant that ties the command
table, the nonce set and the key table to the history (`Consistent`).

Command ids and nonces are drawn fresh, and the truncated digests that name the rotated keys tell
these keys apart.
-/

namespace ManagementPlane.Security.Commands

open Interleave Policy Runs Tables List Option

abbrev CommandPool := Pool World Request Op Op.Ans Reply

def Event.issued : Event → Option SignedCommand
  | ⟨.storeCommand cmd, _⟩ => some cmd
  | _ => none

def Event.drawn : Event → Option Drawn
  | ⟨.draw, .ok drawn⟩ => some drawn
  | _ => none

def Event.installed : Event → Option (List UInt8)
  | ⟨.installKey _ seed, _⟩ => some seed
  | _ => none

def Event.executes (id : String) : Event → Prop
  | ⟨.verifyCommand req, answer⟩ => req.commandID = id ∧ answer.1.valid = true
  | _ => False

/-- The values of a command are presented before it has expired; a command expires when the clock
is after its `ExpiresAt`. -/
structure Presented (cmd : SignedCommand) (req : CommandVerifyRequest) (now : Time) : Prop where
  id : req.commandID = cmd.id
  payloadHash : req.payloadHash = cmd.payloadHash
  signature : req.signature = cmd.signature
  nonce : req.nonce = cmd.nonce
  inTime : ¬ cmd.expiresAt < now

def Event.presents (cmd : SignedCommand) : Event → Prop
  | ⟨.verifyCommand req, answer⟩ => Presented cmd req answer.2
  | _ => False

abbrev Entry := Nat × Event

def Issued (trace : List Entry) (cmd : SignedCommand) : Prop :=
  ∃ entry ∈ trace, Event.issued entry.2 = some cmd

def Executed (trace : List Entry) (id : String) : Prop :=
  ∃ entry ∈ trace, Event.executes id entry.2

def drawnIDs (trace : List Entry) : List String :=
  trace.filterMap fun entry => (Event.drawn entry.2).map fun drawn => generateID "cmd" drawn.id

def drawnNonces (trace : List Entry) : List String :=
  trace.filterMap fun entry =>
    (Event.drawn entry.2).map fun drawn => GoHex.encodeToString drawn.nonce

def installedSeeds (trace : List Entry) : List (List UInt8) :=
  trace.filterMap fun entry => Event.installed entry.2

structure Fresh (env : Env) (trace : List Entry) : Prop where
  ids : (drawnIDs trace).Nodup
  nonces : (drawnNonces trace).Nodup
  keyIDs : ∀ a ∈ installedSeeds trace, ∀ b ∈ installedSeeds trace,
    generateKID env "ed25519" (env.publicKey a) = generateKID env "ed25519" (env.publicKey b) →
      env.publicKey a = env.publicKey b

theorem issued_eq_some {event : Event} {cmd : SignedCommand}
    (issued : Event.issued event = some cmd) : event = ⟨.storeCommand cmd, ()⟩ := by
  unfold Event.issued at issued
  split at issued
  · cases issued
    rfl
  · cases issued

theorem fresh_of_append {env : Env} {trace more : List Entry} (fresh : Fresh env (trace ++ more)) :
    Fresh env trace where
  ids := by
    have ids := fresh.ids
    rw [drawnIDs, filterMap_append] at ids
    exact ids.of_append_left
  nonces := by
    have nonces := fresh.nonces
    rw [drawnNonces, filterMap_append] at nonces
    exact nonces.of_append_left
  keyIDs := by
    have keyIDs := fresh.keyIDs
    simp only [installedSeeds, filterMap_append] at keyIDs
    intro a memberA b memberB
    exact keyIDs a (mem_append_left _ memberA) b (mem_append_left _ memberB)

theorem issued_concat (trace : List Entry) (entry : Entry) (cmd : SignedCommand) :
    Issued (trace ++ [entry]) cmd ↔ Issued trace cmd ∨ Event.issued entry.2 = some cmd := by
  simp [Issued, or_and_right, exists_or]

theorem executed_concat (trace : List Entry) (entry : Entry) (id : String) :
    Executed (trace ++ [entry]) id ↔ Executed trace id ∨ Event.executes id entry.2 := by
  simp [Executed, or_and_right, exists_or]

section
variable (env : Env)

/-- A command is stored by an `IssueCommand` that has read a key and drawn, and done nothing else;
a key is installed under the digest of its public part. -/
def Guard : Request → List Event → Op → Prop
  | .issue req issuedBy, past, .storeCommand cmd => ∃ key drawn,
      past = [⟨.activeKey, some key⟩, ⟨.draw, .ok drawn⟩] ∧ cmd = commandOf env req issuedBy key drawn
  | _, _, .storeCommand _ => False
  | _, _, .installKey kid seed => kid = generateKID env "ed25519" (env.publicKey seed)
  | _, _, _ => True

def Post : Request → List Event → Reply → Prop
  | .issue _ _, past, .issued (.ok cmd) => ⟨.storeCommand cmd, ()⟩ ∈ past
  | .verify req, past, .verified response => ∃ now, ⟨.verifyCommand req, (response, now)⟩ ∈ past
  | _, _, _ => True

theorem handle_keeps (request : Request) :
    Keeps (Guard env request) (Post request) (handle env request) [] := by
  cases request with
  | issue req issuedBy =>
    refine keeps_call.mpr ⟨trivial, ?_⟩
    intro found
    cases found with
    | none => trivial
    | some key =>
      refine keeps_call.mpr ⟨trivial, ?_⟩
      intro outcome
      cases outcome with
      | error err => trivial
      | ok drawn =>
        refine keeps_call.mpr ⟨⟨key, drawn, rfl, rfl⟩, ?_⟩
        intro _
        exact mem_append_right _ (mem_singleton_self _)
  | verify req =>
    refine keeps_call.mpr ⟨trivial, ?_⟩
    intro answer
    exact ⟨answer.2, mem_singleton_self _⟩
  | rotateEd25519 =>
    refine keeps_call.mpr ⟨trivial, ?_⟩
    intro outcome
    cases outcome with
    | error err => trivial
    | ok seed =>
      refine keeps_call.mpr ⟨trivial, ?_⟩
      intro outcome
      cases outcome with
      | error err => trivial
      | ok _ => exact keeps_call.mpr ⟨rfl, fun _ => trivial⟩

variable (world : World) (req : CommandVerifyRequest) (now executedAt : Time)

/-- What is behind a valid answer. -/
structure Accepts (cmd : SignedCommand) (key : SigningKey) : Prop where
  found : world.commands.lookup req.commandID = some cmd
  inTime : ¬ cmd.expiresAt < now
  unused : req.nonce ∉ world.nonces
  nonce : req.nonce = cmd.nonce
  payloadHash : req.payloadHash = cmd.payloadHash
  signature : req.signature = cmd.signature
  keyFound : world.keys.codeSvc.keys.lookup cmd.signingKeyID = some key
  verified : env.verify key.publicKey (digestOf cmd.payloadHash)
    (GoHex.decodeString cmd.signature).1 = true

def World.execute (world : World) (req : CommandVerifyRequest) (executedAt : Time) : World :=
  { world with
    nonces := req.nonce :: world.nonces
    commands := updateRow req.commandID
      (fun cmd => { cmd with executed := true, executedAt := some executedAt }) world.commands }

variable {env world req now} in
theorem verifyCommand_of_accepts {cmd : SignedCommand} {key : SigningKey}
    (accepts : Accepts env world req now cmd key) :
    verifyCommand env world req now executedAt =
      ({ valid := true, message := "Command verified — proceed with execution" },
        world.execute req executedAt) := by
  simp [verifyCommand, accepts.found, if_neg accepts.inTime, if_neg accepts.unused,
    if_neg (not_not.mpr accepts.nonce), if_neg (not_not.mpr accepts.payloadHash),
    if_neg (not_not.mpr accepts.signature), accepts.keyFound, if_pos accepts.verified]
  rfl

variable {env world req now} in
theorem verifyCommand_of_refused (refused : ¬ ∃ cmd key, Accepts env world req now cmd key) :
    (verifyCommand env world req now executedAt).1.valid = false ∧
      (verifyCommand env world req now executedAt).2 = world := by
  unfold verifyCommand
  cases found : world.commands.lookup req.commandID with
  | none => exact ⟨rfl, rfl⟩
  | some cmd =>
    dsimp only
    split_ifs with late used nonce hash signature
    iterate 5 exact ⟨rfl, rfl⟩
    cases keyFound : world.keys.codeSvc.keys.lookup cmd.signingKeyID with
    | none => exact ⟨rfl, rfl⟩
    | some key =>
      dsimp only
      split_ifs with verified
      · exact absurd ⟨cmd, key, found, late, used, not_not.mp nonce, not_not.mp hash,
          not_not.mp signature, keyFound, verified⟩ refused
      · exact ⟨rfl, rfl⟩

theorem verifyCommand_keys : (verifyCommand env world req now executedAt).2.keys = world.keys := by
  by_cases accepted : ∃ cmd key, Accepts env world req now cmd key
  · obtain ⟨cmd, key, accepts⟩ := accepted
    rw [verifyCommand_of_accepts executedAt accepts]
    rfl
  · rw [(verifyCommand_of_refused executedAt accepted).2]

theorem verifyCommand_valid_iff :
    (verifyCommand env world req now executedAt).1.valid = true ↔
      ∃ cmd key, Accepts env world req now cmd key := by
  by_cases accepted : ∃ cmd key, Accepts env world req now cmd key
  · grind [verifyCommand_of_accepts]
  · rw [(verifyCommand_of_refused executedAt accepted).1]
    exact iff_of_false Bool.false_ne_true accepted

end

section
variable (env : Env) (root : String)

def HasPublic (world : World) (id : String) (publicKey : List UInt8) : Prop :=
  ∃ key, world.keys.codeSvc.keys.lookup id = some key ∧ key.publicKey = publicKey

/-- A key is the root key or was installed by a rotation, and a key that has been read is still
there to verify with. -/
structure KeysKept (world : World) (trace : List Entry) : Prop where
  known : ∀ id key, world.keys.codeSvc.keys.lookup id = some key →
    key.id = id ∧ key.publicKey = env.publicKey key.seed ∧
      (id = root ∨ ∃ seed ∈ installedSeeds trace,
        id = generateKID env "ed25519" (env.publicKey seed) ∧ key.publicKey = env.publicKey seed)
  read : ∀ k key, (k, (⟨.activeKey, some key⟩ : Event)) ∈ trace →
    HasPublic world key.id (env.publicKey key.seed)

variable (choice : Choice) (world : World) (trace : List Entry) (i : Nat) (op : Op)

theorem codeSvc_exec (other : ∀ kid seed, op ≠ .installKey kid seed) :
    (exec env choice world op).2.keys.codeSvc = world.keys.codeSvc := by
  cases op with
  | installKey kid seed => exact absurd rfl (other kid seed)
  | verifyCommand req => exact congrArg Keys.codeSvc (verifyCommand_keys env world req _ _)
  | _ => rfl

theorem lookup_installed (kid : String) (seed : List UInt8) (id : String) :
    (exec env choice world (.installKey kid seed)).2.keys.codeSvc.keys.lookup id =
      if id = kid then some (signingKey env kid ("jwks-rotated-" ++ kid) seed (choice.clock 4))
      else (world.keys.codeSvc.keys.lookup id).map fun key => { key with active := false } := by
  have lookups := lookup_insert_if
    (updateAll (fun _ key => some { key with active := false }) world.keys.codeSvc.keys) kid id
    (signingKey env kid ("jwks-rotated-" ++ kid) seed (choice.clock 4))
  rw [lookup_updateAll] at lookups
  refine lookups.trans ?_
  cases world.keys.codeSvc.keys.lookup id <;> rfl

theorem guard_install {request : Request} {past : List Event} {kid : String} {seed : List UInt8}
    (guarded : Guard env request past (.installKey kid seed)) :
    kid = generateKID env "ed25519" (env.publicKey seed) := by
  cases request <;> exact guarded

variable {env root choice world trace i op} {request : Request} {past : List Event}
variable (rootApart : ∀ publicKey, root ≠ generateKID env "ed25519" publicKey)
variable (guarded : Guard env request past op)
variable (fresh : Fresh env (trace ++ [(i, ⟨op, (exec env choice world op).1⟩)]))
variable (kept : KeysKept env root world trace)

include rootApart guarded fresh kept

theorem hasPublic_exec (id : String) (publicKey : List UInt8) (has : HasPublic world id publicKey) :
    HasPublic (exec env choice world op).2 id publicKey := by
  obtain ⟨key, found, rfl⟩ := has
  by_cases install : ∃ kid seed, op = .installKey kid seed
  · obtain ⟨kid, seed, rfl⟩ := install
    have named := guard_install env guarded
    rw [HasPublic, lookup_installed]
    by_cases here : id = kid
    · rw [if_pos here]
      refine ⟨_, rfl, ?_⟩
      obtain ⟨_, _, isRoot | ⟨old, member, oldNamed, oldPublic⟩⟩ := kept.known id key found
      · exact absurd (isRoot.symm.trans (here.trans named)) (rootApart _)
      · rw [oldPublic]
        refine fresh.keyIDs seed ?_ old ?_ (by rw [← named, ← oldNamed, here])
        · simp [installedSeeds, Event.installed]
        · rw [installedSeeds, filterMap_append]
          exact mem_append_left _ member
    · rw [if_neg here, found]
      exact ⟨_, rfl, rfl⟩
  · push Not at install
    rw [HasPublic, codeSvc_exec env choice world op install]
    exact ⟨key, found, rfl⟩

theorem keysKept_exec :
    KeysKept env root (exec env choice world op).2
      (trace ++ [(i, ⟨op, (exec env choice world op).1⟩)]) where
  known := by
    intro id key found
    have stays (seed : List UInt8) (member : seed ∈ installedSeeds trace) :
        seed ∈ installedSeeds (trace ++ [(i, ⟨op, (exec env choice world op).1⟩)]) := by
      rw [installedSeeds, filterMap_append]
      exact mem_append_left _ member
    by_cases install : ∃ kid seed, op = .installKey kid seed
    · obtain ⟨kid, seed, rfl⟩ := install
      rw [lookup_installed] at found
      split_ifs at found with here
      · cases found
        have new : seed ∈ installedSeeds
            (trace ++ [(i, ⟨.installKey kid seed, (exec env choice world _).1⟩)]) := by
          simp [installedSeeds, Event.installed]
        exact ⟨here.symm, rfl, .inr ⟨seed, new, here.trans (guard_install env guarded), rfl⟩⟩
      · obtain ⟨old, foundOld, rfl⟩ := map_eq_some_iff.mp found
        obtain ⟨named, isPublic, origin⟩ := kept.known id old foundOld
        refine ⟨named, isPublic, origin.imp_right ?_⟩
        rintro ⟨seed, member, rest⟩
        exact ⟨seed, stays seed member, rest⟩
    · push Not at install
      rw [codeSvc_exec env choice world op install] at found
      obtain ⟨named, isPublic, origin⟩ := kept.known id key found
      refine ⟨named, isPublic, origin.imp_right ?_⟩
      rintro ⟨seed, member, rest⟩
      exact ⟨seed, stays seed member, rest⟩
  read := by
    intro k key member
    rw [mem_append, mem_singleton, Prod.mk.injEq] at member
    apply hasPublic_exec rootApart guarded fresh kept
    rcases member with old | ⟨_, new⟩
    · exact kept.read k key old
    · obtain ⟨opEq, answered⟩ :=
        (event_eq_iff (fun op => (exec env choice world op).1) op .activeKey (some key)).mp new.symm
      obtain ⟨named, isPublic, _⟩ := kept.known world.keys.codeSvc.activeKey key answered
      exact ⟨key, by rw [named]; exact answered, isPublic⟩

end

section
variable (env : Env)

def Made (trace : List Entry) (k : Nat) (cmd : SignedCommand) : Prop :=
  ∃ req issuedBy key drawn, (k, (⟨.activeKey, some key⟩ : Event)) ∈ trace ∧
    (k, (⟨.draw, .ok drawn⟩ : Event)) ∈ trace ∧ cmd = commandOf env req issuedBy key drawn

/-- A command is made by one call from one draw, so no two of them share an id or a nonce. -/
structure CommandsMade (trace : List Entry) : Prop where
  made : ∀ k cmd, (k, (⟨.storeCommand cmd, ()⟩ : Event)) ∈ trace → Made env trace k cmd
  apart : trace.Pairwise fun first second => ∀ old cmd, Event.issued first.2 = some old →
    Event.issued second.2 = some cmd → old.id ≠ cmd.id ∧ old.nonce ≠ cmd.nonce

variable {env} {trace : List Entry} {cmd : SignedCommand} {request : Request}

theorem CommandsMade.unique (commands : CommandsMade env trace)
    {other : SignedCommand} (issued : Issued trace cmd) (otherIssued : Issued trace other)
    (same : cmd.id = other.id ∨ cmd.nonce = other.nonce) : cmd = other := by
  obtain ⟨entry, member, isIssued⟩ := issued
  obtain ⟨otherEntry, otherMember, otherIsIssued⟩ := otherIssued
  by_cases sameEntry : entry = otherEntry
  · grind
  · have symmetric : Std.Symm fun first second : Entry => ∀ old cmd, Event.issued first.2 = some old →
        Event.issued second.2 = some cmd → old.id ≠ cmd.id ∧ old.nonce ≠ cmd.nonce := by
      refine ⟨fun first second apart old cmd left right => ?_⟩
      grind
    obtain ⟨ids, nonces⟩ :=
      commands.apart.forall member otherMember sameEntry cmd other isIssued otherIsIssued
    grind

theorem guard_store {past : List Event} (guarded : Guard env request past (.storeCommand cmd)) :
    ∃ req issuedBy key drawn, request = .issue req issuedBy ∧
      past = [⟨.activeKey, some key⟩, ⟨.draw, .ok drawn⟩] ∧
      cmd = commandOf env req issuedBy key drawn := by
  cases request with
  | issue req issuedBy =>
    obtain ⟨key, drawn, pastEq, cmdEq⟩ := guarded
    exact ⟨req, issuedBy, key, drawn, rfl, pastEq, cmdEq⟩
  | verify req | rotateEd25519 => exact guarded.elim

/-- A value that a command takes from its draw is not the one of an earlier command: whoever drew it
has stored nothing yet. -/
theorem value_unused {value : SignedCommand → String} {drawnValue : Drawn → String}
    (taken : ∀ req issuedBy key drawn,
      value (commandOf env req issuedBy key drawn) = drawnValue drawn) {i : Nat}
    (distinct : (trace.filterMap fun entry => (Event.drawn entry.2).map drawnValue).Nodup)
    (guarded : Guard env request (past trace i) (.storeCommand cmd))
    (commands : ∀ k cmd, (k, ⟨.storeCommand cmd, ()⟩) ∈ trace → Made env trace k cmd)
    {entry : Entry} (member : entry ∈ trace) {old : SignedCommand}
    (issued : Event.issued entry.2 = some old) : value old ≠ value cmd := by
  obtain ⟨req, issuedBy, key, drawn, _, pastEq, rfl⟩ := guard_store guarded
  rw [taken]
  intro same
  refine stored_fresh (fun event => (Event.drawn event).map drawnValue)
    (fun event => (Event.issued event).map value) distinct ?_ (i := i)
    ⟨⟨.draw, .ok drawn⟩, by simp [pastEq], rfl⟩ ?_ entry member
    (by rw [issued, map_some, same])
  · rintro ⟨k, event⟩ done x stored
    obtain ⟨earlier, isIssued, rfl⟩ := map_eq_some_iff.mp stored
    obtain rfl := issued_eq_some isIssued
    obtain ⟨_, _, _, drew, _, drewDone, rfl⟩ := commands k earlier done
    exact ⟨_, drewDone, by rw [taken]; rfl⟩
  · intro event done
    rw [pastEq, mem_cons, mem_singleton] at done
    rcases done with rfl | rfl <;> rfl

theorem commandsMade_concat {i : Nat} {event : Event}
    (guarded : Guard env request (past trace i) event.op)
    (fresh : Fresh env (trace ++ [(i, event)])) (commands : CommandsMade env trace) :
    CommandsMade env (trace ++ [(i, event)]) where
  made := by
    intro k cmd member
    rw [mem_append, mem_singleton, Prod.mk.injEq] at member
    rcases member with old | ⟨rfl, rfl⟩
    · obtain ⟨req, issuedBy, key, drawn, read, drew, cmdEq⟩ := commands.made k cmd old
      exact ⟨req, issuedBy, key, drawn, mem_append_left _ read, mem_append_left _ drew, cmdEq⟩
    · obtain ⟨req, issuedBy, key, drawn, _, pastEq, cmdEq⟩ := guard_store guarded
      refine ⟨req, issuedBy, key, drawn, mem_append_left _ ?_, mem_append_left _ ?_, cmdEq⟩
      · rw [← mem_past_iff, pastEq]
        simp
      · rw [← mem_past_iff, pastEq]
        simp
  apart := by
    simp only [pairwise_append, pairwise_singleton, mem_singleton, true_and, forall_eq]
    refine ⟨commands.apart, ?_⟩
    intro entry member old cmd oldIssued cmdIssued
    obtain rfl := issued_eq_some cmdIssued
    obtain ⟨ids, nonces, _⟩ := fresh_of_append fresh
    exact ⟨value_unused (fun _ _ _ _ => rfl) ids guarded commands.made member oldIssued,
      value_unused
        (fun _ _ _ _ => rfl) nonces guarded commands.made member oldIssued⟩

/-- Every verification is answered as the history before it says. -/
def Decided (trace : List Entry) : Prop :=
  Stepwise (fun early entry => ∀ req answer, entry.2 = ⟨.verifyCommand req, answer⟩ →
    (answer.1.valid = true ↔
      ∃ cmd, Issued early cmd ∧ Presented cmd req answer.2 ∧ ¬ Executed early cmd.id)) trace

theorem executes_iff (id : String) (event : Event) :
    Event.executes id event ↔ ∃ req answer, event = ⟨.verifyCommand req, answer⟩ ∧
      req.commandID = id ∧ answer.1.valid = true := by
  constructor
  · intro executes
    unfold Event.executes at executes
    grind
  · rintro ⟨req, answer, rfl, executes⟩
    exact executes

theorem Decided.issued {early late : List Entry} {entry : Entry} {id : String}
    (decided : Decided trace) (split : trace = early ++ entry :: late)
    (executes : Event.executes id entry.2) :
    ∃ cmd, Issued early cmd ∧ cmd.id = id ∧ Event.presents cmd entry.2 := by
  obtain ⟨req, answer, event, named, valid⟩ := (executes_iff id entry.2).mp executes
  obtain ⟨cmd, issued, presented, _⟩ := (decided early entry late split req answer event).mp valid
  refine ⟨cmd, issued, presented.id.symm.trans named, ?_⟩
  rwa [event]

theorem issued_mono {more : List Entry} (issued : Issued trace cmd) :
    Issued (trace ++ more) cmd := by
  obtain ⟨entry, member, isIssued⟩ := issued
  exact ⟨entry, mem_append_left _ member, isIssued⟩

theorem Decided.executed {id : String} (decided : Decided trace)
    (executed : Executed trace id) : ∃ cmd, Issued trace cmd ∧ cmd.id = id := by
  obtain ⟨entry, member, executes⟩ := executed
  obtain ⟨early, late, split⟩ := append_of_mem member
  obtain ⟨cmd, issued, named, _⟩ := decided.issued split executes
  rw [split]
  exact ⟨cmd, issued_mono issued, named⟩

end

/-! ## The command table -/

section

def SignedCommand.asIssued (cmd : SignedCommand) : SignedCommand :=
  { cmd with executed := false, executedAt := none }

/-- The table holds the commands issued, and the nonces are those of the commands executed. -/
structure TableKept (world : World) (trace : List Entry) : Prop where
  table : ∀ id cmd, (world.commands.lookup id).map SignedCommand.asIssued = some cmd ↔
    cmd.id = id ∧ Issued trace cmd
  nonces : ∀ nonce, nonce ∈ world.nonces ↔
    ∃ cmd, Issued trace cmd ∧ cmd.nonce = nonce ∧ Executed trace cmd.id

variable {env : Env} {root : String} {world : World} {trace : List Entry}

theorem TableKept.found (kept : TableKept world trace) {id : String} {held : SignedCommand}
    (found : world.commands.lookup id = some held) : held.id = id ∧ Issued trace held.asIssued := by
  apply (kept.table id held.asIssued).mp
  rw [found]
  rfl

variable {cmd : SignedCommand}

theorem TableKept.held (kept : TableKept world trace) (issued : Issued trace cmd) :
    ∃ held, world.commands.lookup cmd.id = some held ∧ held.asIssued = cmd :=
  map_eq_some_iff.mp ((kept.table cmd.id cmd).mpr ⟨rfl, issued⟩)

theorem issued_verifies (keys : KeysKept env root world trace) (commands : CommandsMade env trace)
    (issued : Issued trace cmd) :
    ∃ key, world.keys.codeSvc.keys.lookup cmd.signingKeyID = some key ∧
      env.verify key.publicKey (digestOf cmd.payloadHash) (GoHex.decodeString cmd.signature).1 =
        true := by
  obtain ⟨⟨k, event⟩, member, isIssued⟩ := issued
  obtain rfl := issued_eq_some isIssued
  obtain ⟨req, issuedBy, key, drawn, read, _, rfl⟩ := commands.made k cmd member
  obtain ⟨later, found, isPublic⟩ := keys.read k key read
  refine ⟨later, found, ?_⟩
  simp [commandOf, GoHex.decodeString_encodeToString, isPublic]
  exact env.verify_sign ..

theorem accepts_iff (keys : KeysKept env root world trace) (commands : CommandsMade env trace)
    (kept : TableKept world trace) (req : CommandVerifyRequest) (now : Time) :
    (∃ cmd key, Accepts env world req now cmd key) ↔
      ∃ cmd, Issued trace cmd ∧ Presented cmd req now ∧ ¬ Executed trace cmd.id := by
  constructor
  · rintro ⟨held, key, accepts⟩
    obtain ⟨named, issued⟩ := kept.found accepts.found
    refine ⟨held.asIssued, issued, ?_, ?_⟩
    · exact ⟨named.symm, accepts.payloadHash, accepts.signature, accepts.nonce, accepts.inTime⟩
    · intro executed
      apply accepts.unused
      exact (kept.nonces req.nonce).mpr ⟨held.asIssued, issued, accepts.nonce.symm, executed⟩
  · rintro ⟨cmd, issued, presented, notExecuted⟩
    obtain ⟨held, found, rfl⟩ := kept.held issued
    obtain ⟨key, keyFound, verified⟩ := issued_verifies keys commands issued
    refine ⟨held, key, ?_, presented.inTime, ?_, presented.nonce, presented.payloadHash,
      presented.signature, keyFound, verified⟩
    · rwa [presented.id]
    · intro used
      obtain ⟨other, otherIssued, sameNonce, executed⟩ := (kept.nonces req.nonce).mp used
      have same := commands.unique otherIssued issued (.inr (sameNonce.trans presented.nonce))
      rw [same] at executed
      exact notExecuted executed

variable {choice : Choice} {i : Nat} {op : Op}

variable (env world choice) in
theorem quiet_exec (notStore : ∀ cmd, op ≠ .storeCommand cmd)
    (notVerify : ∀ req, op ≠ .verifyCommand req) :
    (exec env choice world op).2.commands = world.commands ∧
      (exec env choice world op).2.nonces = world.nonces ∧
      Event.issued ⟨op, (exec env choice world op).1⟩ = none ∧
      ∀ id, ¬ Event.executes id ⟨op, (exec env choice world op).1⟩ := by
  cases op with
  | storeCommand cmd => exact absurd rfl (notStore cmd)
  | verifyCommand req => exact absurd rfl (notVerify req)
  | _ => exact ⟨rfl, rfl, rfl, fun _ => id⟩

variable {request : Request} (guarded : Guard env request (past trace i) op)
variable (fresh : Fresh env (trace ++ [(i, ⟨op, (exec env choice world op).1⟩)]))
variable (keys : KeysKept env root world trace) (commands : CommandsMade env trace)
variable (kept : TableKept world trace) (decided : Decided trace)

include keys commands kept in
theorem decided_exec (decided : Decided trace) :
    Decided (trace ++ [(i, ⟨op, (exec env choice world op).1⟩)]) := by
  refine (stepwise_concat ..).mpr ⟨decided, ?_⟩
  intro req answer performed
  obtain ⟨rfl, answered⟩ :=
    (event_eq_iff (fun op => (exec env choice world op).1) op (.verifyCommand req) answer).mp
      performed
  rw [← accepts_iff keys commands kept, ← answered]
  exact verifyCommand_valid_iff env world req ..

include commands kept in
theorem tableKept_verify (req : CommandVerifyRequest) :
    TableKept (exec env choice world (.verifyCommand req)).2
      (trace ++ [(i, ⟨.verifyCommand req, (exec env choice world (.verifyCommand req)).1⟩)]) := by
  have sameIssued (cmd : SignedCommand) : Issued
      (trace ++ [(i, ⟨.verifyCommand req, (exec env choice world (.verifyCommand req)).1⟩)]) cmd ↔
        Issued trace cmd := by
    rw [issued_concat]
    exact or_iff_left (by simp [Event.issued])
  have newExecuted (id : String) : Executed
      (trace ++ [(i, ⟨.verifyCommand req, (exec env choice world (.verifyCommand req)).1⟩)]) id ↔
        Executed trace id ∨ req.commandID = id ∧
          ∃ cmd key, Accepts env world req (choice.clock 0) cmd key := by
    rw [executed_concat, ← verifyCommand_valid_iff env world req _ (choice.clock 1)]
    rfl
  by_cases accepted : ∃ cmd key, Accepts env world req (choice.clock 0) cmd key
  · have after : (exec env choice world (.verifyCommand req)).2 =
        world.execute req (choice.clock 1) := by
      obtain ⟨cmd, key, accepts⟩ := accepted
      exact congrArg Prod.snd (verifyCommand_of_accepts (choice.clock 1) accepts)
    simp [accepted] at newExecuted
    obtain ⟨held, key, accepts⟩ := accepted
    obtain ⟨named, heldIssued⟩ := kept.found accepts.found
    rw [after]
    constructor
    · intro id cmd
      rw [sameIssued, ← kept.table id cmd]
      simp only [World.execute, lookup_updateRow]
      split_ifs
      · cases world.commands.lookup id <;> rfl
      · rfl
    · intro nonce
      simp [World.execute, sameIssued, newExecuted, kept.nonces nonce]
      constructor
      · rintro (rfl | ⟨cmd, issued, isNonce, executed⟩)
        · exact ⟨held.asIssued, heldIssued, accepts.nonce.symm, .inr named.symm⟩
        · exact ⟨cmd, issued, isNonce, .inl executed⟩
      · rintro ⟨cmd, issued, isNonce, executed | here⟩
        · exact .inr ⟨cmd, issued, isNonce, executed⟩
        · have same : cmd = held.asIssued :=
            commands.unique issued heldIssued (.inl (here.symm.trans named.symm))
          left
          rw [← isNonce, same]
          exact accepts.nonce.symm
  · have after : (exec env choice world (.verifyCommand req)).2 = world :=
      (verifyCommand_of_refused (choice.clock 1) accepted).2
    simp [accepted] at newExecuted
    rw [after]
    constructor
    · intro id cmd
      rw [sameIssued]
      exact kept.table id cmd
    · intro nonce
      simp [sameIssued, newExecuted]
      exact kept.nonces nonce

include kept decided in
theorem tableKept_store (isNew : cmd.asIssued = cmd)
    (commands : CommandsMade env (trace ++ [(i, ⟨.storeCommand cmd, ()⟩)])) :
    TableKept (exec env choice world (.storeCommand cmd)).2
      (trace ++ [(i, ⟨.storeCommand cmd, ()⟩)]) := by
  have unknown (old : SignedCommand) (issued : Issued trace old) : old.id ≠ cmd.id := by
    obtain ⟨entry, member, isIssued⟩ := issued
    have apart := (pairwise_append.mp commands.apart).2.2 entry member _
      (mem_singleton_self _) old cmd isIssued rfl
    exact apart.1
  have sameExecuted (id : String) : Executed
      (trace ++ [(i, ⟨.storeCommand cmd, ()⟩)]) id ↔ Executed trace id := by
    rw [executed_concat]
    exact or_iff_left fun executes => executes
  have newIssued (other : SignedCommand) : Issued
      (trace ++ [(i, ⟨.storeCommand cmd, ()⟩)]) other ↔ Issued trace other ∨ cmd = other := by
    rw [issued_concat]
    simp [Event.issued]
  constructor
  · intro id other
    have lookups : (exec env choice world (.storeCommand cmd)).2.commands.lookup id =
        if id = cmd.id then some cmd else world.commands.lookup id := lookup_insert_if ..
    rw [lookups, newIssued]
    split_ifs with here
    · grind
    · rw [kept.table id other]
      grind
  · intro nonce
    simp only [sameExecuted, newIssued]
    refine (kept.nonces nonce).trans ⟨?_, ?_⟩
    · grind
    · rintro ⟨old, issued | rfl, rest⟩
      · exact ⟨old, issued, rest⟩
      · obtain ⟨earlier, issued, named⟩ := decided.executed rest.2
        exact absurd named (unknown earlier issued)

end

/-! ## Every run -/

section
variable (env : Env) (boot : Boot)

structure Consistent (world : World) (trace : List Entry) : Prop where
  keys : KeysKept env (generateID "csk" boot.random) world trace
  commands : CommandsMade env trace
  table : TableKept world trace
  decided : Decided trace

theorem consistent_start : Consistent env boot (start env boot) [] where
  keys := by
    refine ⟨?_, fun k key member => absurd member not_mem_nil⟩
    intro id key found
    simp only [start, boot_codeSvc, newCodeSigningService, lookup_insert_if] at found
    split_ifs at found with here
    · cases found
      exact ⟨here.symm, rfl, .inl here⟩
    · cases found
  commands := ⟨fun k cmd member => absurd member not_mem_nil, List.Pairwise.nil⟩
  table := by
    constructor
    · intro id cmd
      simp [start, Issued]
    · intro nonce
      simp [start, Issued]
  decided := stepwise_nil _

variable {env boot}

theorem consistent_exec {choice : Choice} {world : World} {trace : List Entry} {i : Nat} {op : Op}
    {request : Request} (guarded : Guard env request (past trace i) op)
    (fresh : Fresh env (trace ++ [(i, ⟨op, (exec env choice world op).1⟩)]))
    (inv : Consistent env boot world trace) :
    Consistent env boot (exec env choice world op).2
      (trace ++ [(i, ⟨op, (exec env choice world op).1⟩)]) := by
  have keys := keysKept_exec (fun _ => generateID_ne_generateKID env _ _ _) guarded fresh inv.keys
  have commands := commandsMade_concat guarded fresh inv.commands
  refine ⟨keys, commands, ?_, decided_exec inv.keys inv.commands inv.table inv.decided⟩
  by_cases store : ∃ cmd, op = .storeCommand cmd
  · obtain ⟨cmd, rfl⟩ := store
    obtain ⟨_, _, _, _, _, _, rfl⟩ := guard_store guarded
    exact tableKept_store inv.table inv.decided rfl commands
  · by_cases verifies : ∃ req, op = .verifyCommand req
    · obtain ⟨req, rfl⟩ := verifies
      exact tableKept_verify inv.commands inv.table req
    · push Not at store verifies
      obtain ⟨sameCommands, sameNonces, notIssued, notExecuted⟩ :=
        quiet_exec env world choice store verifies
      constructor
      · intro id cmd
        rw [sameCommands, issued_concat, notIssued, inv.table.table id cmd]
        simp
      · intro nonce
        rw [sameNonces, inv.table.nonces nonce]
        simp [issued_concat, executed_concat, notIssued, notExecuted]

variable (env) in
/-- What the history of every run says about commands. -/
structure OnceAsIssued (pool : CommandPool) : Prop where
  once : ∀ id, pool.trace.Pairwise fun first second =>
    ¬ (Event.executes id first.2 ∧ Event.executes id second.2)
  asIssued : ∀ early j req response now late,
    pool.trace = early ++ (j, ⟨.verifyCommand req, (response, now)⟩) :: late →
    response.valid = true →
    ∃ k cmd, (k, (⟨.storeCommand cmd, ()⟩ : Event)) ∈ early ∧ Presented cmd req now
  first : ∀ early k cmd middle j req response now late,
    pool.trace = early ++ (k, ⟨.storeCommand cmd, ()⟩) ::
      (middle ++ (j, ⟨.verifyCommand req, (response, now)⟩) :: late) →
    Presented cmd req now → (∀ entry ∈ middle, ¬ Event.presents cmd entry.2) →
    response.valid = true
  -- there is one command under an id, and it is the one that the call has answered
  unique : ∀ k cmd l other, (k, (⟨.storeCommand cmd, ()⟩ : Event)) ∈ pool.trace →
    (l, (⟨.storeCommand other, ()⟩ : Event)) ∈ pool.trace → cmd.id = other.id → cmd = other
  made : ∀ k cmd, (k, (⟨.storeCommand cmd, ()⟩ : Event)) ∈ pool.trace →
    ∃ req issuedBy key drawn, pool.requestAt k = some (.issue req issuedBy) ∧
      (k, (⟨.activeKey, some key⟩ : Event)) ∈ pool.trace ∧
      (k, (⟨.draw, .ok drawn⟩ : Event)) ∈ pool.trace ∧ cmd = commandOf env req issuedBy key drawn
  issued : ∀ k req issuedBy cmd,
    pool.answerAt k = some (.issue req issuedBy, .issued (.ok cmd)) →
    (k, (⟨.storeCommand cmd, ()⟩ : Event)) ∈ pool.trace
  verified : ∀ j req response, pool.answerAt j = some (.verify req, .verified response) →
    ∃ now, (j, (⟨.verifyCommand req, (response, now)⟩ : Event)) ∈ pool.trace

variable {world : World} {trace : List Entry} {cmd : SignedCommand}

theorem issued_of_mem {k : Nat}
    (member : (k, ⟨.storeCommand cmd, ()⟩) ∈ trace) : Issued trace cmd :=
  ⟨_, member, rfl⟩

theorem once_of_decided (decided : Decided trace) (id : String) :
    trace.Pairwise fun first second =>
      ¬ (Event.executes id first.2 ∧ Event.executes id second.2) := by
  induction trace using reverseRecOn with
  | nil => exact List.Pairwise.nil
  | append_singleton trace last ih =>
    obtain ⟨before, answered⟩ := (stepwise_concat ..).mp decided
    simp only [pairwise_append, pairwise_singleton, mem_singleton, true_and, forall_eq]
    refine ⟨ih before, ?_⟩
    rintro first member ⟨firstExecutes, lastExecutes⟩
    obtain ⟨req, answer, performed, named, valid⟩ := (executes_iff id last.2).mp lastExecutes
    obtain ⟨cmd, issued, presented, notExecuted⟩ := (answered req answer performed).mp valid
    apply notExecuted
    rw [← presented.id, named]
    exact ⟨first, member, firstExecutes⟩

theorem not_executed_before {early late : List Entry} {k : Nat}
    (commands : CommandsMade env trace) (decided : Decided trace)
    (split : trace = early ++ (k, ⟨.storeCommand cmd, ()⟩) :: late) : ¬ Executed early cmd.id := by
  rintro ⟨entry, member, executes⟩
  obtain ⟨first, rest, earlySplit⟩ := append_of_mem member
  have traceSplit : trace = first ++ entry :: (rest ++ (k, ⟨.storeCommand cmd, ()⟩) :: late) := by
    rw [split, earlySplit, append_assoc, cons_append]
  obtain ⟨old, ⟨stored, storedBefore, isIssued⟩, named, _⟩ := decided.issued traceSplit executes
  have apart := commands.apart
  rw [split] at apart
  have storedEarly : stored ∈ early := by
    rw [earlySplit]
    exact mem_append_left _ storedBefore
  have differ := (pairwise_append.mp apart).2.2 stored storedEarly _ (mem_cons_self ..)
    old cmd isIssued rfl
  exact differ.1 named

theorem first_valid (commands : CommandsMade env trace) (decided : Decided trace)
    {early middle late : List Entry} {k j : Nat} {req : CommandVerifyRequest}
    {response : CommandVerifyResponse} {now : Time}
    (split : trace = early ++ (k, ⟨.storeCommand cmd, ()⟩) ::
      (middle ++ (j, ⟨.verifyCommand req, (response, now)⟩) :: late))
    (presented : Presented cmd req now)
    (isFirst : ∀ entry ∈ middle, ¬ Event.presents cmd entry.2) : response.valid = true := by
  have verifySplit : trace = (early ++ (k, ⟨.storeCommand cmd, ()⟩) :: middle) ++
      (j, ⟨.verifyCommand req, (response, now)⟩) :: late := by
    rw [split, append_assoc, cons_append]
  have storedBefore : Issued (early ++ (k, ⟨.storeCommand cmd, ()⟩) :: middle) cmd :=
    issued_of_mem (mem_append_right _ (mem_cons_self ..))
  refine (decided _ _ _ verifySplit req (response, now) rfl).mpr ⟨cmd, storedBefore, presented, ?_⟩
  rintro ⟨entry, member, executes⟩
  rcases mem_append.mp member with before | after
  · exact not_executed_before commands decided split ⟨entry, before, executes⟩
  · rcases mem_cons.mp after with rfl | between
    · exact executes
    · -- what has been executed in between is this command, so its values were presented
      obtain ⟨first, rest, middleSplit⟩ := append_of_mem between
      have entrySplit : trace = (early ++ (k, ⟨.storeCommand cmd, ()⟩) :: first) ++ entry ::
          (rest ++ (j, ⟨.verifyCommand req, (response, now)⟩) :: late) := by
        rw [split, middleSplit]
        simp
      obtain ⟨other, issued, named, presents⟩ := decided.issued entrySplit executes
      have here : Issued trace cmd := by
        rw [verifySplit]
        exact issued_mono storedBefore
      have same : other = cmd := by
        refine commands.unique ?_ here (.inl named)
        rw [entrySplit]
        exact issued_mono issued
      rw [same] at presents
      exact isFirst entry between presents

theorem commands_execute_once (env : Env) (boot : Boot) (steps : List (Input Request Choice))
    (reached : CommandPool)
    (member : reached ∈ states (step (exec env) (handle env)) (initial (start env boot)) steps)
    (fresh : Fresh env reached.trace) : OnceAsIssued env reached := by
  obtain ⟨kept, consistent⟩ := pool_invariant (exec env) (handle_keeps env) (fun _ _ => True)
    (fun pool => Fresh env pool.trace → Consistent env boot pool.world pool.trace)
    (fun pool request _ inv => inv)
    (fun pool i choice request op next _ _ _ guarded inv fresh =>
      consistent_exec guarded fresh (inv (fresh_of_append fresh)))
    (start env boot) (fun _ => consistent_start env boot) steps (fun _ _ => trivial) reached member
  obtain ⟨_, commands, _, decided⟩ := consistent fresh
  refine ⟨once_of_decided decided, ?_, ?_, ?_, ?_, ?_, ?_⟩
  · intro early j req response now late split valid
    obtain ⟨cmd, ⟨⟨k, event⟩, issuedBefore, isIssued⟩, presented, _⟩ :=
      (decided early _ late split req (response, now) rfl).mp valid
    obtain rfl := issued_eq_some isIssued
    exact ⟨k, cmd, issuedBefore, presented⟩
  · grind [first_valid]
  · intro k cmd l other stored otherStored same
    exact commands.unique (issued_of_mem stored) (issued_of_mem otherStored) (.inl same)
  · intro k cmd stored
    obtain ⟨early, late, split⟩ := append_of_mem stored
    obtain ⟨request, asked, guarded⟩ := pool_guarded (exec env)
      (handle_keeps env) (start env boot) steps reached member early k _ late split
    obtain ⟨req, issuedBy, key, drawn, rfl, pastEq, cmdEq⟩ := guard_store guarded
    have before (event : Event) (done : event ∈ past early k) : (k, event) ∈ reached.trace := by
      grind [mem_past_iff]
    refine ⟨req, issuedBy, key, drawn, asked, before _ ?_, before _ ?_, cmdEq⟩ <;> simp [pastEq]
  · intro k req issuedBy cmd answered
    rw [answerAt_eq_some_iff] at answered
    exact mem_past_iff.mp (kept.keeps k _ answered)
  · intro j req response answered
    rw [answerAt_eq_some_iff] at answered
    obtain ⟨now, member⟩ := kept.keeps j _ answered
    exact ⟨now, mem_past_iff.mp member⟩

end

def demoIssue : IssueCommandRequest := ⟨"tunnel_restart", "*", "go", 10⟩

def demoVerify : CommandVerifyRequest :=
  { commandID := "cmd-0707070707070707"
    payloadHash := "676f"
    signature := "01676f"
    nonce := "09090909090909090909090909090909" }

def demoChoice (now : Time) : Choice where
  nonce := fun _ => 9
  id := some fun _ => 7
  seed := [6]
  clock := fun _ => now

/-- The key is rotated while the command is being issued, and the command is verified twice. -/
def demoSteps : List (Input Request Choice) :=
  [.spawn (.issue demoIssue "admin"), .spawn .rotateEd25519, .step 0 (demoChoice 1),
    .step 1 (demoChoice 2), .step 1 (demoChoice 2), .step 0 (demoChoice 3),
    .step 1 (demoChoice 4), .step 0 (demoChoice 5), .spawn (.verify demoVerify),
    .spawn (.verify demoVerify), .step 3 (demoChoice 6), .step 2 (demoChoice 7)]

def demoPool : CommandPool :=
  run (step (exec demoEnv) (handle demoEnv)) (initial (start demoEnv demoBoot)) demoSteps

theorem command_verified_after_rotation :
    OnceAsIssued demoEnv demoPool ∧
      demoPool.answerAt 3 = some (.verify demoVerify,
        .verified ⟨true, false, "Command verified — proceed with execution"⟩) ∧
      demoPool.answerAt 2 = some (.verify demoVerify,
        .verified ⟨false, false, "Nonce already used (replay detected)"⟩) := by
  refine ⟨?_, by decide +kernel, by decide +kernel⟩
  apply commands_execute_once demoEnv demoBoot demoSteps demoPool run_mem_states
  constructor
  all_goals decide +kernel

end ManagementPlane.Security.Commands
