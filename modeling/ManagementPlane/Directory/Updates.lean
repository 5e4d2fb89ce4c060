import ManagementPlane.Directory.Effects
import ManagementPlane.Directory.Scim

/-!
# Concurrent additions to a group

`PatchGroup` reads the members of a group, edits the list and writes the whole list back in a
later transaction. Requests that add members lose nothing as long as none of them reads the
members while another one is between its read and its end; two requests that read before
either writes lose an addition although both are answered with success.
-/

namespace ManagementPlane.Directory

open GoJson Interleave Runs Tables List

abbrev DirectoryEvent := Event Op Op.Ans

/-- The operations of a PATCH add the members, whatever the group has. An id is never the
empty text. -/
def Adds (operations : List PatchOperation) (added : List String) : Prop :=
  ∀ before after : GroupDraft, operations.foldlM applyGroupPatch before = .ok after →
    ∀ member ≠ "", member ∈ before.members ∨ member ∈ added → member ∈ after.members

variable {member : String}

theorem mem_appendUnique_fold (values result : List String) (isID : member ≠ "") :
    member ∈ values.foldl (fun result value =>
        if value ≠ "" ∧ value ∉ result then result ++ [value] else result) result ↔
      member ∈ result ∨ member ∈ values := by
  induction values generalizing result with
  | nil => simp
  | cons value rest ih =>
    rw [foldl_cons, ih, mem_cons]
    grind

theorem mem_appendUnique (existing values : List String) (isID : member ≠ "") :
    member ∈ appendUnique existing values ↔ member ∈ existing ∨ member ∈ values := by
  rw [appendUnique, mem_appendUnique_fold _ _ isID, mem_append]
  simp

theorem adds_of_add {operation : PatchOperation} {added : List String}
    (op : GoStrings.toLower (GoStrings.trimSpace operation.op) = "add")
    (path : GoStrings.trimSpace operation.path = "members")
    (value : patchMembers operation.value = .ok added) : Adds [operation] added := by
  intro before after patched member isID listed
  have notName : GoStrings.equalFold "members" "displayName" = false := by decide
  have isMembers : GoStrings.equalFold "members" "members" = true := by decide
  have edited : applyGroupPatch before operation =
      .ok { before with members := appendUnique before.members added } := by
    simp [applyGroupPatch, op, path, notName, isMembers, value, patchMemberList, bind, Except.bind,
      pure, Except.pure]
  simp [edited, bind, Except.bind, pure, Except.pure] at patched
  cases patched
  exact (mem_appendUnique _ _ isID).mpr listed

structure Addition where
  operations : List PatchOperation
  added : List String
  adds : Adds operations added

def patches (origin : Origin) (groupID : String) (addition : Addition) : Handled Reply :=
  SCIMHandler.patchGroup origin groupID (some addition.operations)

abbrev Patching := Pool World Addition Op Op.Ans Reply

def Op.readsMembers (groupID : String) : Op → Bool
  | .query (.groupMembers id) => id = groupID
  | _ => false

def Op.writesMembers : Op → Bool
  | .statement (.setGroupMembers ..) => true
  | _ => false

def InWindow (groupID : String) (pool : Patching) (i : Nat) : Prop :=
  Running pool i ∧ ∃ event ∈ past pool.trace i, event.op.readsMembers groupID = true

/-- Nobody reads the members while another request is between its read and its end. -/
def ReadsAlone (groupID : String) (pool : Patching) : Input Addition Choice → Prop
  | .spawn _ => True
  | .step i _ =>
    match pool.threads[i]? with
    | some ⟨_, .call op _⟩ => op.readsMembers groupID = true →
        ∀ j < pool.threads.length, InWindow groupID pool j → j = i
    | _ => True

instance (groupID : String) (pool : Patching) (i : Nat) : Decidable (InWindow groupID pool i) :=
  inferInstanceAs (Decidable (_ ∧ _))

instance (groupID : String) (pool : Patching) (input : Input Addition Choice) :
    Decidable (ReadsAlone groupID pool input) := by
  unfold ReadsAlone
  split
  · infer_instance
  · split <;> infer_instance

/-! ## What a request does -/

def Op.Named : (op : Op) → op.Ans → Prop
  | .query (.getGroup id), ans => ∀ g, ans = .ok (some g) → g.id = id
  | .statement (.updateGroup id _), ans => ∀ g, ans = .ok (some g) → g.id = id
  | _, _ => True

def Named (event : DirectoryEvent) : Prop := event.op.Named event.ans

theorem exec_named (env : Env) (choice : Choice) (world : World) (op : Op) :
    op.Named (exec env choice world op).1 := by
  unfold Op.Named
  split
  · intro g answered
    obtain ⟨row, -, rfl⟩ := Option.map_eq_some_iff.mp (query_ok answered).symm
    rfl
  · rename_i id g
    intro updated answered
    rcases statement_cases env choice world (.updateGroup id g) with
      ⟨err, did⟩ | ⟨result, after, ran, did⟩
    · rw [did] at answered
      cases answered
    · rw [did] at answered
      cases answered
      obtain ⟨f, groups, -, isResult, -, -⟩ := updateGroup_ok ran
      obtain ⟨row, -, rfl⟩ := Option.map_eq_some_iff.mp isResult.symm
      rfl
  · trivial

def Unwritten (past : List DirectoryEvent) : Prop := ∀ event ∈ past, event.op.writesMembers = false

/-- The list that is written has every member that was read and every member to add. -/
def Op.Patches (groupID : String) (addition : Addition) (past : List DirectoryEvent) : Op → Prop
  | .query (.groupMembers id) => id = groupID
  | .query (.getGroup _) => True
  | .query (.adminUserExists ..) => True
  | .query (.clientUserExists ..) => True
  | .statement (.updateGroup ..) => True
  | .statement (.setGroupMembers id adminIDs clientIDs) =>
    id = groupID ∧ ∃ members : List String, ⟨.query (.groupMembers groupID), .ok members⟩ ∈ past ∧
      ∀ member ≠ "", member ∈ members ∨ member ∈ addition.added → member ∈ adminIDs ++ clientIDs
  | _ => False

def PatchGuard (groupID : String) (addition : Addition) (past : List DirectoryEvent) (op : Op) : Prop :=
  (∀ event ∈ past, Named event) → Unwritten past ∧ op.Patches groupID addition past

def PatchPost (groupID : String) (past : List DirectoryEvent) (reply : Reply) : Prop :=
  (∀ event ∈ past, Named event) → ∀ status resource, reply = .group status resource →
    ∃ adminIDs clientIDs, ⟨.statement (.setGroupMembers groupID adminIDs clientIDs), .ok ()⟩ ∈ past

section
variable {groupID : String} {addition : Addition} {past : List DirectoryEvent}

theorem unwritten_concat (unwritten : Unwritten past) (event : DirectoryEvent)
    (other : event.op.writesMembers = false) : Unwritten (past ++ [event]) := by
  intro earlier member
  rcases mem_append.mp member with old | isNew
  · exact unwritten earlier old
  · rwa [mem_singleton.mp isNew]

theorem keeps_withMembers {g : SCIMGroup} (unwritten : Unwritten past)
    (named : (∀ event ∈ past, Named event) → g.id = groupID) :
    Keeps (PatchGuard groupID addition) (fun now result => Unwritten now ∧
      ∀ group : SCIMGroup, result = .ok group → group = { g with members := group.members } ∧
        ⟨.query (.groupMembers g.id), .ok group.members⟩ ∈ now) (SCIMStore.withMembers g) past := by
  refine ⟨fun names => ⟨unwritten, named names⟩, fun ans => ?_⟩
  cases ans with
  | error err => exact ⟨unwritten_concat unwritten _ rfl, fun group failed => by cases failed⟩
  | ok members =>
    refine ⟨unwritten_concat unwritten _ rfl, fun group isGroup => ?_⟩
    grind

theorem keeps_getGroup (unwritten : Unwritten past) :
    Keeps (PatchGuard groupID addition) (fun now result => Unwritten now ∧
      ∀ g : SCIMGroup, result = .ok (some g) → (∀ event ∈ now, Named event) →
        g.id = groupID ∧ ⟨.query (.groupMembers groupID), .ok g.members⟩ ∈ now)
      (SCIMStore.getGroup groupID) past := by
  refine ⟨fun _ => ⟨unwritten, trivial⟩, fun ans => ?_⟩
  have read := unwritten_concat unwritten ⟨.query (.getGroup groupID), ans⟩ rfl
  match ans with
  | .error err => exact ⟨read, fun g failed => by cases failed⟩
  | .ok none => exact ⟨read, fun g missing => by cases missing⟩
  | .ok (some g) =>
    have sameID : ∀ now : List DirectoryEvent,
        past ++ [⟨.query (.getGroup groupID), .ok (some g)⟩] ⊆ now →
        (∀ event ∈ now, Named event) → g.id = groupID := by
      intro now later names
      exact names ⟨.query (.getGroup groupID), .ok (some g)⟩
        (later (mem_append_right _ mem_cons_self)) g rfl
    change Keeps _ _ (SCIMStore.withMembers g >>= _) _
    refine keeps_then (keeps_withMembers read (sameID _ (List.Subset.refl _))) ?_
    intro now result later listed
    match result with
    | .error err => exact ⟨listed.1, fun found failed => by cases failed⟩
    | .ok group =>
      refine ⟨listed.1, fun found isFound names => ?_⟩
      grind

theorem keeps_classify (orgID : String) (members : List String) :
    ∀ (seen adminIDs clientIDs : List String) (past : List DirectoryEvent), Unwritten past →
    (∀ id ∈ seen, id ∈ adminIDs ++ clientIDs) →
    Keeps (PatchGuard groupID addition) (fun now result => Unwritten now ∧
      ∀ classified : List String × List String, result = .ok classified → ∀ member ≠ "",
        member ∈ adminIDs ++ clientIDs ∨ member ∈ members → member ∈ classified.1 ++ classified.2)
      (SCIMStore.classify orgID seen adminIDs clientIDs members) past := by
  induction members with
  | nil =>
    intro seen adminIDs clientIDs past unwritten known
    refine ⟨unwritten, fun classified isClassified member _ listed => ?_⟩
    grind
  | cons id rest ih =>
    intro seen adminIDs clientIDs past unwritten known
    rw [SCIMStore.classify]
    split_ifs with skipped
    · grind
    · have goesOn : ∀ (admins clients : List String) (now : List DirectoryEvent), Unwritten now →
          (∀ member, member = id ∨ member ∈ adminIDs ++ clientIDs → member ∈ admins ++ clients) →
          Keeps (PatchGuard groupID addition) (fun now result => Unwritten now ∧
            ∀ classified : List String × List String, result = .ok classified → ∀ member ≠ "",
              member ∈ adminIDs ++ clientIDs ∨ member ∈ id :: rest →
                member ∈ classified.1 ++ classified.2)
            (SCIMStore.classify orgID (id :: seen) admins clients rest) now := by
        intro admins clients now unwrittenNow grown
        refine keeps_mono (fun _ _ guard => guard) ?_ _ _
          (ih (id :: seen) admins clients now unwrittenNow ?_)
        all_goals grind
      refine ⟨fun _ => ⟨unwritten, trivial⟩, fun isAdmin => ?_⟩
      have asked := unwritten_concat unwritten ⟨.query (.adminUserExists id orgID), isAdmin⟩ rfl
      match isAdmin with
      | .error err => exact ⟨asked, fun classified failed => by cases failed⟩
      | .ok true =>
        refine goesOn _ _ _ asked ?_
        grind
      | .ok false =>
        refine ⟨fun _ => ⟨asked, trivial⟩, fun isClient => ?_⟩
        have askedTwice :=
          unwritten_concat asked ⟨.query (.clientUserExists id orgID), isClient⟩ rfl
        match isClient with
        | .error err | .ok false => exact ⟨askedTwice, fun classified failed => by cases failed⟩
        | .ok true =>
          refine goesOn _ _ _ askedTwice ?_
          grind

theorem keeps_updateGroup {id : String} (g : SCIMGroup) (unwritten : Unwritten past)
    (sameID : (∀ event ∈ past, Named event) → id = groupID) :
    Keeps (PatchGuard groupID addition) (fun now _ => Unwritten now) (SCIMStore.updateGroup id g)
      past := by
  refine ⟨fun _ => ⟨unwritten, trivial⟩, fun ans => ?_⟩
  have updated := unwritten_concat unwritten ⟨.statement (.updateGroup id g), ans⟩ rfl
  match ans with
  | .error err | .ok none => exact updated
  | .ok (some row) =>
    refine keeps_mono (fun _ _ guard => guard) (fun now _ kept => kept.1) _ _
      (keeps_withMembers updated ?_)
    intro names
    have isID := names ⟨.statement (.updateGroup id g), .ok (some row)⟩
      (mem_append_right _ mem_cons_self) row rfl
    exact isID.trans (sameID fun event member => names event (mem_append_left _ member))

theorem keeps_patches (origin : Origin) :
    Keeps (PatchGuard groupID addition) (PatchPost groupID) (patches origin groupID addition) [] := by
  have failed : ∀ (status : Nat) (detail : String) (past : List DirectoryEvent),
      PatchPost groupID past (.error status detail) :=
    fun status detail past _ other resource isGroup => by cases isGroup
  refine keeps_then (keeps_getGroup fun event member => by cases member) ?_
  intro read result _ found
  match result with
  | .error err | .ok none => exact failed _ _ _
  | .ok (some group) =>
    simp only
    cases edited : addition.operations.foldlM applyGroupPatch
        ⟨group.displayName, group.members⟩ with
    | error err => exact failed _ _ _
    | ok draft =>
      refine keeps_then (keeps_classify group.orgID draft.members [] [] [] read found.1
        fun id member => by cases member) ?_
      intro checked result afterRead classes
      match result with
      | .error err => exact failed _ _ _
      | .ok classified =>
        have namedEarlier : (∀ event ∈ checked, Named event) → group.id = groupID ∧
            ⟨.query (.groupMembers groupID), .ok group.members⟩ ∈ checked := by
          grind
        refine keeps_then (keeps_updateGroup _ classes.1 fun names =>
          (namedEarlier names).1) ?_
        intro updated result afterCheck unwritten
        match result with
        | .error err => exact failed _ _ _
        | .ok row =>
          refine ⟨fun names => ⟨unwritten, ?_⟩, fun ans => ?_⟩
          · obtain ⟨isID, isRead⟩ := namedEarlier fun event member =>
              names event (afterCheck member)
            refine ⟨isID, group.members, afterCheck isRead, fun member isMember listed => ?_⟩
            exact classes.2 classified rfl member isMember
              (.inr (addition.adds _ _ edited member isMember listed))
          · intro names status resource isGroup
            cases ans with
            | error err => cases isGroup
            | ok done =>
              grind

end

/-! ## What every interleaving keeps -/

/-- The members of the beginning and those of every request that has written are there, and a
request in its window has read at least the members that are there. -/
structure AdditionsKept (groupID : String) (start : World) (pool : Patching) : Prop where
  named : ∀ entry ∈ pool.trace, Named entry.2
  first : ∀ member ≠ "", member ∈ membersOf start groupID → member ∈ membersOf pool.world groupID
  written : ∀ i addition adminIDs clientIDs, pool.requestAt i = some addition →
    (i, ⟨.statement (.setGroupMembers groupID adminIDs clientIDs), .ok ()⟩) ∈ pool.trace →
    ∀ member ≠ "", member ∈ addition.added → member ∈ membersOf pool.world groupID
  window : ∀ (i : Nat) (members : List String), Running pool i →
    (i, ⟨.query (.groupMembers groupID), .ok members⟩) ∈ pool.trace →
    ∀ member ∈ membersOf pool.world groupID, member ∈ members
  single : ∀ i j, InWindow groupID pool i → InWindow groupID pool j → i = j

variable {adminIDs clientIDs : List String}

theorem membersOf_setGroupMembers {world after : World} {groupID : String}
    (ran : setGroupMembers world groupID adminIDs clientIDs = .ok after)
    (listed : member ∈ adminIDs ++ clientIDs) : member ∈ membersOf after groupID := by
  obtain ⟨-, -, -, rfl⟩ := setGroupMembers_ok ran
  refine mem_map.mpr ⟨(member, groupID), mem_filter.mpr ⟨?_, decide_eq_true rfl⟩, rfl⟩
  rcases mem_append.mp listed with isAdmin | isClient
  · exact mem_append_left _ (mem_addMembers.mpr (.inr ⟨isAdmin, rfl⟩))
  · exact mem_append_right _ (mem_addMembers.mpr (.inr ⟨isClient, rfl⟩))

theorem membersOf_exec (env : Env) (choice : Choice) (world : World) {op : Op} {groupID : String}
    {addition : Addition} {past : List DirectoryEvent} (patching : op.Patches groupID addition past)
    (other : op.writesMembers = false) :
    membersOf (exec env choice world op).2 groupID = membersOf world groupID := by
  cases op with
  | query q => rfl
  | statement s =>
    cases s with
    | updateGroup id g =>
      rcases statement_cases env choice world (.updateGroup id g) with
        ⟨err, did⟩ | ⟨result, after, ran, did⟩
      · rw [did]
      · obtain ⟨f, groups, -, -, -, rfl⟩ := updateGroup_ok ran
        rw [did]
        rfl
    | setGroupMembers id adminIDs clientIDs => cases other
    | _ => exact patching.elim

section
variable {env : Env} {origin : Origin} {groupID : String} {start : World} {pool : Patching}

theorem kept_spawn_addition (addition : Addition)
    (kept : Kept (PatchGuard groupID) (fun _ => PatchPost groupID) pool)
    (inv : AdditionsKept groupID start pool) :
    AdditionsKept groupID start
      (step (exec env) (patches origin groupID) pool (.spawn addition)) := by
  have inside := fun i event member => kept.numbered (i, event) member
  have earlier : ∀ i, InWindow groupID (step (exec env) (patches origin groupID) pool
      (.spawn addition)) i → InWindow groupID pool i := by
    rintro i ⟨running, event, member, reads⟩
    have bound := inside i event (mem_past_iff.mp member)
    exact ⟨(running_spawn (exec env) (patches origin groupID) addition bound).mp running,
      event, member, reads⟩
  constructor
  · exact inv.named
  · exact inv.first
  · intro i other adminIDs clientIDs requested event
    rw [requestAt_spawn _ _ _ (inside _ _ event)] at requested
    exact inv.written i other adminIDs clientIDs requested event
  · intro i members running event
    exact inv.window i members ((running_spawn _ _ _ (inside _ _ event)).mp running) event
  · exact fun i j first second => inv.single i j (earlier i first) (earlier j second)

variable {i : Nat} {choice : Choice} {addition : Addition} {op : Op}
variable {next : op.Ans → Handled Reply}

theorem inWindow_other {j : Nat} (other : i ≠ j)
    (inWindow : InWindow groupID (advance (exec env) pool i choice addition op next) j) :
    InWindow groupID pool j := by
  obtain ⟨running, event, member, reads⟩ := inWindow
  rw [running_advance_other (exec env) pool choice addition next other] at running
  rw [advance, past_concat_other other] at member
  exact ⟨running, event, member, reads⟩

section
variable (calling : pool.threads[i]? = some ⟨addition, .call op next⟩)

include calling

theorem inWindow_self (other : op.readsMembers groupID = false)
    (inWindow : InWindow groupID (advance (exec env) pool i choice addition op next) i) :
    InWindow groupID pool i := by
  obtain ⟨-, event, member, reads⟩ := inWindow
  refine ⟨running_of_calling calling, event, ?_, reads⟩
  rw [advance, past_concat_self, mem_append, mem_singleton] at member
  grind

theorem kept_step_quiet (alone : ReadsAlone groupID pool (.step i choice))
    (kept : Kept (PatchGuard groupID) (fun _ => PatchPost groupID) pool)
    (same : membersOf (exec env choice pool.world op).2 groupID = membersOf pool.world groupID)
    (other : op.writesMembers = false) (inv : AdditionsKept groupID start pool) :
    AdditionsKept groupID start (advance (exec env) pool i choice addition op next) := by
  have running := running_of_calling calling
  constructor
  · intro entry member
    rcases mem_append.mp member with old | isNew
    · exact inv.named entry old
    · rw [mem_singleton.mp isNew]
      exact exec_named env choice pool.world op
  · intro member isID listed
    change member ∈ membersOf (exec env choice pool.world op).2 groupID
    rw [same]
    exact inv.first member isID listed
  · intro j request adminIDs clientIDs requested event member isID listed
    change member ∈ membersOf (exec env choice pool.world op).2 groupID
    rw [same]
    rw [requestAt_advance _ _ _ calling] at requested
    rcases mem_append.mp event with old | isNew
    · exact inv.written j request adminIDs clientIDs requested old member isID listed
    · have isOp : true = op.writesMembers :=
        congrArg (fun entry : Nat × DirectoryEvent => entry.2.op.writesMembers)
          (mem_singleton.mp isNew)
      exact absurd (isOp.trans other) (by decide)
  · intro j members stillRunning event member listed
    change member ∈ membersOf (exec env choice pool.world op).2 groupID at listed
    rw [same] at listed
    have ranBefore : Running pool j := by
      grind [running_advance_other]
    rcases mem_append.mp event with old | isNew
    · exact inv.window j members ranBefore old member listed
    · -- the answer to this very read
      have isEvent := (Prod.mk.inj (mem_singleton.mp isNew)).2
      obtain ⟨rfl, answered⟩ := Event.mk.inj isEvent
      have isAnswer := query_ok (eq_of_heq answered).symm
      rwa [isAnswer]
  · have only : ∀ j, i ≠ j → InWindow groupID
        (advance (exec env) pool i choice addition op next) i →
        InWindow groupID (advance (exec env) pool i choice addition op next) j → False := by
      intro j another mine others
      have before := inWindow_other another others
      cases reads : op.readsMembers groupID with
      | false => exact another (inv.single i j (inWindow_self calling reads mine) before)
      | true =>
        obtain ⟨-, event, member, -⟩ := before
        have bound := kept.numbered (j, event) (mem_past_iff.mp member)
        simp [ReadsAlone, calling] at alone
        exact another (alone reads j bound (inWindow_other another others)).symm
    intro first second inFirst inSecond
    by_cases firstHere : i = first
    · grind
    · by_cases secondHere : i = second
      · grind
      · exact inv.single first second (inWindow_other firstHere inFirst)
          (inWindow_other secondHere inSecond)

theorem ended_of_written (kept : Kept (PatchGuard groupID) (fun _ => PatchPost groupID) pool)
    (named : ∀ entry ∈ pool.trace, Named entry.2) (writes : op.writesMembers = true) :
    ¬ Running (advance (exec env) pool i choice addition op next) i := by
  have keptLater := kept_advance (exec env) _ _ choice calling kept
  have bound := (List.getElem?_eq_some_iff.mp calling).1
  have found : (advance (exec env) pool i choice addition op next).threads[i]? =
      some ⟨addition, next (exec env choice pool.world op).1⟩ :=
    getElem?_set_self bound
  have keeps := keptLater.keeps i _ found
  intro running
  simp [Running, found] at running
  cases rest : next (exec env choice pool.world op).1 with
  | done reply =>
    rw [rest] at running
    exact running
  | call another following =>
    rw [rest] at keeps
    have isPast : past (advance (exec env) pool i choice addition op next).trace i =
        past pool.trace i ++ [⟨op, (exec env choice pool.world op).1⟩] :=
      past_concat_self pool.trace i _
    have names : ∀ event ∈ past (advance (exec env) pool i choice addition op next).trace i,
        Named event := by
      intro event member
      rw [isPast] at member
      rcases mem_append.mp member with old | isNew
      · exact named _ (mem_past_iff.mp old)
      · rw [mem_singleton.mp isNew]
        exact exec_named env choice pool.world op
    have unwritten := (keeps.1 names).1 ⟨op, (exec env choice pool.world op).1⟩ (by
      rw [isPast]
      exact mem_append_right _ mem_cons_self)
    exact absurd (unwritten.symm.trans writes) (by decide)

end

theorem kept_step_write
    {next : Op.Ans (.statement (.setGroupMembers groupID adminIDs clientIDs)) → Handled Reply}
    (calling : pool.threads[i]? =
      some ⟨addition, .call (.statement (.setGroupMembers groupID adminIDs clientIDs)) next⟩)
    (kept : Kept (PatchGuard groupID) (fun _ => PatchPost groupID) pool)
    (inv : AdditionsKept groupID start pool) :
    AdditionsKept groupID start (advance (exec env) pool i choice addition
      (.statement (.setGroupMembers groupID adminIDs clientIDs)) next) := by
  have running := running_of_calling calling
  have ended : ¬ Running (advance (exec env) pool i choice addition _ next) i :=
    ended_of_written calling kept inv.named rfl
  have names : ∀ event ∈ past pool.trace i, Named event :=
    fun event member => inv.named _ (mem_past_iff.mp member)
  obtain ⟨-, -, members, isRead, complete⟩ := (kept.keeps i _ calling).1 names
  have readBefore := mem_past_iff.mp isRead
  have mine : InWindow groupID pool i := ⟨running, _, isRead, decide_eq_true rfl⟩
  -- no other window is open
  have closed : ∀ j, ¬ InWindow groupID
      (advance (exec env) pool i choice addition _ next) j := by
    intro j inWindow
    by_cases here : i = j
    · subst here
      exact ended inWindow.1
    · exact here (inv.single i j mine (inWindow_other here inWindow))
  -- what was there was read, and what was read is written
  have stays : ∀ member ≠ "", member ∈ membersOf pool.world groupID → member ∈ membersOf
      (advance (exec env) pool i choice addition _ next).world groupID := by
    intro member isID listed
    change member ∈ membersOf (exec env choice pool.world _).2 groupID
    rcases statement_cases env choice pool.world (.setGroupMembers groupID adminIDs clientIDs) with
      ⟨err, did⟩ | ⟨result, after, ran, did⟩
    · rwa [did]
    · obtain ⟨done, set, ⟨⟩⟩ := map_ok ran
      rw [did]
      exact membersOf_setGroupMembers set (complete member isID
        (.inl (inv.window i members running readBefore member listed)))
  constructor
  · intro entry member
    rcases mem_append.mp member with old | isNew
    · exact inv.named entry old
    · rw [mem_singleton.mp isNew]
      exact exec_named env choice pool.world _
  · exact fun member isID listed => stays member isID (inv.first member isID listed)
  · intro j request admins clients requested event member isID listed
    rw [requestAt_advance _ _ _ calling] at requested
    rcases mem_append.mp event with old | isNew
    · exact stays member isID (inv.written j request admins clients requested old member isID listed)
    · obtain ⟨rfl, isEvent⟩ := Prod.mk.inj (mem_singleton.mp isNew)
      obtain ⟨-, answered⟩ := Event.mk.inj isEvent
      have isRequest : request = addition := by
        rw [Pool.requestAt, calling] at requested
        exact (Option.some.inj requested).symm
      rw [isRequest] at listed
      change member ∈ membersOf (exec env choice pool.world _).2 groupID
      rcases statement_cases env choice pool.world (.setGroupMembers groupID adminIDs clientIDs) with
        ⟨err, did⟩ | ⟨result, after, ran, did⟩
      · rw [did] at answered
        cases eq_of_heq answered
      · obtain ⟨done, set, same⟩ := map_ok ran
        grind [membersOf_setGroupMembers]
  · intro j others stillRunning event
    rcases mem_append.mp event with old | isNew
    · refine (closed j ⟨stillRunning, ⟨.query (.groupMembers groupID), .ok others⟩, ?_,
        decide_eq_true rfl⟩).elim
      exact past_subset pool.trace _ j (mem_past_iff.mpr old)
    · cases (Prod.mk.inj (mem_singleton.mp isNew)).2
  · exact fun first second inFirst _ => (closed first inFirst).elim

end

/-- In every interleaving of requests that add members to a group, in which none reads the
members while another one is between its read and its end, the members of the beginning and
those of every request that was answered with success are members. -/
theorem group_additions_kept (env : Env) (origin : Origin) (groupID : String) (start : World)
    (inputs : List (Input Addition Choice))
    (alone : ∀ visit ∈ visits (step (exec env) (patches origin groupID)) (initial start : Patching)
      inputs, ReadsAlone groupID visit.1 visit.2) :
    ∀ reached ∈ states (step (exec env) (patches origin groupID)) (initial start : Patching) inputs,
      (∀ member ≠ "", member ∈ membersOf start groupID → member ∈ membersOf reached.world groupID) ∧
      ∀ (i : Nat) (addition : Addition) (status : Nat) (resource : GroupResource),
        reached.threads[i]? = some ⟨addition, .done (.group status resource)⟩ →
        ∀ member ≠ "", member ∈ addition.added → member ∈ membersOf reached.world groupID := by
  have invariant := pool_invariant (exec env) (fun addition => keeps_patches origin)
    (ReadsAlone groupID) (AdditionsKept groupID start)
    (fun pool addition kept inv => kept_spawn_addition addition kept inv)
    (by
      intro pool i choice addition op next kept calling isAlone guarded inv
      obtain ⟨-, patching⟩ := guarded fun event member =>
        inv.named _ (mem_past_iff.mp member)
      cases writes : op.writesMembers with
      | false =>
        grind [kept_step_quiet, membersOf_exec]
      | true =>
        match op, patching, writes with
        | .statement (.setGroupMembers id adminIDs clientIDs), patching, _ =>
          obtain ⟨rfl, -⟩ := patching
          exact kept_step_write calling kept inv)
    start
    { named := fun entry member => by cases member
      first := fun member _ listed => listed
      written := fun i addition adminIDs clientIDs requested => by cases requested
      window := fun i members running => running.elim
      single := fun i j inWindow => inWindow.1.elim }
    inputs alone
  intro reached isReached
  obtain ⟨kept, inv⟩ := invariant reached isReached
  refine ⟨inv.first, ?_⟩
  intro i addition status resource ended member isID listed
  obtain ⟨adminIDs, clientIDs, wrote⟩ := kept.keeps i _ ended
    (fun event isPast => inv.named _ (mem_past_iff.mp isPast)) status resource rfl
  refine inv.written i addition adminIDs clientIDs ?_ (mem_past_iff.mp wrote) member isID listed
  rw [Pool.requestAt, ended]
  rfl

def addOperation (id : String) : PatchOperation :=
  ⟨"add", "members", some (.arr [.obj [("value", .str id)]])⟩

def addXavier : Addition where
  operations := [addOperation "xavier"]
  added := ["xavier"]
  adds := adds_of_add (by decide) (by decide) (by decide)

def addYvonne : Addition where
  operations := [addOperation "yvonne"]
  added := ["yvonne"]
  adds := adds_of_add (by decide) (by decide) (by decide)

def demoMember (email : String) : Sso.Account Profile where
  orgID := "org-a"
  email := email
  name := email
  status := "active"
  oauthProvider := none
  oauthSubject := none
  lastLoginAt := none
  details := { createdAt := 0, updatedAt := 0 }

/-- A group with one member, and two more users of the organization. -/
def demoGroup : World where
  organizations := ["org-a"]
  providers := ∅
  admins := .empty
  clientUsers := .ofRows [("alice", demoMember "alice@a.example"),
    ("xavier", demoMember "xavier@a.example"), ("yvonne", demoMember "yvonne@a.example")]
  groups := (∅ : Table String Group).insert "staff"
    { orgID := "org-a", displayName := "Staff", source := "scim", createdAt := 0, updatedAt := 0 }
  adminGroups := []
  clientGroups := [("alice", "staff")]
  connectorGroups := ∅
  connectorUsers := ∅

def demoRun (schedule : List Nat) : List (Input Addition Choice) :=
  [.spawn addXavier, .spawn addYvonne] ++ schedule.map fun i => .step i {}

def demoPatching (schedule : List Nat) : Patching :=
  Runs.run (step (exec demoEnv) (patches ⟨true, "scim.example"⟩ "staff"))
    (initial demoGroup : Patching) (demoRun schedule)

def Patching.succeeded (pool : Patching) (i : Nat) : Bool :=
  match pool.threads[i]? with
  | some ⟨_, .done (.group 200 _)⟩ => true
  | _ => false

def oneByOne : List Nat := List.replicate 9 0 ++ List.replicate 11 1

theorem additions_one_by_one :
    Patching.succeeded (demoPatching oneByOne) 0 = true ∧
      Patching.succeeded (demoPatching oneByOne) 1 = true ∧
      membersOf (demoPatching oneByOne).world "staff" = ["alice", "xavier", "yvonne"] ∧
      ∀ member ≠ "", member ∈ membersOf demoGroup "staff" →
        member ∈ membersOf (demoPatching oneByOne).world "staff" := by
  refine ⟨by decide +kernel, by decide +kernel, by decide +kernel, ?_⟩
  exact (group_additions_kept demoEnv ⟨true, "scim.example"⟩ "staff" demoGroup (demoRun oneByOne)
    (by decide +kernel) (demoPatching oneByOne) run_mem_states).1

def bothRead : List Nat := [0, 0, 1, 1] ++ List.replicate 7 0 ++ List.replicate 7 1

theorem addition_lost :
    Patching.succeeded (demoPatching bothRead) 0 = true ∧
      Patching.succeeded (demoPatching bothRead) 1 = true ∧
      (demoPatching bothRead).requestAt 0 = some addXavier ∧
      membersOf (demoPatching bothRead).world "staff" = ["alice", "yvonne"] := by
  exact ⟨by decide +kernel, by decide +kernel, rfl, by decide +kernel⟩

end ManagementPlane.Directory
