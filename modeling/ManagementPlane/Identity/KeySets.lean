import ManagementPlane.Identity.Broker

/-!
# The keys that a provider's tokens are checked against

The cache of key sets is kept by provider id. Neither an update nor a deletion of a provider
drops its entry, and an entry serves for an hour, and after that for as long as the provider does
not answer. A provider that has moved to another URI is so still validated with the keys of the
old one.

Over every interleaving the keys come from the provider's own URI as long as a configuration with
another URI is written only under an id that has no cached keys and no validation in flight.
-/

namespace ManagementPlane.Identity

open Interleave Jwt Runs Tables List Option

abbrev Requests := Pool Broker Request Op Op.Ans Reply

abbrev Input := Interleave.Input Request Choice

def serve (env : Env) : Requests → Input → Requests := step (exec env) handle

def Broker.starting (b : Broker) : Broker := { b with jwks := ∅ }

def readConfig : Event Op Op.Ans → Option IdPConfig
  | ⟨.idp _, found⟩ => found
  | _ => none

def configOf (trace : List (Nat × Event Op Op.Ans)) (i : Nat) : Option IdPConfig :=
  (past trace i).findSome? readConfig

def FetchedFrom (trace : List (Nat × Event Op Op.Ans)) (uri : String) (key : JwkKey) : Prop :=
  ∃ j keys, (j, (⟨.fetch uri, .keys keys⟩ : Event Op Op.Ans)) ∈ trace ∧ key ∈ keys

structure TrustsOwnKeys (env : Env) (start : Broker) (inputs : List Input) : Prop where
  checked : ∀ visit ∈ visits (serve env) (initial start.starting) inputs,
    ∀ i choice request keys token next, visit.2 = .step i choice →
      visit.1.threads[i]? = some ⟨request, .call (.parse keys token) next⟩ →
      ∃ idp, configOf visit.1.trace i = some idp ∧ ∀ key ∈ keys,
        FetchedFrom visit.1.trace idp.keysURI key ∧
          ∀ current, visit.1.world.idps.lookup idp.id = some current →
            FetchedFrom visit.1.trace current.keysURI key
  accepted : ∀ reached ∈ states (serve env) (initial start.starting) inputs,
    ∀ i request claims, reached.threads[i]? = some ⟨request, .done (.validated claims)⟩ →
      ∃ idp keys token key, configOf reached.trace i = some idp ∧
        (i, (⟨.parse keys token, .ok claims⟩ : Event Op Op.Ans)) ∈ reached.trace ∧
        FetchedFrom reached.trace idp.keysURI key ∧ SignedBy env key token

def writtenURI (id : String) : Event Op Op.Ans → Option String
  | ⟨.create cfg, newID⟩ => if newID = id then some cfg.keysURI else none
  | ⟨.update cfg, true⟩ => if cfg.id = id then some cfg.keysURI else none
  | _ => none

/-- The URI of the last configuration that was written under the id. -/
def lastURI (start : Broker) (trace : List (Nat × Event Op Op.Ans)) (id : String) :
    Option String :=
  trace.foldl (fun last entry => (writtenURI id entry.2).or last)
    ((start.idps.lookup id).map IdPConfig.keysURI)

def inFlight (pool : Requests) (id : String) (j : Nat) : Bool :=
  decide (Running pool j) && (configOf pool.trace j).any fun idp => idp.id = id

def keepsURI (start : Broker) (pool : Requests) (id uri : String) : Bool :=
  lastURI start pool.trace id = some uri ||
    (pool.world.jwks.lookup id).isNone &&
      (List.range pool.threads.length).all fun j => !inFlight pool id j

def Allowed (start : Broker) (pool : Requests) : Input → Bool
  | .spawn _ => true
  | .step i choice =>
    match pool.threads[i]? with
    | some ⟨_, .call (.create cfg) _⟩ =>
      keepsURI start pool (Broker.withID cfg choice.raw).id cfg.keysURI
    | some ⟨_, .call (.update cfg) _⟩ =>
      (pool.world.idps.lookup cfg.id).isNone || keepsURI start pool cfg.id cfg.keysURI
    | _ => true

/-- The keys are those of the provider's cache entry, or come from its URI. -/
def Obtained (before : List (Event Op Op.Ans)) (idp : IdPConfig) (keys : List JwkKey) : Prop :=
  (∃ cache, (⟨.cached idp.id, some cache⟩ : Event Op Op.Ans) ∈ before ∧ keys = cache.keys) ∨
    (⟨.fetch idp.keysURI, .keys keys⟩ : Event Op Op.Ans) ∈ before

def Guard (before : List (Event Op Op.Ans)) : Op → Prop
  | .idp _ => before = []
  | .cached id => ∃ idp, before.findSome? readConfig = some idp ∧ id = idp.id
  | .store id keys => ∃ idp, before.findSome? readConfig = some idp ∧ id = idp.id ∧
      (⟨.fetch idp.keysURI, .keys keys⟩ : Event Op Op.Ans) ∈ before
  | .parse keys _ => ∃ idp, before.findSome? readConfig = some idp ∧ Obtained before idp keys
  | _ => True

def Post (before : List (Event Op Op.Ans)) : Reply → Prop
  | .validated claims => ∃ keys token,
      (⟨.parse keys token, .ok claims⟩ : Event Op Op.Ans) ∈ before
  | _ => True

section
variable {idp : IdPConfig} {before : List (Event Op Op.Ans)}

theorem findSome_append (event : Event Op Op.Ans) (read : before.findSome? readConfig = some idp) :
    (before ++ [event]).findSome? readConfig = some idp := by
  rw [findSome?_append, read]
  rfl

/-- What `getJWKS` returns was read from the cache or fetched. -/
def Delivered (idp : IdPConfig) (now : List (Event Op Op.Ans))
    (result : Except String (List JwkKey)) : Prop :=
  now.findSome? readConfig = some idp ∧ ∀ keys, result = .ok keys → Obtained now idp keys

theorem delivered_error {now : List (Event Op Op.Ans)} (err : String)
    (read : now.findSome? readConfig = some idp) : Delivered idp now (.error err) := by
  refine ⟨read, ?_⟩
  intro keys failed
  cases failed

theorem delivered_cached {now : List (Event Op Op.Ans)} {cache : JwksCache}
    (read : now.findSome? readConfig = some idp) (hit : ⟨.cached idp.id, some cache⟩ ∈ now) :
    Delivered idp now (.ok cache.keys) := by
  refine ⟨read, ?_⟩
  intro keys returned
  cases returned
  exact .inl ⟨cache, hit, rfl⟩

theorem keeps_fetchJWKS (before : List (Event Op Op.Ans)) (cached : Option JwksCache)
    (read : before.findSome? readConfig = some idp)
    (hit : ∀ cache, cached = some cache → ⟨.cached idp.id, some cache⟩ ∈ before) :
    Keeps Guard (Delivered idp) (fetchJWKS idp.id idp.keysURI cached) before := by
  refine ⟨trivial, fun answer => ?_⟩
  have known := findSome_append ⟨.fetch idp.keysURI, answer⟩ read
  cases answer with
  | failed err | status code body =>
    cases cached with
    | none => exact delivered_error _ known
    | some cache => exact delivered_cached known (mem_append_left _ (hit cache rfl))
  | invalid err => exact delivered_error _ known
  | keys keys =>
    have fetched : ⟨.fetch idp.keysURI, .keys keys⟩ ∈
        before ++ [⟨.fetch idp.keysURI, .keys keys⟩] :=
      mem_append_right _ (mem_singleton.mpr rfl)
    refine ⟨⟨idp, known, rfl, fetched⟩, fun _ => ⟨findSome_append _ known, ?_⟩⟩
    intro others returned
    cases returned
    exact .inr (mem_append_left _ fetched)

theorem keeps_getJWKS (read : before.findSome? readConfig = some idp) :
    Keeps Guard (Delivered idp) (getJWKS idp.id idp.keysURI) before := by
  refine keeps_check (delivered_error _ read) fun _ => ⟨⟨idp, read, rfl⟩, fun cached => ?_⟩
  have known := findSome_append ⟨.cached idp.id, cached⟩ read
  cases cached with
  | none =>
    refine keeps_fetchJWKS _ none known fun cache absent => ?_
    cases absent
  | some cache =>
    have hit : ⟨.cached idp.id, some cache⟩ ∈
        before ++ [⟨.cached idp.id, some cache⟩] :=
      mem_append_right _ (mem_singleton.mpr rfl)
    refine ⟨trivial, fun now => ?_⟩
    have later := findSome_append ⟨.timeNow, now⟩ known
    refine keeps_check (delivered_cached later (mem_append_left _ hit)) fun _ => ?_
    refine keeps_fetchJWKS _ (some cache) later fun same isCache => ?_
    cases isCache
    exact mem_append_left _ hit

theorem keeps_validateOIDCToken (token : String) (read : before.findSome? readConfig = some idp) :
    Keeps Guard (fun now result => ∀ claims, result = .ok claims → Post now (.validated claims))
      (validateOIDCToken idp token) before := by
  refine keeps_then (keeps_getJWKS read) ?_
  rintro now result _ ⟨known, obtained⟩
  cases result with
  | error err =>
    intro claims failed
    cases failed
  | ok keys =>
    refine ⟨⟨idp, known, obtained keys rfl⟩, fun parsed => ?_⟩
    cases parsed with
    | error err =>
      intro claims failed
      cases failed
    | ok parsed =>
      intro claims checked
      have same : parsed = claims := by
        unfold checkClaims at checked
        grind
      rw [← same]
      exact ⟨keys, token, mem_append_right _ (mem_singleton.mpr rfl)⟩

theorem handle_keeps (request : Request) : Keeps Guard Post (handle request) [] := by
  cases request with
  | exchange idpID token =>
    refine ⟨rfl, fun found => ?_⟩
    cases found with
    | none => exact trivial
    | some idp =>
      refine keeps_check trivial fun _ => keeps_then (keeps_validateOIDCToken token rfl) ?_
      intro now result _ accepted
      cases result with
      | error err => exact trivial
      | ok claims => exact accepted claims rfl
  | callback idpID code =>
    refine ⟨rfl, fun found => ?_⟩
    cases found with
    | none => exact trivial
    | some idp =>
      refine keeps_check trivial fun _ => ⟨trivial, fun exchanged => ?_⟩
      cases exchanged with
      | error err => exact trivial
      | ok token =>
        refine keeps_then (p := validateOIDCToken idp token) (keeps_validateOIDCToken token rfl) ?_
        intro now result _ accepted
        cases result with
        | error err => exact trivial
        | ok claims => exact accepted claims rfl
  | create cfg | update cfg | delete id => exact ⟨trivial, fun _ => trivial⟩

end

section
variable (env : Env) (choice : Choice) (b : Broker)

theorem withID_keysURI (cfg : IdPConfig) (raw : GoBinary.Bytes) :
    (Broker.withID cfg raw).keysURI = cfg.keysURI := by
  unfold Broker.withID
  split_ifs <;> rfl

theorem merged_id (existing cfg : IdPConfig) : (Broker.merged existing cfg).id = cfg.id := by
  unfold Broker.merged
  split_ifs <;> rfl

theorem merged_keysURI (existing cfg : IdPConfig) :
    (Broker.merged existing cfg).keysURI = cfg.keysURI := by
  unfold Broker.merged
  split_ifs <;> rfl

theorem lookup_put (cfg : IdPConfig) (id : String) :
    (b.put cfg).idps.lookup id = if id = cfg.id then some cfg else b.idps.lookup id :=
  lookup_insert_if b.idps cfg.id id cfg

theorem exec_idps {op : Op} {id : String} {idp : IdPConfig}
    (found : (exec env choice b op).2.idps.lookup id = some idp) :
    writtenURI id ⟨op, (exec env choice b op).1⟩ = some idp.keysURI ∨
      writtenURI id ⟨op, (exec env choice b op).1⟩ = none ∧ b.idps.lookup id = some idp := by
  cases op with
  | create cfg =>
    simp [exec, Broker.createIdP, lookup_put] at found
    split_ifs at found with here
    · cases found
      rw [withID_keysURI]
      exact .inl (if_pos here.symm)
    · exact .inr ⟨if_neg (Ne.symm here), found⟩
  | update cfg =>
    cases existing : b.idps.lookup cfg.id with
    | none =>
      simp [exec, Broker.updateIdP, existing] at found ⊢
      exact .inr ⟨rfl, found⟩
    | some old =>
      simp [exec, Broker.updateIdP, existing, lookup_put, merged_id] at found
      simp [exec, Broker.updateIdP, existing, writtenURI]
      grind [merged_keysURI]
  | delete other =>
    refine .inr ⟨rfl, ?_⟩
    cases existing : b.idps.lookup other with
    | none =>
      simpa [exec, Broker.deleteIdP, existing] using found
    | some old =>
      simp only [exec, Broker.deleteIdP, existing, lookup_erase_if] at found
      split_ifs at found
      exact found
  | idp other | exchangeCode idp code | cached other | timeNow | fetch uri | store other keys
  | parse keys token => exact .inr ⟨rfl, found⟩

theorem exec_jwks {op : Op} {id : String} {cache : JwksCache}
    (found : (exec env choice b op).2.jwks.lookup id = some cache) :
    b.jwks.lookup id = some cache ∨ op = .store id cache.keys := by
  cases op with
  | store other keys =>
    simp [exec, lookup_insert_if] at found
    grind
  | update cfg =>
    simp [exec, Broker.updateIdP] at found
    split at found <;> exact .inl found
  | delete other =>
    simp [exec, Broker.deleteIdP] at found
    split at found <;> exact .inl found
  | create cfg | idp other | exchangeCode idp code | cached other | timeNow | fetch uri
  | parse keys token => exact .inl found

end

section
variable (start : Broker) (trace : List (Nat × Event Op Op.Ans)) (entry : Nat × Event Op Op.Ans)

theorem lastURI_concat (id : String) :
    lastURI start (trace ++ [entry]) id = (writtenURI id entry.2).or (lastURI start trace id) := by
  simp [lastURI]

theorem FetchedFrom.concat {uri : String} {key : JwkKey}
    (fetched : FetchedFrom trace uri key) : FetchedFrom (trace ++ [entry]) uri key := by
  obtain ⟨j, keys, member, isKey⟩ := fetched
  exact ⟨j, keys, mem_append_left _ member, isKey⟩

theorem configOf_concat {j : Nat} {idp : IdPConfig}
    (read : configOf trace j = some idp) : configOf (trace ++ [entry]) j = some idp := by
  obtain ⟨i, event⟩ := entry
  by_cases here : i = j
  · rw [configOf, here, past_concat_self]
    exact findSome_append event read
  · rwa [configOf, past_concat_other here]

theorem configOf_concat_cases {i j : Nat} {event : Event Op Op.Ans} {idp : IdPConfig}
    (read : configOf (trace ++ [(i, event)]) j = some idp) :
    configOf trace j = some idp ∨
      j = i ∧ configOf trace i = none ∧ readConfig event = some idp := by
  by_cases here : i = j
  · subst here
    rw [configOf, past_concat_self, findSome?_append] at read
    cases before : configOf trace i with
    | none =>
      rw [configOf] at before
      grind
    | some old =>
      rw [configOf] at before
      rw [before] at read
      exact .inl read
  · rw [configOf, past_concat_other here] at read
    exact .inl read

end

/-! ## The invariant -/

structure Sound (env : Env) (start : Broker) (pool : Requests) : Prop where
  current : ∀ id idp, pool.world.idps.lookup id = some idp →
    lastURI start pool.trace id = some idp.keysURI
  cached : ∀ id cache, pool.world.jwks.lookup id = some cache →
    ∃ uri, lastURI start pool.trace id = some uri ∧
      ∀ key ∈ cache.keys, FetchedFrom pool.trace uri key
  flying : ∀ i idp, Running pool i → configOf pool.trace i = some idp →
    lastURI start pool.trace idp.id = some idp.keysURI
  seen : ∀ i idp cache, configOf pool.trace i = some idp →
    (i, (⟨.cached idp.id, some cache⟩ : Event Op Op.Ans)) ∈ pool.trace →
    ∀ key ∈ cache.keys, FetchedFrom pool.trace idp.keysURI key
  signed : ∀ i keys token claims,
    (i, (⟨.parse keys token, .ok claims⟩ : Event Op Op.Ans)) ∈ pool.trace →
    ∃ idp key, configOf pool.trace i = some idp ∧ FetchedFrom pool.trace idp.keysURI key ∧
      SignedBy env key token

section
variable (env : Env) (start : Broker) (pool : Requests) (request : Request)

theorem sound_spawn (kept : Kept (fun _ => Guard) (fun _ => Post) pool)
    (sound : Sound env start pool) : Sound env start (serve env pool (.spawn request)) where
  current := sound.current
  cached := sound.cached
  flying := by
    intro i idp running read
    apply sound.flying i idp _ read
    have nonempty : ∃ event, event ∈ past pool.trace i := by
      obtain ⟨event, member, -⟩ := exists_of_findSome?_eq_some read
      exact ⟨event, member⟩
    obtain ⟨event, member⟩ := nonempty
    have inside := kept.numbered _ (mem_past_iff.mp member)
    exact (running_spawn (exec env) handle request inside).mp running
  seen := sound.seen
  signed := sound.signed

end

theorem inFlight_of_running {pool : Requests} {j : Nat} {idp : IdPConfig}
    (running : Running pool j) (read : configOf pool.trace j = some idp) :
    inFlight pool idp.id j = true := by
  simp [inFlight, running, read]

section
variable {env : Env} {start : Broker} {pool : Requests} {i : Nat} {choice : Choice}
variable {request : Request} {op : Op} {next : op.Ans → Handled Reply}
variable (calling : pool.threads[i]? = some ⟨request, .call op next⟩)
variable (allowed : Allowed start pool (.step i choice) = true)
variable {after : Requests} (advanced : advance (exec env) pool i choice request op next = after)

include calling

theorem running_calling : Running pool i := running_of_calling calling

include advanced in
theorem running_before {j : Nat} (running : Running after j) : Running pool j := by
  subst advanced
  by_cases here : i = j
  · rw [← here]
    exact running_calling calling
  · exact (running_advance_other (exec env) pool choice request next here).mp running

include allowed

theorem keepsURI_of_written {id uri : String}
    (written : writtenURI id ⟨op, (exec env choice pool.world op).1⟩ = some uri) :
    keepsURI start pool id uri = true := by
  cases op with
  | create cfg =>
    simp [Allowed, calling] at allowed
    obtain ⟨here, same⟩ := ite_none_right_eq_some.mp written
    rwa [← here, ← some.inj same]
  | update cfg =>
    simp [Allowed, calling] at allowed
    cases existing : pool.world.idps.lookup cfg.id with
    | none =>
      simp [exec, Broker.updateIdP, existing] at written
      cases written
    | some old =>
      simp [exec, Broker.updateIdP, existing, writtenURI] at written
      grind
  | _ => cases written

include advanced

theorem lastURI_kept {id uri : String} (last : lastURI start pool.trace id = some uri)
    (used : (pool.world.jwks.lookup id).isSome ∨ ∃ j, Running pool j ∧ inFlight pool id j = true) :
    lastURI start after.trace id = some uri := by
  subst advanced
  simp only [advance, lastURI_concat]
  cases written : writtenURI id ⟨op, (exec env choice pool.world op).1⟩ with
  | none => rw [none_or, last]
  | some other =>
    have keeps := keepsURI_of_written calling allowed written
    simp only [keepsURI, Bool.or_eq_true, Bool.and_eq_true, decide_eq_true_eq, last,
      some.injEq, isNone_iff_eq_none, List.all_eq_true, mem_range,
      Bool.not_eq_true'] at keeps
    rcases keeps with same | ⟨absent, nobody⟩
    · rw [same]
      rfl
    · rcases used with there | ⟨j, running, flying⟩
      · rw [absent] at there
        cases there
      · rw [nobody j running.lt_length] at flying
        cases flying

variable (sound : Sound env start pool)

omit calling allowed in
include sound in
theorem current_advance (id : String) (idp : IdPConfig)
    (found : after.world.idps.lookup id = some idp) :
    lastURI start after.trace id = some idp.keysURI := by
  subst advanced
  simp only [advance, lastURI_concat]
  rcases exec_idps env choice pool.world found with written | ⟨unwritten, before⟩
  · rw [written]
    rfl
  · rw [unwritten, none_or]
    exact sound.current id idp before

include sound

theorem flying_advance (j : Nat) (idp : IdPConfig) (running : Running after j)
    (read : configOf after.trace j = some idp) :
    lastURI start after.trace idp.id = some idp.keysURI := by
  subst advanced
  have ran := running_before calling rfl running
  rcases configOf_concat_cases pool.trace read with before | ⟨-, -, now⟩
  · exact lastURI_kept calling allowed rfl (sound.flying j idp ran before)
      (.inr ⟨j, ran, inFlight_of_running ran before⟩)
  · -- the configuration has just been read, and reading writes nothing
    unfold readConfig at now
    split at now
    · rename_i id found same
      obtain ⟨rfl, answer⟩ := Event.mk.inj same
      have isFound := (eq_of_heq answer).trans now
      have here := pool.world.keyed id idp isFound
      subst here
      exact current_advance rfl sound idp.id idp isFound
    · cases now

theorem cached_advance (guarded : Guard (past pool.trace i) op) (id : String) (cache : JwksCache)
    (found : after.world.jwks.lookup id = some cache) :
    ∃ uri, lastURI start after.trace id = some uri ∧
      ∀ key ∈ cache.keys,
        FetchedFrom after.trace uri key := by
  subst advanced
  rcases exec_jwks env choice pool.world found with before | rfl
  · obtain ⟨uri, last, fetched⟩ := sound.cached id cache before
    refine ⟨uri, lastURI_kept calling allowed rfl last (.inl (by rw [before]; rfl)), ?_⟩
    intro key member
    exact (fetched key member).concat pool.trace _
  · obtain ⟨idp, read, rfl, member⟩ := guarded
    have running := running_calling calling
    refine ⟨idp.keysURI, lastURI_kept calling allowed rfl (sound.flying i idp running read)
      (.inr ⟨i, running, inFlight_of_running running read⟩), ?_⟩
    intro key isKey
    exact FetchedFrom.concat pool.trace _ ⟨i, cache.keys, mem_past_iff.mp member, isKey⟩

omit allowed in
theorem seen_advance (guarded : Guard (past pool.trace i) op) (j : Nat) (idp : IdPConfig)
    (cache : JwksCache) (read : configOf after.trace j = some idp)
    (member : (j, ⟨.cached idp.id, some cache⟩) ∈ after.trace) :
    ∀ key ∈ cache.keys, FetchedFrom after.trace
      idp.keysURI key := by
  subst advanced
  intro key isKey
  rcases configOf_concat_cases pool.trace read with known | ⟨rfl, unknown, now⟩
  · apply FetchedFrom.concat pool.trace
    rcases mem_trace_advance member with before | ⟨rfl, isNow⟩
    · exact sound.seen j idp cache known before key isKey
    · obtain ⟨rfl, answer⟩ := Event.mk.inj isNow
      have hit := (eq_of_heq answer).symm
      obtain ⟨uri, last, fetched⟩ := sound.cached idp.id cache hit
      rw [sound.flying j idp (running_calling calling) known, some.injEq] at last
      rw [last]
      exact fetched key isKey
  · -- a request reads its configuration first of all
    unfold readConfig at now
    split at now
    · rename_i id found same
      obtain ⟨rfl, -⟩ := Event.mk.inj same
      rcases mem_trace_advance member with before | ⟨-, isNow⟩
      · rw [← mem_past_iff, show past pool.trace j = [] from guarded] at before
        cases before
      · cases (Event.mk.inj isNow).1
    · cases now

omit calling allowed advanced in
theorem fetched_of_parse {keys : List JwkKey} {token : String}
    (guarded : Guard (past pool.trace i) (.parse keys token)) :
    ∃ idp, configOf pool.trace i = some idp ∧
      ∀ key ∈ keys, FetchedFrom pool.trace idp.keysURI key := by
  obtain ⟨idp, read, ⟨cache, hit, rfl⟩ | fetched⟩ := guarded
  · exact ⟨idp, read, sound.seen i idp cache read (mem_past_iff.mp hit)⟩
  · refine ⟨idp, read, ?_⟩
    intro key isKey
    exact ⟨i, keys, mem_past_iff.mp fetched, isKey⟩

omit allowed in
theorem signed_advance (guarded : Guard (past pool.trace i) op) (j : Nat) (keys : List JwkKey)
    (token : String) (claims : MapClaims)
    (member : (j, ⟨.parse keys token, .ok claims⟩) ∈ after.trace) :
    ∃ idp key, configOf after.trace j = some idp ∧
      FetchedFrom after.trace idp.keysURI key ∧
      SignedBy env key token := by
  subst advanced
  rcases mem_trace_advance member with before | ⟨rfl, isNow⟩
  · obtain ⟨idp, key, read, fetched, isSigned⟩ := sound.signed j keys token claims before
    exact ⟨idp, key, configOf_concat pool.trace _ read, fetched.concat pool.trace _, isSigned⟩
  · obtain ⟨rfl, answer⟩ := Event.mk.inj isNow
    have accepted := (eq_of_heq answer).symm
    obtain ⟨key, isKey, isSigned⟩ := parseToken_ok env accepted
    obtain ⟨idp, read, fetched⟩ := fetched_of_parse sound guarded
    exact ⟨idp, key, configOf_concat pool.trace _ read, (fetched key isKey).concat pool.trace _,
      isSigned⟩

theorem sound_advance (guarded : Guard (past pool.trace i) op) :
    Sound env start after where
  current := current_advance advanced sound
  cached := cached_advance calling allowed advanced sound guarded
  flying := flying_advance calling allowed advanced sound
  seen := seen_advance calling advanced sound guarded
  signed := signed_advance calling advanced sound guarded

end

theorem sound_initial (env : Env) (start : Broker) : Sound env start (initial start.starting) where
  current := by
    intro id idp found
    have there : start.idps.lookup id = some idp := found
    simp [lastURI, initial, there]
  cached := by
    intro id cache found
    cases found
  flying := by
    intro i idp running
    cases running
  seen := by
    intro i idp cache read
    cases read
  signed := by
    intro i keys token claims member
    cases member

/-- Tokens are checked against keys of the provider's own URI in every run in which an id that
has cached keys or a validation in flight keeps its URI. -/
theorem trusts_own_keys (env : Env) (start : Broker) (inputs : List Input)
    (allowed : ∀ visit ∈ visits (serve env) (initial start.starting) inputs,
      Allowed start visit.1 visit.2 = true) :
    TrustsOwnKeys env start inputs := by
  have sound := pool_invariant (exec env) handle_keeps
      (fun pool input => Allowed start pool input = true) (Sound env start)
      (fun pool request kept inv => sound_spawn env start pool request kept inv)
      (fun pool i choice request op next _ calling ok guarded inv =>
        sound_advance calling ok rfl inv guarded)
      start.starting (sound_initial env start) inputs allowed
  constructor
  · intro visit member i choice request keys token next _ calling
    obtain ⟨kept, inv⟩ := sound visit.1 (visit_mem_states member)
    have guarded := (kept.keeps i _ calling).1
    obtain ⟨idp, read, fetched⟩ := fetched_of_parse inv guarded
    refine ⟨idp, read, fun key isKey => ⟨fetched key isKey, ?_⟩⟩
    intro current found
    have last := inv.flying i idp (running_calling calling) read
    rw [inv.current idp.id current found, some.injEq] at last
    rw [last]
    exact fetched key isKey
  · intro reached member i request claims answered
    obtain ⟨kept, inv⟩ := sound reached member
    obtain ⟨keys, token, parsed⟩ := kept.keeps i _ answered
    rw [mem_past_iff] at parsed
    obtain ⟨idp, key, read, fetched, isSigned⟩ := inv.signed i keys token claims parsed
    exact ⟨idp, keys, token, key, read, parsed, fetched, isSigned⟩

def demoEnv : Env where
  decode := fun _ => .ok ({ alg := "RS256" }, fun _ => none)
  rsaError := fun _ key token =>
    if key.n = GoBinary.ofBigEndian token.toUTF8.data.toList then none
    else some "crypto/rsa: verification error"
  claimsError := fun _ _ => none
  decodeString := fun text => .ok text.toUTF8.data.toList

def okta (jwksURI : String) : IdPConfig := { id := "okta", name := "Okta", jwksURI := jwksURI }

def oktaBroker : Broker := Broker.put ⟨∅, nofun, ∅⟩ (okta "https://old/keys")

def rsaKey (n : String) : JwkKey := { kid := n, kty := "RSA", n := n }

def validatesWithFetch (i : Nat) (token : String) : List Input :=
  [.spawn (.exchange "okta" token), .step i {}, .step i {},
    .step i { fetched := .keys [rsaKey token] }, .step i {}, .step i {}]

def validatesWithCache (i : Nat) (token : String) : List Input :=
  [.spawn (.exchange "okta" token), .step i {}, .step i {}, .step i { now := Policy.minute },
    .step i {}]

def movesTo (i : Nat) (jwksURI : String) : List Input :=
  [.spawn (.update (okta jwksURI)), .step i {}]

def isValidated : Thread Request Op Op.Ans Reply → Bool
  | ⟨_, .done (.validated _)⟩ => true
  | _ => false

def movesFirst : List Input :=
  movesTo 0 "https://new/keys" ++ validatesWithFetch 1 "new" ++ movesTo 2 "https://new/keys" ++
    validatesWithCache 3 "new"

theorem new_keys_trusted :
    TrustsOwnKeys demoEnv oktaBroker movesFirst ∧
      (((run (serve demoEnv) (initial oktaBroker.starting) movesFirst).threads)[3]?).any
        isValidated = true :=
  ⟨trusts_own_keys demoEnv oktaBroker movesFirst (by decide +kernel), by decide +kernel⟩

/-- The provider moves while the keys of its old URI are cached. -/
def movesLater : List Input :=
  validatesWithFetch 0 "old" ++ movesTo 1 "https://new/keys" ++ validatesWithCache 2 "old"

def fetches (uri : String) (entry : Nat × Event Op Op.Ans) : Bool :=
  match entry.2 with
  | ⟨.fetch other, _⟩ => other = uri
  | _ => false

theorem fetches_of_fetchedFrom {trace : List (Nat × Event Op Op.Ans)} {uri : String} {key : JwkKey}
    (fetched : FetchedFrom trace uri key) : trace.any (fetches uri) = true := by
  obtain ⟨j, keys, member, -⟩ := fetched
  exact List.any_eq_true.mpr ⟨_, member, decide_eq_true rfl⟩

theorem old_keys_trusted : ¬ TrustsOwnKeys demoEnv oktaBroker movesLater := by
  intro trusts
  obtain ⟨idp, keys, token, key, read, -, fetched, -⟩ :=
    trusts.accepted _ run_mem_states 2 _ _ rfl
  have moved : (configOf (run (serve demoEnv) (initial oktaBroker.starting) movesLater).trace 2).map
      IdPConfig.keysURI = some "https://new/keys" := by
    decide +kernel
  rw [read, map_some, some.injEq] at moved
  rw [moved] at fetched
  exact absurd (fetches_of_fetchedFrom fetched) (by decide +kernel)

end ManagementPlane.Identity
