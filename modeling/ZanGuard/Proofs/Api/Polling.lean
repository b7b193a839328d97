import ZanGuard.Api.Changelog
import ZanGuard.Lib.Fallible
import ZanGuard.Proofs.Storage.Numbered

/-! Clients that poll the changelog while others write: when no entry escapes them. -/

namespace ZanGuard.Api

open Transaction
open Memory

variable {V : Type}

/-! ### What a poll sends -/

/-- A number is parsed from its decimal text. -/
theorem parseSinceSeq_repr (n : UInt64) : parseSinceSeq n.toNat.repr = .ok n := by
  -- The value of the digits is the number again, and it is small enough.
  have digits := digitsValue_repr n.toNat
  have small : n.toNat < 2 ^ 64 := n.toNat_lt
  simp only [parseSinceSeq, Nat.repr_ne_empty, if_false, parseUint, digits, if_pos small,
    UInt64.ofNat_toNat]

/-- A limit that is accepted is positive. -/
theorem parseLimit_pos {raw : String} {limit : Int} (parsed : parseLimit raw = .ok limit) :
    0 < limit := by
  -- A limit of zero is replaced by the default, like one that is absent.
  unfold parseLimit at parsed
  split at parsed
  · obtain rfl := Except.ok.inj parsed
    omega
  · obtain ⟨n, -, parsed⟩ := Except.of_bind_ok parsed
    have chosen : (if n > 0 then n else 100) = limit := Except.ok.inj parsed
    split at chosen <;> omega

/-- A poll that has its page and waits for the last sequence number. -/
def counting (ctx : Context V) (entries : List (ChangelogEntry V)) :
    ClientM V (ActivityResult V) :=
  .ask (.auto (.latestSequence ctx)) fun latest =>
    .done (.page (.ok (changelogResponse entries latest)))

/-- A poll holds one page. -/
theorem counting_entries {ctx other : Context V} {entries held : List (ChangelogEntry V)}
    (same : counting ctx entries = counting other held) : entries = held := by
  -- The two answer alike with their pages, whatever the last sequence number is.
  unfold counting at same
  injection same with asked continued
  obtain rfl : ctx = other := by
    injection asked with call
    injection call
  have answered := congrFun continued (Except.ok (0 : UInt64))
  injection answered with result
  injection result with outcome
  injection outcome with response
  exact congrArg ChangelogResponse.entries response

/-- A poll that waits for its page. -/
def reading (ctx : Context V) (sinceSeq : UInt64) (limit : Int) : ClientM V (ActivityResult V) :=
  .ask (.auto (.readChangelog ctx sinceSeq limit)) fun
    | .error cause => .done (.page (.error (.err (errStatus cause) cause)))
    | .ok entries => counting ctx entries

/-- A poll that waits for its tenant. -/
def fetching (subscriber : Subscriber V) (limitRaw : String) : ClientM V (ActivityResult V) :=
  .ask (.auto (.getTenant subscriber.tenantID)) fun
    | .error cause =>
      .done (.page (.error (.err
        (tenantContextErrStatus (.buildTenantContext subscriber.tenantID cause))
        (.buildTenantContext subscriber.tenantID cause))))
    | .ok tenant =>
      match parseLimit limitRaw with
      | .error failure => .done (.page (.error failure))
      | .ok limit => reading (some { tenantID := subscriber.tenantID, tenant }) subscriber.sinceSeq limit

/-- What a poll sends, step by step. -/
theorem poll_script (subscriber : Subscriber V) (limitRaw : String) :
    Activity.script subscriber (.poll limitRaw) =
      if subscriber.tenantID = "" then
        .done (.page (.error (.err (tenantContextErrStatus .missingTenantID) .missingTenantID)))
      else fetching subscriber limitRaw := by
  -- The number is parsed without an error, so only the tenant and the limit can stop the poll.
  show ActivityResult.page <$>
    (handleReadChangelog subscriber.tenantID subscriber.sinceSeq.toNat.repr limitRaw).run = _
  by_cases empty : subscriber.tenantID = ""
  · simp only [handleReadChangelog, tenantCtxFromPath, empty, if_true]
    rfl
  · simp only [handleReadChangelog, tenantCtxFromPath, empty, if_false, parseSinceSeq_repr]
    refine congrArg (Script.ask _) (funext fun found => ?_)
    cases found with
    | error cause => rfl
    | ok tenant =>
      cases parsed : parseLimit limitRaw with
      | error failure => rfl
      | ok limit =>
        refine congrArg (Script.ask _) (funext fun page => ?_)
        cases page with
        | error cause => rfl
        | ok entries => rfl

/-- What an activity waits for. -/
inductive Waits (subscriber : Subscriber V) : ClientM V (ActivityResult V) → Prop
  | write {call : StoreCall V}
      {next : Except Err call.Answer → ClientM V (ActivityResult V)}
      (ends : ∀ reply, ∃ outcome, next reply = .done (.written outcome)) :
      Waits subscriber (.ask (.auto call) next)
  | fetch (limitRaw : String) : Waits subscriber (fetching subscriber limitRaw)
  | read (tenant : Tenant V) {limit : Int} (positive : 0 < limit) :
      Waits subscriber
        (reading (some { tenantID := subscriber.tenantID, tenant }) subscriber.sinceSeq limit)
  | count (tenant : Tenant V) (entries : List (ChangelogEntry V)) :
      Waits subscriber (counting (some { tenantID := subscriber.tenantID, tenant }) entries)

/-- A poll waits for its tenant, for its page, or for the last sequence number. -/
theorem fetching_waits {subscriber : Subscriber V} {limitRaw : String}
    {seen : List (Exchange (StoreCall V) StoreCall.Answer Err)} {request : Request (StoreCall V)}
    {next : request.Reply StoreCall.Answer Err → ClientM V (ActivityResult V)}
    (reached : (fetching subscriber limitRaw).Reaches seen (.ask request next)) :
    Waits subscriber (.ask request next) := by
  -- One exchange after the other, and each leaves one thing to wait for.
  cases reached with
  | here => exact .fetch limitRaw
  | @ask _ _ found _ _ later =>
    cases found with
    | error cause => cases later
    | ok tenant =>
      cases parsed : parseLimit limitRaw with
      | error failure =>
        simp only [parsed] at later
        cases later
      | ok limit =>
        simp only [parsed] at later
        cases later with
        | here => exact .read tenant (parseLimit_pos parsed)
        | @ask _ _ page _ _ later =>
          cases page with
          | error cause => cases later
          | ok entries =>
            cases later with
            | here => exact .count tenant entries
            | ask later => cases later

/-- An activity waits for one of these. -/
theorem activity_waits {subscriber : Subscriber V} {activity : Activity V}
    {seen : List (Exchange (StoreCall V) StoreCall.Answer Err)} {request : Request (StoreCall V)}
    {next : request.Reply StoreCall.Answer Err → ClientM V (ActivityResult V)}
    (reached : (activity.script subscriber).Reaches seen (.ask request next)) :
    Waits subscriber (.ask request next) := by
  -- A write is one call, and a poll has the stages above.
  cases activity with
  | writeTuple ctx tuple =>
    cases reached with
    | here => exact .write fun reply => ⟨reply, rfl⟩
    | ask later => cases later
  | writeTuples ctx tuples =>
    cases reached with
    | here => exact .write fun reply => ⟨reply, rfl⟩
    | ask later => cases later
  | deleteTuple ctx tuple =>
    cases reached with
    | here => exact .write fun reply => ⟨reply, rfl⟩
    | ask later => cases later
  | poll limitRaw =>
    rw [poll_script] at reached
    split at reached
    · cases reached
    · exact fetching_waits reached

/-! ### A client that is in touch -/

/-- Every call leaves the tenants alone, and adds to the log of a tenant at its end. -/
theorem serve_logged (tenantID : String) (clock : Clock) (s : Store V) (call : StoreCall V) :
    ∃ count, Logged tenantID count s (call.serve clock s).2 := by
  -- The reads leave the store as it is, and each write has its own lemma.
  cases call with
  | getTenant _ => exact ⟨0, .refl s⟩
  | readChangelog _ _ _ => exact ⟨0, .refl s⟩
  | latestSequence _ => exact ⟨0, .refl s⟩
  | writeTuple ctx tuple => exact ⟨_, Logged.writing fun owner => .writeTuplesLocked s owner _ clock⟩
  | writeTuples ctx tuples => exact ⟨_, Logged.writing fun owner => .writeTuplesLocked s owner _ clock⟩
  | deleteTuple ctx tuple => exact ⟨1, deleteTuple_logged s ctx tuple clock⟩

variable {ι : Type}

/-- The call that a party waits for. -/
def asked (party : Party (clients V ι)) : Option (StoreCall V) :=
  match party.rest with
  | some (.ask (.auto call) _) => some call
  | _ => none

/-- Whether a party has its page and waits for the last sequence number. -/
def counts (party : Party (clients V ι)) : Bool :=
  match asked party with
  | some (.latestSequence _) => true
  | _ => false

/--
What is known of a client of a tenant.

It has received the log up to where it is, and with the page it holds it has the whole log.
-/
structure InTouch (tenantID : String) (s : Store V) (party : Party (clients V ι)) : Prop where
  own : party.memory.tenantID = tenantID
  numbered : s.Numbered tenantID
  reached : party.memory.sinceSeq.toNat ≤ (s.changelogOf tenantID).length
  received : party.memory.received =
    (s.changelogOf tenantID).take party.memory.sinceSeq.toNat
  page : ∀ tenant entries, party.rest = some (counting (some { tenantID, tenant }) entries) →
    s.checkTenantReadable tenantID = .ok () ∧
      party.memory.received ++ entries = s.changelogOf tenantID

namespace InTouch

variable {tenantID : String} {s after : Store V} {party next : Party (clients V ι)}

/-- A party that does not wait for the last sequence number holds no page. -/
theorem no_page (silent : counts party = false) {ctx : Context V}
    {entries : List (ChangelogEntry V)} : party.rest ≠ some (counting ctx entries) := by
  -- A party that holds a page asks for the last sequence number.
  intro holds
  simp only [counts, asked, holds, counting] at silent
  cases silent

/-- A party that goes on without a page has received the same. -/
theorem quiet (touch : InTouch tenantID s party) (same : next.memory = party.memory)
    (silent : counts next = false) : InTouch tenantID s next := by
  -- All fields but the last speak of what the party remembers, and that is the same.
  refine ⟨by rw [same, touch.own], touch.numbered, by rw [same]; exact touch.reached,
    by rw [same]; exact touch.received, ?_⟩
  intro tenant entries holds
  exact absurd holds (no_page silent)

/-- The log grows while the party holds no page. -/
theorem grows (touch : InTouch tenantID s party) {count : Nat}
    (logged : Logged tenantID count s after)
    (short : (after.changelogOf tenantID).length < 2 ^ 64)
    (still : counts party = true →
      (after.changelogOf tenantID).length = (s.changelogOf tenantID).length) :
    InTouch tenantID after party := by
  have longer := logged.grows.length_le
  have reached := touch.reached
  refine ⟨touch.own, logged.numbered touch.numbered short, by omega, ?_, ?_⟩
  · -- What has been received stands at the head of both logs.
    obtain ⟨added, grown⟩ := logged.grows
    rw [← grown, List.take_append_of_le_length reached]
    exact touch.received
  · intro tenant entries holds
    have waiting : counts party = true := by simp only [counts, asked, holds, counting]
    have same : s.changelogOf tenantID = after.changelogOf tenantID :=
      logged.grows.eq_of_length (still waiting).symm
    obtain ⟨readable, whole⟩ := touch.page tenant entries holds
    refine ⟨?_, whole.trans same⟩
    simpa only [Store.checkTenantReadable, logged.tenants] using readable

/-- A page that is not cut short has all that the party has not received. -/
theorem read (touch : InTouch tenantID s party) (same : next.memory = party.memory)
    {tenant : Tenant V} {limit : Int} {entries : List (ChangelogEntry V)}
    (answered : s.readChangelog (some { tenantID, tenant }) party.memory.sinceSeq limit =
      .ok entries)
    (uncut : ((s.changelogOf tenantID).filter (·.sequence > party.memory.sinceSeq)).length ≤ limit)
    (left : next.rest = some (counting (some { tenantID, tenant }) entries)) :
    InTouch tenantID s next := by
  refine ⟨by rw [same, touch.own], touch.numbered, by rw [same]; exact touch.reached,
    by rw [same]; exact touch.received, ?_⟩
  intro other held holds
  -- The page that is held is the one that was read.
  obtain rfl : entries = held := counting_entries (Option.some.inj (left.symm.trans holds))
  obtain ⟨readable, rfl⟩ := readChangelog_ok answered
  refine ⟨readable, ?_⟩
  have all : ∀ page : List (ChangelogEntry V), page.length ≤ limit →
      (if limit > 0 then page.take limit.toNat else page) = page := by
    intro page short
    split
    · exact List.take_of_length_le (by omega)
    · rfl
  rw [all _ uncut, touch.numbered.newer, same, touch.received, List.take_append_drop]

/-- With the last sequence number the party is at the end of the log. -/
theorem count (touch : InTouch tenantID s party) {tenant : Tenant V}
    {entries : List (ChangelogEntry V)}
    (left : party.rest = some (counting (some { tenantID, tenant }) entries))
    (taken : next.memory = party.memory.receive (.page (.ok
      (changelogResponse entries (s.latestSequence (some { tenantID, tenant }))))))
    (done : next.rest = none) : InTouch tenantID s next := by
  -- The counter is at the last entry, and the page brought the party up to it.
  obtain ⟨readable, whole⟩ := touch.page tenant entries left
  have latest : s.latestSequence (some { tenantID, tenant }) = .ok (s.seqOf tenantID) := by
    show (s.checkTenantReadable tenantID >>= fun _ => Except.ok (s.seqOf tenantID)) = _
    rw [readable]
    rfl
  have counter := touch.numbered.counter
  rw [latest] at taken
  have position : next.memory.sinceSeq = s.seqOf tenantID := by rw [taken]; rfl
  have everything : next.memory.received = s.changelogOf tenantID := by
    rw [taken, ← whole]
    rfl
  refine ⟨by rw [taken]; exact touch.own, touch.numbered, ?_, ?_, ?_⟩
  · rw [position, counter]
  · rw [position, counter, everything, List.take_length]
  · intro other held holds
    rw [done] at holds
    cases holds

end InTouch

/-! ### Polls that keep a client in touch -/

/-- The limit of the page that a call asks for. -/
def pageLimit : StoreCall V → Option Int
  | .readChangelog _ _ limit => some limit
  | _ => none

/-- A page is not cut short: its limit is no smaller than what there is to read. -/
def Uncut (s : Store V) (subscriber : Subscriber V) (call : StoreCall V) : Prop :=
  ∀ limit ∈ pageLimit call,
    ((s.changelogOf subscriber.tenantID).filter (·.sequence > subscriber.sinceSeq)).length ≤ limit

/-- A call leaves a log that can be counted, and the same log while a party holds a page. -/
def Calm (s : Store V) (party : Party (clients V ι)) (clock : Clock) (call : StoreCall V) : Prop :=
  let before := s.changelogOf party.memory.tenantID
  let after := (call.serve clock s).2.changelogOf party.memory.tenantID
  after.length < 2 ^ 64 ∧ (counts party = true → after.length = before.length)

variable [DecidableEq ι]

/-- An event neither cuts a page of a party nor adds to its log between the two reads of a poll. -/
def Steady (i : ι) (net : Net (clients V ι)) : Event ι Clock (Activity V) → Prop
  | .start _ _ => True
  | .step j clock => ∀ call ∈ asked (net.parties j),
      (j = i → Uncut net.shared (net.parties i).memory call) ∧
        Calm net.shared (net.parties i) clock call

instance (s : Store V) (subscriber : Subscriber V) (call : StoreCall V) :
    Decidable (Uncut s subscriber call) :=
  inferInstanceAs (Decidable (∀ limit ∈ pageLimit call, _ ≤ limit))

instance (s : Store V) (party : Party (clients V ι)) (clock : Clock) (call : StoreCall V) :
    Decidable (Calm s party clock call) :=
  inferInstanceAs (Decidable (_ < _ ∧ (_ = true → _ = _)))

instance (i : ι) (net : Net (clients V ι)) :
    (event : Event ι Clock (Activity V)) → Decidable (Steady i net event)
  | .start _ _ => .isTrue trivial
  | .step j clock => inferInstanceAs (Decidable (∀ call ∈ asked (net.parties j),
      (j = i → Uncut net.shared (net.parties i).memory call) ∧
        Calm net.shared (net.parties i) clock call))

/-- What a client goes on with that has no page. -/
def Pageless : ClientM V (ActivityResult V) → Prop
  | .done result => ∀ subscriber, Subscriber.receive subscriber result = subscriber
  | .ask (.auto (.latestSequence _)) _ => False
  | .ask _ _ => True

omit [DecidableEq ι] in
/-- A party that goes on without a page stays in touch. -/
theorem InTouch.resume {tenantID : String} {s : Store V} {party : Party (clients V ι)}
    (touch : InTouch tenantID s party) {activity : Activity V}
    {seen : List (Exchange (StoreCall V) StoreCall.Answer Err)}
    {rest : ClientM V (ActivityResult V)}
    (reached : ((clients V ι).script party.memory activity).Reaches seen rest)
    (without : Pageless rest) : InTouch tenantID s (.resume rest reached) := by
  cases rest with
  | done result => exact touch.quiet (without _) rfl
  | ask request next =>
    refine touch.quiet rfl ?_
    unfold counts asked
    rw [Party.rest_resume]
    unfold Script.unfinished
    -- It asks for anything but the last sequence number.
    cases request with
    | auto call =>
      cases call with
      | latestSequence ctx => exact absurd without (by simp [Pageless])
      | _ => rfl
    | _ => rfl

/-- What a poll begins with. -/
theorem pageless_script (subscriber : Subscriber V) (activity : Activity V) :
    Pageless (activity.script subscriber) := by
  -- No activity begins with the last sequence number.
  cases activity with
  | poll limitRaw =>
    rw [poll_script]
    split
    · exact fun _ => rfl
    · trivial
  | _ => trivial

/-- What a poll goes on with when it has its tenant. -/
theorem pageless_fetched (subscriber : Subscriber V) (tenant : Tenant V) (limitRaw : String) :
    Pageless (match parseLimit limitRaw with
      | .error failure => .done (.page (.error failure))
      | .ok limit =>
        reading (some { tenantID := subscriber.tenantID, tenant }) subscriber.sinceSeq limit) := by
  -- Either the limit is refused, or the page is asked for next.
  split
  · exact fun _ => rfl
  · trivial

omit [DecidableEq ι] in
/-- A party whose call is answered stays in touch. -/
theorem InTouch.answered {tenantID : String} {s : Store V} {party : Party (clients V ι)}
    (touch : InTouch tenantID s party)
    {r : Running ((clients V ι).script party.memory)} (waits : party.running = some r)
    {i : ι} {clock : Clock} {reply : r.request.Reply StoreCall.Answer Err} {after : Store V}
    (served : (clients V ι).serve i clock s r.request = some (reply, after))
    (steady : ∀ call ∈ asked party, Uncut s party.memory call ∧ Calm s party clock call) :
    InTouch tenantID after (.resume (r.next reply) (r.reached.snoc reply)) := by
  obtain ⟨activity, seen, request, next, reached⟩ := r
  have left : party.rest = some (.ask request next) := by simp only [Party.rest, waits, Option.map_some]
  obtain rfl := touch.own
  cases activity_waits reached with
  | @write call next ends =>
    obtain rfl : (call.serve clock s).2 = after := congrArg Prod.snd (Option.some.inj served)
    obtain ⟨-, short, still⟩ := steady call (by simp only [asked, left]; rfl)
    obtain ⟨count, logged⟩ := serve_logged party.memory.tenantID clock s call
    have grown := touch.grows logged short still
    -- Whatever the answer is, the write has ended.
    obtain ⟨outcome, ended⟩ := ends reply
    have without : Pageless (next reply) := by
      rw [ended]
      exact fun _ => rfl
    exact grown.resume _ without
  | fetch limitRaw =>
    obtain ⟨rfl, rfl⟩ := Prod.mk.inj (Option.some.inj served)
    refine touch.resume _ ?_
    cases s.getTenant party.memory.tenantID with
    | error cause => exact fun _ => rfl
    | ok tenant => exact pageless_fetched party.memory tenant limitRaw
  | @read tenant limit positive =>
    obtain ⟨answer, rfl⟩ := Prod.mk.inj (Option.some.inj served)
    obtain ⟨uncut, -⟩ := steady _ (by simp only [asked, left]; rfl)
    cases reply with
    | error cause => exact touch.resume _ fun _ => rfl
    | ok entries => exact touch.read rfl answer (uncut limit rfl) rfl
  | count tenant entries =>
    obtain ⟨rfl, rfl⟩ := Prod.mk.inj (Option.some.inj served)
    exact touch.count left rfl rfl

/-- One event that is steady keeps a party in touch. -/
theorem InTouch.step {tenantID : String} {i : ι} {net : Net (clients V ι)}
    (touch : InTouch tenantID net.shared (net.parties i)) {event : Event ι Clock (Activity V)}
    (steady : Steady i net event) :
    InTouch tenantID (net.step event).shared ((net.step event).parties i) := by
  have moved := net.step_moves event
  generalize net.step event = after at moved ⊢
  cases moved with
  | idle => exact touch
  | @start j activity free =>
    by_cases same : i = j
    · subst same
      simp only [Function.update_self]
      exact touch.resume _ (pageless_script _ activity)
    · simp only [Function.update_of_ne same]
      exact touch
  | @step j clock r waits reply shared served =>
    by_cases same : i = j
    · subst same
      simp only [Function.update_self]
      exact touch.answered waits served fun call waiting =>
        ⟨(steady call waiting).1 rfl, (steady call waiting).2⟩
    · -- Somebody else may have written, but not between the two reads.
      simp only [Function.update_of_ne same]
      obtain ⟨activity, seen, request, next, reached⟩ := r
      cases request with
      | auto call =>
        obtain rfl : (call.serve clock net.shared).2 = shared :=
          congrArg Prod.snd (Option.some.inj served)
        obtain ⟨-, short, still⟩ := steady call (by simp only [asked, Party.rest, waits]; rfl)
        obtain rfl := touch.own
        obtain ⟨count, logged⟩ := serve_logged _ clock net.shared call
        exact touch.grows logged short still
      | _ => cases served

/--
A client that polls the changelog of a tenant receives a first part of it, in order.

It does so in every run in which no page is cut short by its limit, and nothing is added to the log
between the two reads of a poll.
-/
theorem polling_loses_nothing {i : ι} {tenantID : String} {net : Net (clients V ι)}
    (begins : net.parties i = { memory := { tenantID, sinceSeq := 0, received := [] }, running := none })
    (numbered : net.shared.Numbered tenantID) {events : List (Event ι Clock (Activity V))}
    (along : (clients V ι).machine.Along (Steady i) net events) :
    (((clients V ι).machine.final net events).parties i).memory.received <+:
      ((clients V ι).machine.final net events).shared.changelogOf tenantID := by
  -- A client at the beginning is in touch, and every steady event keeps it so.
  have start : InTouch tenantID net.shared (net.parties i) := by
    rw [begins]
    exact ⟨rfl, numbered, Nat.zero_le _, rfl, fun _ _ holds => by cases holds⟩
  have reached := along.final_invariant
    (fun net => InTouch tenantID net.shared (net.parties i))
    (fun _ _ steady touch => touch.step steady) start
  rw [reached.received]
  exact List.take_prefix _ _

/-- A writer and a client that polls, on a store with one new tenant. -/
def newsroom : Net (clients Bool Bool) where
  shared := (Store.new.createTenant acme.tenant fun _ => 1).2
  parties _ := { memory := { tenantID := "acme", sinceSeq := 0, received := [] }, running := none }

/-- A write of a viewer, from its beginning to its end. -/
def writeOf (user : String) : List (Event Bool Clock (Activity Bool)) :=
  [.start false (.writeTuple (some acme) (fact "folder" "a" "viewer" "user" user)),
   .step false fun _ => 2]

/-- A poll, which makes three calls. -/
def pollOf (limit : String) : List (Event Bool Clock (Activity Bool)) :=
  [.start true (.poll limit), .step true fun _ => 3, .step true fun _ => 3, .step true fun _ => 3]

/-- The limit of a poll is no smaller than the number of entries there are. -/
def keepingUp : List (Event Bool Clock (Activity Bool)) :=
  writeOf "ann" ++ writeOf "bob" ++ pollOf "2" ++ writeOf "cid" ++ pollOf "1"

/-- A client whose limit is large enough receives every entry once. -/
theorem polling_loses_nothing_keepingUp :
    (((clients Bool Bool).machine.final newsroom keepingUp).parties true).memory.received <+:
      ((clients Bool Bool).machine.final newsroom keepingUp).shared.changelogOf "acme" := by
  have numbered : newsroom.shared.Numbered "acme" := .of_empty (by decide +kernel) (by decide +kernel)
  exact polling_loses_nothing rfl numbered (by decide +kernel)

/-- Two entries wait for a poll with limit one, and a third one for the next poll. -/
def cutShort : List (Event Bool Clock (Activity Bool)) :=
  writeOf "ann" ++ writeOf "bob" ++ pollOf "1" ++ writeOf "cid" ++ pollOf "1"

/-- An entry comes between the two reads of a poll, and another one before the next poll. -/
def betweenReads : List (Event Bool Clock (Activity Bool)) :=
  (pollOf "100").take 3 ++ writeOf "ann" ++ (pollOf "100").drop 3 ++ writeOf "bob" ++ pollOf "100"

/-- In both runs the client skips an entry for good. -/
theorem polling_skips_entries :
    (¬ (((clients Bool Bool).machine.final newsroom cutShort).parties true).memory.received <+:
      ((clients Bool Bool).machine.final newsroom cutShort).shared.changelogOf "acme") ∧
    ¬ (((clients Bool Bool).machine.final newsroom betweenReads).parties true).memory.received <+:
      ((clients Bool Bool).machine.final newsroom betweenReads).shared.changelogOf "acme" := by
  constructor <;> decide +kernel

end ZanGuard.Api
