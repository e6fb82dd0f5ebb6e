import ThinkPixelAR.Relational.Once
import ThinkPixelAR.Adapters.Codex.Client

/-!
Requests of the Codex client over any sequence of calls: one thread request, one turn
request, and outcomes that do not change. Thread calls share a slot (`threadAttempted`
and the fields beside it), turn calls another (`turnOperation`).
-/
namespace ThinkPixelAR.Codex

open Harness
open Client (requested ready)
open Relational

variable {cwd resumeID responseID notificationID id before b : String} {frame : Fields}
  {lines : List Bytes} {infrastructure : Bool} {w : Conditions} {operation inputID : ID}
  {text : Bytes}

/-! ### Identities the loops return -/

theorem threadResponse_opened
    (opened : threadResponse cwd resumeID responseID notificationID frame = .ok (.opened id)) :
    id ≠ "" := by
  unfold threadResponse at opened
  split at opened
  · cases opened
  split at opened
  · cases opened
  split at opened
  · cases opened
  split at opened
  · cases opened
  rename_i found identity
  split at opened
  · cases opened
  rename_i resumed
  split at opened
  · cases opened
  rename_i matched
  cases opened
  intro empty
  simp only [Bool.or_eq_true, not_or, decide_eq_true_eq, ne_eq, not_not] at matched
  exact resumed (matched.1 ▸ empty)

theorem threadNotified_waits {method : String} {params : Raw} :
    threadNotified cwd resumeID responseID notificationID method params ≠ .ok (.opened id) := by
  intro opened
  unfold threadNotified at opened
  repeat' split at opened
  all_goals cases opened

theorem threadNotification_waits :
    threadNotification cwd resumeID responseID notificationID frame ≠ .ok (.opened id) := by
  intro opened
  unfold threadNotification at opened
  repeat' split at opened
  any_goals exact threadNotified_waits opened
  all_goals cases opened

theorem threadFrame_opened
    (opened : threadFrame cwd resumeID responseID notificationID frame = .ok (.opened id)) :
    id ≠ "" := by
  unfold threadFrame at opened
  generalize told : (if (frame.lookup "id").isSome then _ else _ : Except Error ThreadStep) = step
    at opened
  match step, told, opened with
  | .error e, _, opened => cases opened
  | .ok (.opened found), told, opened =>
    cases opened
    split at told
    · exact threadResponse_opened told
    · exact absurd told threadNotification_waits
  | .ok (.waiting response notification), _, opened =>
    change agreed (.waiting response notification) = _ at opened
    unfold agreed at opened
    simp only at opened
    split at opened
    · rename_i both
      obtain ⟨-, opened⟩ := unless_ok.mp opened
      cases opened
      exact both.1
    · cases opened

variable {rest : List Bytes} {threadID : String} {c : Client} {k : Call}

theorem threadLoop_ok {frames readable : Nat}
    (opened : threadLoop cwd resumeID frames readable responseID notificationID lines =
      (.ok id, rest)) : id ≠ "" := by
  -- on the frames still allowed: each frame opens the thread, fails or is waited through
  induction frames generalizing readable responseID notificationID lines with
  | zero => cases opened
  | succ frames ih =>
    unfold threadLoop at opened
    split at opened
    · cases opened
    split at opened
    · cases opened
    split at opened
    · cases opened
    · rename_i found
      cases opened
      exact threadFrame_opened found
    · exact ih opened

theorem validThreadID_ne (valid : validThreadID id = true) : id ≠ "" := by
  rintro rfl
  exact absurd valid (by decide)

theorem turnResponse_accepted (accepted : turnResponse frame = .ok (.accepted id)) : id ≠ "" := by
  unfold turnResponse at accepted
  split at accepted
  · cases accepted
  split at accepted
  · cases accepted
  split at accepted
  · cases accepted
  split at accepted
  · cases accepted
  rename_i checked
  cases accepted
  rw [Bool.or_eq_true, not_or] at checked
  exact validThreadID_ne (by simpa only [Bool.not_eq_true', Bool.not_eq_false] using checked.1)

theorem turnNotification_waits : turnNotification resumeID threadID frame ≠ .ok (.accepted id) := by
  intro accepted
  unfold turnNotification at accepted
  repeat' split at accepted
  all_goals cases accepted

theorem turnLoop_ok {frames readable : Nat}
    (accepted : turnLoop resumeID threadID frames readable lines = (.ok id, rest)) : id ≠ "" := by
  induction frames generalizing readable lines with
  | zero => cases accepted
  | succ frames ih =>
    unfold turnLoop at accepted
    split at accepted
    · cases accepted
    split at accepted
    · cases accepted
    split at accepted
    · cases accepted
    · rename_i found
      cases accepted
      unfold turnFrame at found
      split at found
      · exact turnResponse_accepted found
      · exact absurd found turnNotification_waits
    · exact ih accepted

/-! ### What a call can do -/

/-- The answer of a call that made its request, and the identity it leaves recorded where
`before` was. The last case is the handler's: the identity is recorded, the context has
expired, and the call reports an unknown outcome. -/
inductive Asked (before : String) (expires : Bool) : Except Error String → String → Prop
  | failed (e : Error) : Asked before expires (.error e) before
  | returned {id : String} : id ≠ "" → expires = false → Asked before expires (.ok id) id
  | lost {id : String} : id ≠ "" → expires = true →
      Asked before expires (.error errOutcomeUnknown) id

/-- The client after a thread request. -/
def Client.threadAsked (c : Client) (cwd resumeID : String) (infrastructure : Bool) (id : String)
    (closed : Bool) (lines : List Bytes) : Client :=
  { c with
    threadAttempted := true, threadCWD := cwd, threadResumeID := resumeID
    threadInfrastructure := infrastructure, threadID := id, closed, lines
    requests := c.requests ++ [threadRequest cwd resumeID infrastructure] }

/-- The client after a turn request. -/
def Client.turnAsked (c : Client) (operation : ID) (digest : String) (text : Bytes) (id : String)
    (target : Option (String × String)) (closed : Bool) (lines : List Bytes) : Client :=
  { c with
    turnOperation := some operation, turnDigest := digest, turnID := id, interruptTarget := target
    closed, lines, requests := c.requests ++ [turnRequest c.threadID c.threadCWD text] }

theorem finish_error (expires : Bool) (e : Error) (c : Client) :
    ∃ f closed, finish expires (.error e) c = (.error f, { c with closed }) := by
  cases expires
  · exact ⟨e, true, rfl⟩
  · exact ⟨errOutcomeUnknown, true, rfl⟩

/-- The identity is already in the client when the handler runs. -/
theorem finish_ok (found : id ≠ "") (expires : Bool) (c : Client) :
    ∃ answer closed, finish expires (.ok id) c = (answer, { c with closed }) ∧
      Asked before expires answer id := by
  cases expires
  · exact ⟨.ok id, c.closed, rfl, .returned found rfl⟩
  · exact ⟨.error errOutcomeUnknown, true, rfl, .lost found rfl⟩

/-- `openThread` refuses, repeats what is recorded, or asks. -/
inductive Opens (w : Conditions) (cwd resumeID : String) (infrastructure : Bool) (c : Client) :
    Except Error String × Client → Prop
  | refused (e : Error) : Opens w cwd resumeID infrastructure c (.error e, c)
  | replayed : validCWD cwd = true → c.threadAttempted = true → c.threadCWD = cwd →
      c.threadResumeID = resumeID → c.threadInfrastructure = infrastructure → c.threadID ≠ "" →
      Opens w cwd resumeID infrastructure c (.ok c.threadID, c)
  | asked {answer : Except Error String} {id : String} {closed : Bool} {lines : List Bytes} :
      validCWD cwd = true → c.threadAttempted = false → Asked c.threadID w.expires answer id →
      Opens w cwd resumeID infrastructure c
        (answer, c.threadAsked cwd resumeID infrastructure id closed lines)

theorem openThread_opens (w : Conditions) (cwd resumeID : String) (infrastructure : Bool)
    (c : Client) : Opens w cwd resumeID infrastructure c
      (openThread w cwd resumeID infrastructure c) := by
  unfold openThread
  split
  · exact .refused _
  rename_i checked
  have valid : validCWD cwd = true := by simp at checked; exact checked.2
  split
  · rename_i attempted
    split
    · exact .refused _
    rename_i same
    split
    · exact .refused _
    rename_i known
    simp only [bne_iff_ne, ne_eq, Bool.or_eq_true, decide_eq_true_eq, not_or, not_not] at same
    exact .replayed valid attempted same.1.1 same.1.2 same.2 known
  rename_i fresh
  have fresh : c.threadAttempted = false := by simpa using fresh
  split
  · exact .refused _
  dsimp only
  split
  · obtain ⟨e, closed, ended⟩ := finish_error w.expires errOutcomeUnknown _
    rw [ended]
    exact .asked valid fresh (.failed e)
  split
  · obtain ⟨e, closed, ended⟩ := finish_error w.expires _ _
    rw [ended]
    exact .asked valid fresh (.failed e)
  · rename_i looped
    obtain ⟨answer, closed, ended, told⟩ := finish_ok (threadLoop_ok looped) w.expires _
    rw [ended]
    exact .asked valid fresh told

/-- The checks `StartTurn` makes of its arguments. -/
def turnPasses (operation inputID : ID) (text : Bytes) : Bool :=
  !text.isEmpty && decide (text.length ≤ 16 * 1024) && validUTF8 text && validID operation &&
    validID inputID

/-- `StartTurn` refuses, repeats what is recorded, or asks. -/
inductive Starts (w : Conditions) (operation inputID : ID) (text : Bytes) (digest : String)
    (c : Client) : Except Error String × Client → Prop
  | refused (e : Error) : Starts w operation inputID text digest c (.error e, c)
  | replayed : turnPasses operation inputID text = true → c.turnOperation = some operation →
      c.turnDigest = digest → c.turnID ≠ "" →
      Starts w operation inputID text digest c (.ok c.turnID, c)
  | asked {answer : Except Error String} {id : String} {target : Option (String × String)}
      {closed : Bool} {lines : List Bytes} :
      turnPasses operation inputID text = true → c.turnOperation = none → c.threadID ≠ "" →
      c.threadInfrastructure = false → Asked c.turnID w.expires answer id →
      Starts w operation inputID text digest c
        (answer, c.turnAsked operation digest text id target closed lines)

theorem startTurn_starts (sha256 : Bytes → String) (w : Conditions) (operation inputID : ID)
    (text : Bytes) (c : Client) :
    Starts w operation inputID text (sha256 (turnInput inputID text)) c
      (startTurn sha256 w operation inputID text c) := by
  unfold startTurn
  split
  · exact .refused _
  rename_i checked
  simp only [Bool.or_eq_true, not_or, Bool.not_eq_true, Bool.not_eq_true', Bool.not_eq_false,
    decide_eq_true_eq, Nat.not_lt] at checked
  obtain ⟨⟨⟨⟨admitted, threaded⟩, filled⟩, short⟩, encoded⟩ := checked
  split
  · exact .refused _
  rename_i identified
  have passes : turnPasses operation inputID text = true := by
    simp only [Bool.or_eq_true, not_or, Bool.not_eq_true', Bool.not_eq_false] at identified
    simp [turnPasses, filled, short, encoded, identified.1, identified.2]
  split
  · split
    · exact .refused _
    rename_i same
    split
    · exact .refused _
    rename_i known
    simp only [ne_eq, Bool.or_eq_true, decide_eq_true_eq, not_or, not_not] at same
    exact .replayed passes same.1 same.2 known
  rename_i fresh
  have fresh : c.turnOperation = none := by simpa using fresh
  split
  · exact .refused _
  dsimp only
  split
  · obtain ⟨e, closed, ended⟩ := finish_error w.expires errOutcomeUnknown _
    rw [ended]
    exact .asked passes fresh threaded admitted (.failed e)
  split
  · obtain ⟨e, closed, ended⟩ := finish_error w.expires _ _
    rw [ended]
    exact .asked passes fresh threaded admitted (.failed e)
  · rename_i looped
    obtain ⟨answer, closed, ended, told⟩ := finish_ok (turnLoop_ok looped) w.expires _
    rw [ended]
    exact .asked passes fresh threaded admitted told

/-! ### Calls and slots -/

/-- One call and what the world contributes to it. -/
structure Call where
  conditions : Conditions
  operation : Operation

def Call.perform (sha256 : Bytes → String) (k : Call) (c : Client) :
    Except Error String × Client := k.operation.perform sha256 k.conditions c

/-- The identity on record for calls of the operation's kind. -/
def Client.identity (c : Client) : Operation → String
  | .startTurn .. => c.turnID
  | _ => c.threadID

/-- The call stored an identity, and its context expired before it returned. -/
def Call.StoredBeforeExpiry (sha256 : Bytes → String) (k : Call) (c : Client) : Prop :=
  (k.perform sha256 c).2.identity k.operation ≠ "" ∧ k.conditions.expires = true

/-- The checks a call makes of its arguments. -/
def Call.Passes (k : Call) : Prop :=
  match k.operation with
  | .startThread cwd => validCWD cwd = true
  | .resumeThread cwd threadID => validThreadID threadID = true ∧ validCWD cwd = true
  | .resumeThreadForInfrastructure cwd threadID =>
    validThreadID threadID = true ∧ validCWD cwd = true
  | .startTurn operation inputID text => turnPasses operation inputID text = true

/-- The identity a field records, if any. -/
def recorded (id : String) : Option String := if id = "" then none else some id

/-- The operation whose arguments the client remembers. -/
def Client.threadOperation (c : Client) : Operation :=
  if c.threadResumeID = "" then .startThread c.threadCWD
  else if c.threadInfrastructure then
    .resumeThreadForInfrastructure c.threadCWD c.threadResumeID
  else .resumeThread c.threadCWD c.threadResumeID

/-- Thread calls, told apart by their operation. -/
def threads : Once.Family Client Call Operation String where
  slot c := if c.threadAttempted then some (c.threadOperation, recorded c.threadID) else none
  key k :=
    match k.operation with
    | .startTurn .. => none
    | operation => some operation
  count := requested 2

/-- Turn calls, told apart by the operation's identifier and the digest of the input. -/
def turns (sha256 : Bytes → String) : Once.Family Client Call (ID × String) String where
  slot c := c.turnOperation.map fun operation => ((operation, c.turnDigest), recorded c.turnID)
  key k :=
    match k.operation with
    | .startTurn operation inputID text => some (operation, sha256 (turnInput inputID text))
    | _ => none
  count := requested 3

/-- The client was initialized, and a field beside a slot is set only with the slot. -/
structure Consistent (c : Client) : Prop where
  initialized : c.initialized = true
  unattempted : c.threadAttempted = false → c.threadID = ""
  started : c.threadResumeID = "" → c.threadInfrastructure = false
  untaken : c.turnOperation = none → c.turnID = ""
  threaded : c.turnOperation ≠ none → c.threadID ≠ "" ∧ c.threadInfrastructure = false

theorem consistent_ready (lines : List Bytes) : Consistent (.ready lines) :=
  ⟨rfl, fun _ => rfl, fun _ => rfl, fun _ => rfl, fun taken => absurd rfl taken⟩

section Steps
variable {sha256 : Bytes → String} {k : Call} {c : Client}

/-- The thread call an operation makes. -/
def Operation.thread : Operation → Option (String × String × Bool)
  | .startThread cwd => some (cwd, "", false)
  | .resumeThread cwd threadID => some (cwd, threadID, false)
  | .resumeThreadForInfrastructure cwd threadID => some (cwd, threadID, true)
  | .startTurn .. => none

/-- Every call refuses, repeats what its slot records, or fills its slot. -/
inductive Performs (sha256 : Bytes → String) (k : Call) (c : Client) :
    Except Error String × Client → Prop
  | refused (e : Error) : Performs sha256 k c (.error e, c)
  | threadReplayed {id : String} : k.Passes → threads.key k = some k.operation →
      threads.slot c = some (k.operation, some id) → Performs sha256 k c (.ok id, c)
  | threadAsked {cwd resumeID : String} {infrastructure : Bool} {answer : Except Error String}
      {id : String} {closed : Bool} {lines : List Bytes} :
      k.Passes → threads.key k = some k.operation →
      k.operation.thread = some (cwd, resumeID, infrastructure) → c.threadAttempted = false →
      Asked c.threadID k.conditions.expires answer id →
      Performs sha256 k c (answer, c.threadAsked cwd resumeID infrastructure id closed lines)
  | turnReplayed {operation : ID} {digest id : String} : k.Passes →
      (turns sha256).key k = some (operation, digest) →
      (turns sha256).slot c = some ((operation, digest), some id) → Performs sha256 k c (.ok id, c)
  | turnAsked {operation : ID} {digest : String} {text : Bytes} {answer : Except Error String}
      {id : String} {target : Option (String × String)} {closed : Bool} {lines : List Bytes} :
      k.Passes → (turns sha256).key k = some (operation, digest) → c.turnOperation = none →
      c.threadID ≠ "" → c.threadInfrastructure = false →
      Asked c.turnID k.conditions.expires answer id →
      Performs sha256 k c (answer, c.turnAsked operation digest text id target closed lines)

theorem recorded_some (found : id ≠ "") : recorded id = some id := if_neg found

theorem recorded_eq_some : recorded id = some b ↔ id ≠ "" ∧ id = b := by
  unfold recorded
  split <;> simp [*]

/-- Arguments that pass the checks are remembered as the operation they came from. -/
theorem threadOperation_eq {d : Client} (passes : k.Passes)
    (thread : k.operation.thread = some (cwd, resumeID, infrastructure)) (hcwd : d.threadCWD = cwd)
    (hresume : d.threadResumeID = resumeID) (hinfra : d.threadInfrastructure = infrastructure) :
    d.threadOperation = k.operation := by
  obtain ⟨w, operation⟩ := k
  subst hcwd hresume hinfra
  cases operation with
  | startThread => simp_all [Operation.thread, Client.threadOperation]
  | resumeThread | resumeThreadForInfrastructure =>
    have named := validThreadID_ne passes.1
    simp_all [Operation.thread, Client.threadOperation]
  | startTurn => simp [Operation.thread] at thread

theorem threadAsked_slot {closed : Bool} (passes : k.Passes)
    (thread : k.operation.thread = some (cwd, resumeID, infrastructure)) :
    threads.slot (c.threadAsked cwd resumeID infrastructure id closed lines) =
      some (k.operation, recorded id) := by
  rw [← threadOperation_eq (d := c.threadAsked cwd resumeID infrastructure id closed lines)
    passes thread rfl rfl rfl]
  rfl

variable {result : Except Error String × Client}

/-- A thread call, as a step of the client. -/
theorem Opens.performs (opens : Opens k.conditions cwd resumeID infrastructure c result)
    (thread : k.operation.thread = some (cwd, resumeID, infrastructure))
    (keyed : threads.key k = some k.operation) (passes : validCWD cwd = true → k.Passes) :
    Performs sha256 k c result := by
  cases opens with
  | refused e => exact .refused e
  | replayed valid attempted hcwd hresume hinfra known =>
    refine .threadReplayed (passes valid) keyed ?_
    simp only [threads, attempted, if_true, recorded_some known]
    rw [threadOperation_eq (passes valid) thread hcwd hresume hinfra]
  | asked valid fresh told => exact .threadAsked (passes valid) keyed thread fresh told

/-- A turn call, as a step of the client. -/
theorem Starts.performs
    (starts : Starts w operation inputID text (sha256 (turnInput inputID text)) c result) :
    Performs sha256 ⟨w, .startTurn operation inputID text⟩ c result := by
  cases starts with
  | refused e => exact .refused e
  | replayed passes taken digest known =>
    refine .turnReplayed passes rfl ?_
    simp [turns, taken, digest, recorded_some known]
  | asked passes fresh threaded admitted told =>
    exact .turnAsked passes rfl fresh threaded admitted told

theorem perform_performs (sha256 : Bytes → String) (k : Call) (c : Client) :
    Performs sha256 k c (k.perform sha256 c) := by
  obtain ⟨w, operation⟩ := k
  cases operation with
  | startThread cwd => exact (openThread_opens w cwd "" false c).performs rfl rfl id
  | resumeThread cwd threadID =>
    unfold Call.perform Operation.perform
    dsimp only
    split
    · exact .refused _
    rename_i named
    exact (openThread_opens w cwd threadID false c).performs rfl rfl
      fun valid => ⟨by simpa using named, valid⟩
  | resumeThreadForInfrastructure cwd threadID =>
    unfold Call.perform Operation.perform
    dsimp only
    split
    · exact .refused _
    rename_i named
    exact (openThread_opens w cwd threadID true c).performs rfl rfl
      fun valid => ⟨by simpa using named, valid⟩
  | startTurn operation inputID text =>
    exact (startTurn_starts sha256 w operation inputID text c).performs

end Steps

/-! ### The laws of the two slots -/

section Laws
variable {sha256 : Bytes → String} {k : Call} {c : Client} {result : Except Error String × Client}

theorem thread_started (passes : k.Passes)
    (thread : k.operation.thread = some (cwd, "", infrastructure)) : infrastructure = false := by
  obtain ⟨w, operation⟩ := k
  cases operation with
  | startThread | resumeThread => simp_all [Operation.thread]
  | resumeThreadForInfrastructure =>
    have named := validThreadID_ne passes.1
    simp_all [Operation.thread]
  | startTurn => simp [Operation.thread] at thread

theorem threadRequest_id (cwd resumeID : String) (infrastructure : Bool) :
    (threadRequest cwd resumeID infrastructure).id = 2 := by
  unfold threadRequest
  dsimp only
  split <;> rfl

theorem Performs.consistent (performs : Performs sha256 k c result) (before : Consistent c) :
    Consistent result.2 := by
  cases performs with
  | refused | threadReplayed | turnReplayed => exact before
  | threadAsked passes keyed thread fresh told =>
    refine ⟨before.initialized, fun never => (by cases never), ?_, before.untaken, ?_⟩
    · rintro rfl
      exact thread_started passes thread
    · intro taken
      exact absurd (before.unattempted fresh) (before.threaded taken).1
  | turnAsked passes keyed fresh threaded admitted told =>
    exact ⟨before.initialized, before.unattempted, before.started, fun never => (by cases never),
      fun _ => ⟨threaded, admitted⟩⟩

theorem Performs.thread_frozen {x : Operation × Option String}
    (performs : Performs sha256 k c result) (filled : threads.slot c = some x) :
    threads.slot result.2 = some x := by
  cases performs with
  | refused | threadReplayed | turnReplayed | turnAsked => exact filled
  | threadAsked passes keyed thread fresh told => simp [threads, fresh] at filled

theorem Performs.turn_frozen {x : (ID × String) × Option String}
    (performs : Performs sha256 k c result) (filled : (turns sha256).slot c = some x) :
    (turns sha256).slot result.2 = some x := by
  cases performs with
  | refused | threadReplayed | turnReplayed | threadAsked => exact filled
  | turnAsked passes keyed fresh threaded admitted told => simp [turns, fresh] at filled

theorem Performs.thread_counted (performs : Performs sha256 k c result) :
    threads.count result.2 + (threads.slot c).isSome.toNat =
      threads.count c + (threads.slot result.2).isSome.toNat := by
  cases performs with
  | refused | threadReplayed | turnReplayed => rfl
  | threadAsked passes keyed thread fresh told =>
    simp [threads, requested, Client.threadAsked, fresh, threadRequest_id]
  | turnAsked => simp [threads, requested, Client.turnAsked, Client.threadOperation, turnRequest]

theorem Performs.turn_counted (performs : Performs sha256 k c result) :
    (turns sha256).count result.2 + ((turns sha256).slot c).isSome.toNat =
      (turns sha256).count c + ((turns sha256).slot result.2).isSome.toNat := by
  cases performs with
  | refused | threadReplayed | turnReplayed => rfl
  | threadAsked =>
    simp [turns, requested, Client.threadAsked, threadRequest_id]
  | turnAsked passes keyed fresh threaded admitted told =>
    simp [turns, requested, Client.turnAsked, fresh, turnRequest]

/-- A thread call and a turn call are never the same call. -/
theorem not_both {operation : Operation} {key : ID × String}
    (thread : threads.key k = some operation) : (turns sha256).key k ≠ some key := by
  obtain ⟨w, op⟩ := k
  cases op <;> simp [threads, turns] at thread ⊢

theorem threads_key {operation : Operation} (keyed : threads.key k = some operation) :
    k.operation = operation := by
  obtain ⟨w, op⟩ := k
  cases op <;> simp_all [threads]

theorem identity_thread {operation : Operation} (keyed : threads.key k = some operation) :
    c.identity k.operation = c.threadID := by
  obtain ⟨w, op⟩ := k
  cases op <;> simp_all [threads, Client.identity]

theorem identity_turn {key : ID × String} (keyed : (turns sha256).key k = some key) :
    c.identity k.operation = c.turnID := by
  obtain ⟨w, op⟩ := k
  cases op <;> simp_all [turns, Client.identity]

/-- What a call that asked leaves in its slot. -/
theorem Asked.error {expires : Bool} {answer : Except Error String} {e : Error}
    (told : Asked before expires answer id) (unset : before = "") (failed : answer = .error e)
    (unstored : ¬ (id ≠ "" ∧ expires = true)) : recorded id = none := by
  cases told with
  | failed => exact if_pos unset
  | returned => cases failed
  | lost found expired => exact absurd ⟨found, expired⟩ unstored

theorem Asked.ok {expires : Bool} {answer : Except Error String}
    (told : Asked before expires answer id) (returned : answer = .ok b) : recorded id = some b := by
  cases told with
  | failed => cases returned
  | returned found =>
    cases returned
    exact recorded_some found
  | lost => cases returned

/-- A thread call on the client that has it recorded. -/
theorem perform_known (before : Consistent c) (passes : k.Passes)
    (keyed : threads.key k = some k.operation)
    (filled : threads.slot c = some (k.operation, some b)) : k.perform sha256 c = (.ok b, c) := by
  have attempted : c.threadAttempted = true := by
    by_contra fresh
    simp [threads, fresh] at filled
  simp only [threads, attempted, if_true, Option.some.injEq, Prod.mk.injEq] at filled
  obtain ⟨asked, known⟩ := filled
  have named : c.threadID ≠ "" ∧ c.threadID = b := recorded_eq_some.mp known
  obtain ⟨w, operation⟩ := k
  unfold Client.threadOperation at asked
  have init := before.initialized
  have started := before.started
  cases operation with
  | startTurn => simp [threads] at keyed
  | startThread | resumeThread | resumeThreadForInfrastructure =>
    simp only [Call.Passes] at passes
    grind [Call.perform, Operation.perform, openThread]

/-- The call on the client that has its turn recorded. -/
theorem startTurn_known (before : Consistent c) (passes : turnPasses operation inputID text = true)
    (filled : (turns sha256).slot c =
      some ((operation, sha256 (turnInput inputID text)), some b)) :
    startTurn sha256 w operation inputID text c = (.ok b, c) := by
  simp only [turns, Option.map_eq_some_iff, Prod.mk.injEq] at filled
  obtain ⟨taken, found, ⟨rfl, digest⟩, known⟩ := filled
  obtain ⟨threaded, admitted⟩ := before.threaded (by simp [found])
  obtain ⟨named, rfl⟩ := recorded_eq_some.mp known
  simp only [turnPasses, Bool.and_eq_true, Bool.not_eq_true', decide_eq_true_eq] at passes
  obtain ⟨⟨⟨⟨nonempty, short⟩, encoded⟩, first⟩, second⟩ := passes
  have short : ¬ 16384 < text.length := Nat.not_lt.mpr short
  simp [startTurn, threaded, admitted, nonempty, short, encoded, first, second, found, digest,
    named]

end Laws

theorem threads_takes (sha256 : Bytes → String) {operation : Operation}
    (keyed : threads.key k = some operation) :
    threads.Takes k.Passes c operation (k.perform sha256 c) := by
  obtain rfl := threads_key keyed
  generalize k.perform sha256 c = result, perform_performs sha256 k c = performs
  cases performs with
  | refused e => exact .refused e
  | threadReplayed passes _ found => exact .replayed passes found
  | threadAsked passes _ thread fresh told =>
    exact .asked passes (by simp [threads, fresh]) (threadAsked_slot passes thread)
      fun _ returned => told.ok returned
  | turnReplayed _ turn | turnAsked _ turn => exact absurd turn (not_both keyed)

theorem turns_takes (sha256 : Bytes → String) {key : ID × String}
    (keyed : (turns sha256).key k = some key) :
    (turns sha256).Takes k.Passes c key (k.perform sha256 c) := by
  generalize k.perform sha256 c = result, perform_performs sha256 k c = performs
  cases performs with
  | refused e => exact .refused e
  | threadReplayed _ thread | threadAsked _ thread => exact absurd keyed (not_both thread)
  | turnReplayed passes turn found =>
    obtain rfl := Option.some.inj (turn.symm.trans keyed)
    exact .replayed passes found
  | turnAsked passes turn fresh _ _ told =>
    obtain rfl := Option.some.inj (turn.symm.trans keyed)
    exact .asked passes (by simp [turns, fresh]) rfl fun _ returned => told.ok returned

theorem threads_lawful (sha256 : Bytes → String) :
    threads.Lawful (Call.perform sha256) Consistent Call.Passes where
  keeps {k c} before := (perform_performs sha256 k c).consistent before
  frozen {k c _} _ filled := (perform_performs sha256 k c).thread_frozen filled
  counted {k c} _ := (perform_performs sha256 k c).thread_counted
  other _ keyed filled differs := (threads_takes sha256 keyed).error filled (.inl differs)
  unknown _ keyed filled := (threads_takes sha256 keyed).error filled (.inr rfl)
  known {k c operation b} before keyed filled passes := by
    obtain rfl := threads_key keyed
    exact perform_known before passes keyed filled
  returned _ keyed := (threads_takes sha256 keyed).returned
  requested _ keyed := (threads_takes sha256 keyed).requested

theorem turns_lawful (sha256 : Bytes → String) :
    (turns sha256).Lawful (Call.perform sha256) Consistent Call.Passes where
  keeps {k c} before := (perform_performs sha256 k c).consistent before
  frozen {k c _} _ filled := (perform_performs sha256 k c).turn_frozen filled
  counted {k c} _ := (perform_performs sha256 k c).turn_counted
  other _ keyed filled differs := (turns_takes sha256 keyed).error filled (.inl differs)
  unknown _ keyed filled := (turns_takes sha256 keyed).error filled (.inr rfl)
  known {k c key b} before keyed filled passes := by
    obtain ⟨w, operation⟩ := k
    cases operation with
    | startThread | resumeThread | resumeThreadForInfrastructure => simp [turns] at keyed
    | startTurn operation inputID text =>
      obtain rfl := Option.some.inj keyed
      exact startTurn_known before passes filled
  returned _ keyed := (turns_takes sha256 keyed).returned
  requested _ keyed := (turns_takes sha256 keyed).requested

/-! ### Runs -/

/-- The client after a sequence of calls. -/
def Client.afterCalls (sha256 : Bytes → String) (c : Client) (calls : List Call) : Client :=
  Once.run (Call.perform sha256) c calls

/-- The call writes a request. -/
def Call.Wrote (sha256 : Bytes → String) (k : Call) (c : Client) : Prop :=
  (k.perform sha256 c).2.requests ≠ c.requests

/-- The identifier of the request an operation makes. -/
def Operation.requestID : Operation → Nat
  | .startTurn .. => 3
  | _ => 2

/-- The texts whose digests the turn calls compare. -/
def hashed (calls : List Call) : Set Bytes :=
  { input | ∃ k ∈ calls, ∃ operation inputID text,
    k.operation = .startTurn operation inputID text ∧ input = turnInput inputID text }

/-- What `first`, made in the state `c`, settles for `later`, made after the calls
`between`. -/
structure Stable (sha256 : Bytes → String) (c : Client) (first : Call) (between : List Call)
    (later : Call) : Prop where
  failed : first.Wrote sha256 c → (∃ e, (first.perform sha256 c).1 = .error e) →
    ¬ first.StoredBeforeExpiry sha256 c → later.operation = first.operation →
    ∃ e, (later.perform sha256 ((first.perform sha256 c).2.afterCalls sha256 between)).1 = .error e
  returned : ∀ id, (first.perform sha256 c).1 = .ok id → later.operation = first.operation →
    later.perform sha256 ((first.perform sha256 c).2.afterCalls sha256 between) =
      (.ok id, (first.perform sha256 c).2.afterCalls sha256 between)
  changed : first.Wrote sha256 c → later.operation.requestID = first.operation.requestID →
    later.operation ≠ first.operation →
    ∃ e, (later.perform sha256 ((first.perform sha256 c).2.afterCalls sha256 between)).1 = .error e

/-- The text before the zero byte has the length of an identifier, so the digest's input
determines both parts. -/
theorem turnInput_inj {a b : ID} {s t : Bytes} (same : turnInput a s = turnInput b t) :
    a = b ∧ s = t := by
  obtain ⟨front, back⟩ := List.append_inj same (by simp [ID.text_length])
  refine ⟨ID.text_injective (String.toList_inj.mp ?_), (List.cons.inj back).2⟩
  have decoded (id : ID) : (id.text.toList.map fun c => UInt8.ofNat c.toNat).map
      (fun b => Char.ofNat b.toNat) = id.text.toList := by
    rw [List.map_map]
    refine (List.map_congr_left fun c found => ?_).trans (List.map_id _)
    have ascii := ID.text_ascii found
    have whole : c.toNat % 256 = c.toNat := Nat.mod_eq_of_lt (by omega)
    simp [UInt8.toNat_ofNat', whole]
  rw [← decoded a, ← decoded b, front]

section Stability
variable {sha256 : Bytes → String} {c : Client} {first later : Call}

theorem threads_key_iff : threads.key k = some k.operation ↔ k.operation.requestID = 2 := by
  obtain ⟨w, operation⟩ := k
  cases operation <;> simp [threads, Operation.requestID]

theorem turns_key_of (sha256 : Bytes → String) (turn : k.operation.requestID ≠ 2) :
    ∃ operation inputID text, k.operation = .startTurn operation inputID text ∧
      (turns sha256).key k = some (operation, sha256 (turnInput inputID text)) := by
  obtain ⟨w, operation⟩ := k
  cases operation with
  | startTurn operation inputID text => exact ⟨operation, inputID, text, rfl, rfl⟩
  | startThread | resumeThread | resumeThreadForInfrastructure =>
    exact absurd rfl turn

/-- A call that wrote wrote the request of its own family. -/
theorem Wrote.thread (wrote : k.Wrote sha256 c) (keyed : threads.key k = some k.operation) :
    threads.count (k.perform sha256 c).2 ≠ threads.count c := by
  unfold Call.Wrote at wrote
  generalize k.perform sha256 c = result, perform_performs sha256 k c = performs at wrote ⊢
  cases performs with
  | refused | threadReplayed | turnReplayed => exact absurd rfl wrote
  | threadAsked => simp [threads, requested, Client.threadAsked, threadRequest_id]
  | turnAsked _ turn => exact absurd turn (not_both keyed)

theorem Wrote.turn {key : ID × String} (wrote : k.Wrote sha256 c)
    (keyed : (turns sha256).key k = some key) :
    (turns sha256).count (k.perform sha256 c).2 ≠ (turns sha256).count c := by
  unfold Call.Wrote at wrote
  generalize k.perform sha256 c = result, perform_performs sha256 k c = performs at wrote ⊢
  cases performs with
  | refused | threadReplayed | turnReplayed => exact absurd rfl wrote
  | threadAsked _ thread => exact absurd keyed (not_both thread)
  | turnAsked => simp [turns, requested, Client.turnAsked, turnRequest]

/-- A call that wrote, failed and stored nothing leaves its slot without an outcome. -/
theorem Wrote.thread_unknown {e : Error} (before : Consistent c) (wrote : k.Wrote sha256 c)
    (keyed : threads.key k = some k.operation) (failed : (k.perform sha256 c).1 = .error e)
    (unstored : ¬ k.StoredBeforeExpiry sha256 c) :
    threads.slot (k.perform sha256 c).2 = some (k.operation, none) := by
  unfold Call.Wrote at wrote
  unfold Call.StoredBeforeExpiry at unstored
  generalize k.perform sha256 c = result, perform_performs sha256 k c = performs
    at wrote failed unstored ⊢
  cases performs with
  | refused | threadReplayed | turnReplayed => exact absurd rfl wrote
  | threadAsked passes _ thread fresh told =>
    rw [identity_thread keyed] at unstored
    rw [threadAsked_slot passes thread, told.error (before.unattempted fresh) failed unstored]
  | turnAsked _ turn => exact absurd turn (not_both keyed)

theorem Wrote.turn_unknown {key : ID × String} {e : Error} (before : Consistent c)
    (wrote : k.Wrote sha256 c) (keyed : (turns sha256).key k = some key)
    (failed : (k.perform sha256 c).1 = .error e) (unstored : ¬ k.StoredBeforeExpiry sha256 c) :
    (turns sha256).slot (k.perform sha256 c).2 = some (key, none) := by
  unfold Call.Wrote at wrote
  unfold Call.StoredBeforeExpiry at unstored
  generalize k.perform sha256 c = result, perform_performs sha256 k c = performs
    at wrote failed unstored ⊢
  cases performs with
  | refused | threadReplayed | turnReplayed => exact absurd rfl wrote
  | threadAsked _ thread => exact absurd keyed (not_both thread)
  | turnAsked passes turn fresh _ _ told =>
    rw [identity_turn keyed] at unstored
    obtain rfl := Option.some.inj (turn.symm.trans keyed)
    exact congrArg (fun v => some (_, v)) (told.error (before.untaken fresh) failed unstored)

theorem passes_of_same (same : later.operation = first.operation) (passes : first.Passes) :
    later.Passes := by
  unfold Call.Passes at *
  rwa [same]

theorem stable_thread (before : Consistent c) (between : List Call)
    (thread : first.operation.requestID = 2) : Stable sha256 c first between later where
  failed wrote failed unstored same := by
    obtain ⟨e, failed⟩ := failed
    have unknown := Wrote.thread_unknown before wrote (threads_key_iff.mpr thread) failed unstored
    refine Once.failed_again (threads_lawful sha256) before ?_ unknown between
    rw [← same]
    exact threads_key_iff.mpr (same ▸ thread)
  returned id returned same := by
    refine Once.returned_again (threads_lawful sha256) before (threads_key_iff.mpr thread) ?_
      (passes_of_same same) returned between
    rw [← same]
    exact threads_key_iff.mpr (same ▸ thread)
  changed wrote family differs := by
    have keyed := threads_key_iff.mpr thread
    exact Once.changed_fails (threads_lawful sha256) before keyed
      (threads_key_iff.mpr (family.trans thread)) differs (Wrote.thread wrote keyed) between

theorem stable_turn (before : Consistent c) (between : List Call)
    (collisionFree : Set.InjOn sha256 (hashed [first, later]))
    (turn : first.operation.requestID ≠ 2) : Stable sha256 c first between later := by
  obtain ⟨operation, inputID, text, asked, keyed⟩ := turns_key_of sha256 turn
  have repeated (same : later.operation = first.operation) :
      (turns sha256).key later = some (operation, sha256 (turnInput inputID text)) := by
    simp only [turns, same, asked]
  refine ⟨fun wrote failed unstored same => ?_, fun id returned same => ?_,
    fun wrote family differs => ?_⟩
  · obtain ⟨e, failed⟩ := failed
    exact Once.failed_again (turns_lawful sha256) before (repeated same)
      (Wrote.turn_unknown before wrote keyed failed unstored) between
  · exact Once.returned_again (turns_lawful sha256) before keyed (repeated same)
      (passes_of_same same) returned between
  · obtain ⟨operation', inputID', text', asked', keyed'⟩ :=
      turns_key_of sha256 (family ▸ turn : later.operation.requestID ≠ 2)
    refine Once.changed_fails (turns_lawful sha256) before keyed keyed' ?_ (Wrote.turn wrote keyed)
      between
    -- equal keys give equal inputs, as no two of them collide
    intro same
    obtain ⟨sameOperation, sameDigest⟩ := Prod.mk.inj same
    have sameInput := collisionFree ⟨later, by simp, _, _, _, asked', rfl⟩
      ⟨first, by simp, _, _, _, asked, rfl⟩ sameDigest
    obtain ⟨sameID, sameText⟩ := turnInput_inj sameInput
    exact differs (by rw [asked, asked', sameOperation, sameID, sameText])

end Stability

theorem hashed_mono {some all : List Call} (within : some ⊆ all) : hashed some ⊆ hashed all := by
  rintro input ⟨k, found, rest⟩
  exact ⟨k, within found, rest⟩

/-- Over any sequence of calls one thread request and one turn request are written at
most, and what a call settled stays settled: an identity that was returned is returned
again and nothing is written, other arguments are refused, and a failure is final unless
the failing call had stored an identity before its context expired. -/
theorem requests_stable (sha256 : Bytes → String) (lines : List Bytes) (calls : List Call)
    (collisionFree : Set.InjOn sha256 (hashed calls)) :
    ((ready lines).afterCalls sha256 calls).requested 2 ≤ 1 ∧
    ((ready lines).afterCalls sha256 calls).requested 3 ≤ 1 ∧
    ∀ before first between later rest, calls = before ++ first :: (between ++ later :: rest) →
      Stable sha256 ((ready lines).afterCalls sha256 before) first between later := by
  have start := consistent_ready lines
  refine ⟨Once.count_le_one (threads_lawful sha256) start rfl calls,
    Once.count_le_one (turns_lawful sha256) start rfl calls, ?_⟩
  rintro before first between later rest rfl
  have reached := Once.inv_run (threads_lawful sha256) start before
  by_cases thread : first.operation.requestID = 2
  · exact stable_thread reached between thread
  · exact stable_turn reached between (collisionFree.mono (hashed_mono (by simp))) thread

namespace Sample

/-- A thread and a turn, and lines on which the loops of `resumeThread` and `startTurn`
find them. -/
structure Answering where
  id : String
  turnID : String
  lines : List Bytes
  reply : List Bytes
  named : validThreadID id = true
  looped : threadLoop "/" id 32 1 "" "" lines = (.ok id, reply)
  turned : turnLoop id id 32 1 reply = (.ok turnID, [])

/-- The call whose context has expired when it returns, or has not. -/
def Answering.resume (a : Answering) (expires : Bool) : Call :=
  ⟨⟨false, true, 1, expires⟩, .resumeThread "/" a.id⟩

theorem Answering.passes (a : Answering) (expires : Bool) : (a.resume expires).Passes :=
  ⟨a.named, by decide⟩

/-- The call that asks: the identity is recorded, whatever it answers. -/
theorem Answering.resume_asks (a : Answering) (sha256 : Bytes → String) (expires : Bool) :
    (a.resume expires).perform sha256 (.ready a.lines) =
      (if expires then .error errOutcomeUnknown else .ok a.id,
        (ready a.lines).threadAsked "/" a.id false a.id expires a.reply) := by
  have rooted : validCWD "/" = true := by decide
  cases expires <;>
    simp [Call.perform, resume, Operation.perform, openThread, a.named, rooted, ready,
      a.looped, finish, Client.threadAsked, Except.isOk, Except.toBool]

/-- The client that is left knows the thread. -/
theorem Answering.resume_knows (a : Answering) (sha256 : Bytes → String) (expires : Bool) :
    (a.resume false).perform sha256 ((a.resume expires).perform sha256 (.ready a.lines)).2 =
      (.ok a.id, ((a.resume expires).perform sha256 (.ready a.lines)).2) := by
  have before := (perform_performs sha256 (a.resume expires) (.ready a.lines)).consistent
    (consistent_ready a.lines)
  refine perform_known before (a.passes false) rfl ?_
  rw [a.resume_asks, ← recorded_some (validThreadID_ne a.named)]
  exact threadAsked_slot (a.passes false) rfl

/-- A turn of one letter. -/
def prompt (letter : UInt8) : Call :=
  ⟨⟨false, true, 1, false⟩, .startTurn (.v7 1) (.v7 2) [letter]⟩

theorem Answering.prompt_asks (a : Answering) (sha256 : Bytes → String) :
    (prompt 65).perform sha256 ((a.resume false).perform sha256 (.ready a.lines)).2 =
      (.ok a.turnID, ((ready a.lines).threadAsked "/" a.id false a.id false a.reply).turnAsked
        (.v7 1) (sha256 (turnInput (.v7 2) [65])) [65] a.turnID (some (a.id, a.turnID)) false
        []) := by
  have passes : turnPasses (.v7 1) (.v7 2) [65] = true := by decide +kernel
  simp only [turnPasses, Bool.and_eq_true, Bool.not_eq_true', decide_eq_true_eq] at passes
  rw [a.resume_asks]
  simp [Call.perform, prompt, Operation.perform, startTurn, Client.threadAsked, Client.turnAsked,
    ready, validThreadID_ne a.named, passes, a.turned, finish, Except.isOk, Except.toBool]

theorem Answering.prompt_writes (a : Answering) (sha256 : Bytes → String) :
    (prompt 65).Wrote sha256 ((a.resume false).perform sha256 (.ready a.lines)).2 := by
  unfold Call.Wrote
  rw [a.prompt_asks, a.resume_asks]
  simp [Client.turnAsked]

theorem prompt_apart : (prompt 66).operation ≠ (prompt 65).operation := by
  intro same
  exact absurd (Operation.startTurn.inj same).2.2 (by decide)

/-- The SHA-256 sums of the two inputs below. -/
def sha256 (input : Bytes) : String :=
  if input = turnInput (.v7 2) [65] then
    "d73f9aada4d581df61cfa569a0b61d75d915471588c8d0503d5c72efdd5ae98f"
  else "2d2c9ab02ce747c571c8169d18a3ca67d101abf92de8c91a8b3a239fdf62256a"

/-- A turn, the same turn again and a turn with another text. -/
def Answering.calls (a : Answering) : List Call :=
  [a.resume false, prompt 65, prompt 65, prompt 66]

theorem hashed_prompt {letter : UInt8} {operation inputID : ID} {text : Bytes}
    (asked : (prompt letter).operation = .startTurn operation inputID text) :
    turnInput inputID text = turnInput (.v7 2) [letter] := by
  obtain ⟨-, sameID, sameText⟩ := Operation.startTurn.inj asked
  rw [← sameID, ← sameText]

theorem Answering.hashed_calls (a : Answering) {input : Bytes} (found : input ∈ hashed a.calls) :
    input = turnInput (.v7 2) [65] ∨ input = turnInput (.v7 2) [66] := by
  obtain ⟨k, called, operation, inputID, text, asked, hashes⟩ := found
  rw [hashes]
  simp only [calls, List.mem_cons, List.not_mem_nil, or_false] at called
  rcases called with same | same | same | same <;> rw [same] at asked
  · exact Operation.noConfusion asked
  · exact .inl (hashed_prompt asked)
  · exact .inl (hashed_prompt asked)
  · exact .inr (hashed_prompt asked)

theorem sha256_apart : sha256 (turnInput (.v7 2) [65]) ≠ sha256 (turnInput (.v7 2) [66]) := by
  decide +kernel

theorem Answering.collisionFree (a : Answering) : Set.InjOn sha256 (hashed a.calls) := by
  intro x hx y hy same
  rcases a.hashed_calls hx with rfl | rfl <;> rcases a.hashed_calls hy with rfl | rfl
  · rfl
  · exact absurd same sha256_apart
  · exact absurd same.symm sha256_apart
  · rfl

/-- The response to the resume request. -/
def idleResponse : Bytes :=
  bytesOf "\x7b\"id\":2,\"result\":\x7b\"cwd\":\"/\",\"approvalPolicy\":\"never\",\"sandbox\":" ++
    bytesOf "\x7b\"type\":\"readOnly\",\"networkAccess\":false\x7d,\"thread\":\x7b\"id\":" ++
    bytesOf "\"00000000-0000-0000-0000-000000000000\",\"cwd\":\"/\",\"cliVersion\":\"0.155.0\"," ++
    bytesOf "\"ephemeral\":false,\"status\":\x7b\"type\":\"idle\"\x7d\x7d\x7d\x7d\n"

/-- The response to the turn request. -/
def turnReply : Bytes :=
  bytesOf "\x7b\"id\":3,\"result\":\x7b\"turn\":\x7b\"id\":" ++
    bytesOf "\"00000000-0000-0000-0000-000000000001\",\"status\":\"inProgress\"\x7d\x7d\x7d\n"

def answering : Answering where
  id := "00000000-0000-0000-0000-000000000000"
  turnID := "00000000-0000-0000-0000-000000000001"
  lines := [idleResponse, turnReply]
  reply := [turnReply]
  named := by decide +kernel
  looped := by decide +kernel
  turned := by decide +kernel

end Sample

open Sample

/-- The repeated turn answers what the first one did, and the other text is refused. -/
theorem requests_stable_sample :
    Set.InjOn Sample.sha256 (hashed answering.calls) ∧
    ((ready answering.lines).afterCalls Sample.sha256 answering.calls).requested 2 ≤ 1 ∧
    ((ready answering.lines).afterCalls Sample.sha256 answering.calls).requested 3 ≤ 1 ∧
    ∃ c, (prompt 65).perform Sample.sha256
        ((ready answering.lines).afterCalls Sample.sha256 [answering.resume false]) =
          (.ok answering.turnID, c) ∧
      (prompt 65).perform Sample.sha256 c = (.ok answering.turnID, c) ∧
      ∃ e, ((prompt 66).perform Sample.sha256 c).1 = .error e := by
  generalize answering = a
  obtain ⟨threads, turns, stable⟩ :=
    requests_stable Sample.sha256 a.lines a.calls a.collisionFree
  have asks : ((prompt 65).perform Sample.sha256
      ((ready a.lines).afterCalls Sample.sha256 [a.resume false])).1 = .ok a.turnID :=
    congrArg Prod.fst (a.prompt_asks Sample.sha256)
  have repeated := stable [a.resume false] (prompt 65) [] (prompt 65) [prompt 66] rfl
  have altered := stable [a.resume false] (prompt 65) [prompt 65] (prompt 66) [] rfl
  have again := repeated.returned _ asks rfl
  have refused := altered.changed (a.prompt_writes Sample.sha256) rfl prompt_apart
  refine ⟨a.collisionFree, threads, turns, _, Prod.ext asks rfl, again, ?_⟩
  -- the repeated call left the client as it was
  simp only [Client.afterCalls, Once.run, List.foldl_cons, List.foldl_nil] at again refused
  rwa [again] at refused

/-- The response arrives, the context expires before the call returns: the call fails, and
the same call later returns the thread. -/
theorem expired_resume_not_final :
    (answering.resume true).Wrote (fun _ => "") (.ready answering.lines) ∧
    ((answering.resume true).perform (fun _ => "") (.ready answering.lines)).1 =
      .error errOutcomeUnknown ∧
    (answering.resume false).operation = (answering.resume true).operation ∧
    ((answering.resume false).perform (fun _ => "")
      ((answering.resume true).perform (fun _ => "") (.ready answering.lines)).2).1 =
      .ok answering.id := by
  have asked := answering.resume_asks (fun _ => "") true
  refine ⟨?_, congrArg Prod.fst asked, rfl,
    congrArg Prod.fst (answering.resume_knows (fun _ => "") true)⟩
  unfold Call.Wrote
  rw [asked]
  simp [Client.threadAsked, ready]

end ThinkPixelAR.Codex
