import ThinkPixelAR.Postgres.WorkClaims

/-!
The digest of an outbox payload beside the payload. `Add` hands the bytes of the payload to a
`jsonb` column, which keeps the JSON value and returns its own normal text, and the digest to a
`text` column. The trigger of the table keeps both from then on, so every later read returns the
digest of the bytes that were added beside the normal text of their value.
-/
namespace ThinkPixelAR.Postgres

open Relational
open Outbox (Message)

variable {now : Time} {db after : Db} {m : Message} {text : String}

/-- The database's `jsonb`, which refuses a text or answers with the normal text of its value,
and SHA-256. -/
structure PayloadLibrary where
  jsonb : String → Except Error String
  sha256 : String → Digest

namespace OutboxMessages

variable (lib : PayloadLibrary)

/-- The statement of `Add`. -/
def insertMessage (value : Message) : Transaction Unit :=
  execWrapped "insert outbox message"
    (.insert .outboxMessages
      { value with
        ownerID := none, claimExpiresAt := none, lastErrorCode := none, deadLetter := none
        deliveredAt := none, availableAt := timestamptz value.availableAt
        createdAt := timestamptz value.createdAt, updatedAt := timestamptz value.updatedAt })

/-- `Add`, with the payload as its column keeps it and the check on its length. -/
def add (value : Message) : Transaction Unit := do
  match value.envelope.payload with
  | none => insertMessage value
  | some text =>
    let stored ← Tx.lift ((lib.jsonb text).mapError (wrap "insert outbox message"))
    Tx.require (2 ≤ stored.utf8ByteSize ∧ stored.utf8ByteSize ≤ 65536)
      (wrap "insert outbox message"
        (Fault.error ⟨.checkViolation, "violates check constraint"⟩))
    insertMessage { value with envelope := { value.envelope with payload := some stored } }

/-- The digest of the Message is that of its payload. -/
def DigestOfPayload (m : Message) : Prop :=
  ∀ text, m.envelope.payload = some text → m.envelope.payloadDigest = lib.sha256 text

end OutboxMessages

open OutboxMessages

/-- No transaction of the program deletes a Message. -/
def Durable (c : Stmt) : Prop := ∀ selects, c ≠ .delete .outboxMessages selects

/-- The second store is reached from the first by committed transactions. -/
inductive Later : Db → Db → Prop
  | refl (db : Db) : Later db db
  | step {db mid after : Db} {α : Type} {now : Time} {x : Transaction α} {a : α}
      (before : Later db mid) (submits : x.Submits Durable)
      (committed : withinTransaction now x mid = .ok (a, after)) : Later db after

/-- A call of `Get` or `ClaimAvailable` returned the Message. -/
inductive Returned (db : Db) : Message → Prop
  | get {now : Time} {id : ID} {m : Message} {after : Db}
      (read : withinTransaction now (OutboxMessages.get id) db = .ok (m, after)) : Returned db m
  | claimed {now at_ lease : Time} {ownerID : ID} {limit : Nat} {skip : ID → Bool}
      {messages : List Message} {m : Message} {after : Db}
      (read : withinTransaction now
        (claimAvailable ownerID at_ lease limit skip) db = .ok (messages, after))
      (member : m ∈ messages) : Returned db m

/-- The columns that no update changes. -/
def SameEnvelope (a b : Message) : Prop := b.id = a.id ∧ b.envelope = a.envelope

def EnvelopesKept (db after : Db) : Prop :=
  Keeps SameEnvelope (db .outboxMessages) (after .outboxMessages)

theorem EnvelopesKept.refl (db : Db) : EnvelopesKept db db := Keeps.refl fun _ => ⟨rfl, rfl⟩

theorem EnvelopesKept.trans {a b c : Db} (first : EnvelopesKept a b)
    (second : EnvelopesKept b c) : EnvelopesKept a c :=
  Keeps.trans (fun x y => ⟨y.1.trans x.1, y.2.trans x.2⟩) first second

theorem execute_keeps_envelopes {c : Stmt} {n : Nat} (durable : Durable c)
    (accepted : (rules now).execute c db = .ok (n, after)) : EnvelopesKept db after := by
  intro old member
  cases fate accepted (by decide) member with
  | kept stays => exact ⟨old, stays, rfl, rfl⟩
  | written selected stays =>
    obtain ⟨triggers, -⟩ := Rules.execute_update.mp accepted
    have kept := refuse_ok.mp (except_seq_ok.mp (triggers old member selected)).1
    simp only [not_or, not_not] at kept
    exact ⟨_, stays, kept.1, kept.2.1⟩
  | deleted => exact absurd rfl (durable _)

/-- A row keeps its envelope in every later store, which satisfies the schema as the first. -/
theorem Later.keeps (sound : Sound db) (later : Later db after) :
    EnvelopesKept db after ∧ Sound after := by
  induction later with
  | refl => exact ⟨.refl _, sound⟩
  | step before submits committed ih =>
    obtain ⟨kept, sound⟩ := ih
    have ran := withinTransaction_run committed
    have moved := Tx.run_relates EnvelopesKept.refl EnvelopesKept.trans
      (fun _ _ _ _ durable accepted => execute_keeps_envelopes durable accepted) submits ran
    exact ⟨kept.trans moved, run_sound sound ran⟩

theorem restored_same {row : Message} (restored : row.restore = .ok m) : m = row := by
  unfold Message.restore at restored
  split at restored <;> cases restored
  rfl

/-- What is returned is a row, but for the columns of a claim. -/
theorem Returned.row (returned : Returned db m) :
    ∃ row ∈ db .outboxMessages, SameEnvelope row m := by
  cases returned with
  | get read =>
    have ran := withinTransaction_run read
    simp only [OutboxMessages.get, Tx.run_bind, Tx.run_get, Tx.run_expect, Tx.run_lift] at ran
    obtain ⟨_, _, ⟨rfl, rfl⟩, row, _, ⟨found, rfl⟩, restored, rfl⟩ := ran
    exact ⟨row, List.mem_of_find?_eq_some found, restored_same restored ▸ ⟨rfl, rfl⟩⟩
  | claimed read member =>
    have ran := withinTransaction_run read
    simp only [claimAvailable, claimRows, Tx.run_bind, Tx.run_get, Tx.run_require,
      Tx.run_perform, Tx.run_lift, mapM_eq_ok_iff, List.map_map] at ran
    obtain ⟨_, _, ⟨-, rfl⟩, _, _, ⟨rfl, rfl⟩, _, _, -, scanned, rfl⟩ := ran
    have found : Except.ok m ∈ List.map (Message.restore ∘ _) _ :=
      scanned ▸ List.mem_map_of_mem member
    obtain ⟨row, chosen, restored⟩ := List.mem_map.mp found
    have selected := List.mem_of_mem_take chosen
    rw [List.mem_insertionSort, List.mem_filter] at selected
    exact ⟨row, selected.1, restored_same restored ▸ ⟨rfl, rfl⟩⟩

/-- A Message that is added has a row with the normal text of its payload. -/
theorem added_row {lib : PayloadLibrary} (payload : m.envelope.payload = some text)
    (added : withinTransaction now (add lib m) db = .ok ((), after)) :
    ∃ stored, lib.jsonb text = .ok stored ∧ Sound after ∧ ∃ row ∈ after .outboxMessages,
      row.id = m.id ∧ row.envelope = { m.envelope with payload := some stored } := by
  have ran := withinTransaction_run added
  simp only [add, payload, insertMessage, Tx.run_bind, Tx.run_lift, Tx.run_require,
    run_execWrapped] at ran
  obtain ⟨stored, _, ⟨normal, rfl⟩, _, _, ⟨-, rfl⟩, n, inserted⟩ := ran
  refine ⟨stored, ?_, execute_sound inserted, ?_⟩
  · cases answer : lib.jsonb text <;> simp_all [Except.mapError]
  · rw [execute_insert_rows inserted]
    exact ⟨_, List.mem_append_right _ List.mem_cons_self, rfl, rfl⟩

/-- Once a Message with the digest of its payload was added, every later read of it returns
the digest of the payload it returns exactly if the payload was its own normal text, where the
two texts do not collide under SHA-256. -/
theorem payload_integrity {lib : PayloadLibrary} {added : Db}
    (payload : m.envelope.payload = some text) (digest : m.envelope.payloadDigest = lib.sha256 text)
    (free : ∀ stored, lib.jsonb text = .ok stored → lib.sha256 text = lib.sha256 stored →
      text = stored)
    (stored : withinTransaction now (add lib m) db = .ok ((), added))
    {later : Db} (reached : Later added later) {r : Message} (returned : Returned later r)
    (same : r.id = m.id) : DigestOfPayload lib r ↔ lib.jsonb text = .ok text := by
  obtain ⟨normalText, normal, sound, row, member, named, columns⟩ := added_row payload stored
  obtain ⟨kept, sound⟩ := reached.keeps sound
  obtain ⟨current, present, identity, envelope⟩ := kept row member
  obtain ⟨found, read, identity', envelope'⟩ := returned.row
  have keys := sound.key .outboxMessages
  simp only [Postgres.keys, Bool.and_eq_true, unique_iff] at keys
  obtain rfl : found = current := keys.1.eq read present rfl rfl
    (by rw [← identity', same, identity, named])
  have holds : r.envelope = { m.envelope with payload := some normalText } := by
    rw [envelope', envelope, columns]
  constructor
  · intro intact
    have equal := intact normalText (by rw [holds])
    rw [holds] at equal
    rw [normal, free normalText normal (digest.symm.trans equal)]
  · intro settled text' found'
    obtain rfl : text = normalText := by simpa [settled] using normal
    rw [holds] at found' ⊢
    cases found'
    exact digest

namespace Sample.Payload

/-- A text, and its normal text, which has a space after the colon. -/
def tight : String := "\x7b\"a\":1\x7d"
def spaced : String := "\x7b\"a\": 1\x7d"

/-- `jsonb` and SHA-256 on the two texts. -/
def library : PayloadLibrary where
  jsonb _ := .ok spaced
  sha256 text := ⟨if text = tight then
      0x015abd7f5cc57a2dd94b7590f04ad8084273905ee33ec5cebeae62276a97f862
    else 0xf9d86028c6e0d64e225186f96acb69338b2c59764df79162107f5c4bb34d1310⟩

def message (text : String) : Message :=
  { id := ID.v7 11, ownerID := none, state := .pending, attempts := 0, claimFence := 0
    availableAt := 1000, claimExpiresAt := none, lastErrorCode := none, deadLetter := none
    createdAt := 1000, updatedAt := 1000, deliveredAt := none
    envelope :=
      { topic := "runtime.events", schemaVersion := "v1", eventID := ID.v7 21
        aggregateType := "session", aggregateID := ID.v7 2, aggregateVersion := 1
        payload := some text, payloadReference := none, payloadDigest := library.sha256 text } }

def added (text : String) : Except Error (Unit × Db) :=
  withinTransaction 1000 (add library (message text)) Db.empty

def read (db : Db) : Except Error (Message × Db) :=
  withinTransaction 1000 (OutboxMessages.get (ID.v7 11)) db

/-- The payload and the identity that are read after the text was added. -/
def readBack (text : String) : Option (Option String × Digest × ID) :=
  match (added text).bind (read ·.2) with
  | .ok (r, _) => some (r.envelope.payload, r.envelope.payloadDigest, r.id)
  | .error _ => none

theorem readBack_some {payload : Option String} {digest : Digest} {id : ID}
    (found : readBack text = some (payload, digest, id)) : ∃ db r after,
      added text = .ok ((), db) ∧ read db = .ok (r, after) ∧ r.envelope.payload = payload ∧
      r.envelope.payloadDigest = digest ∧ r.id = id := by
  unfold readBack at found
  cases stored : added text with
  | error e => simp [stored, Except.bind] at found
  | ok s =>
    cases got : read s.2 with
    | error e => simp [stored, got, Except.bind] at found
    | ok r => exact ⟨s.2, r.1, r.2, rfl, got, by simpa [stored, got, Except.bind] using found⟩

end Sample.Payload

open Sample.Payload

/-- The text without a space is returned with one, beside the digest of the first. -/
theorem reformatted_payload_loses_its_digest :
    DigestOfPayload library (message tight) ∧ ∃ db r after,
      added tight = .ok ((), db) ∧ read db = .ok (r, after) ∧
      ¬ DigestOfPayload library r := by
  have found : readBack tight = some (some spaced, library.sha256 tight, ID.v7 11) := by
    decide +kernel
  obtain ⟨db, r, after, stored, got, payload, digest, -⟩ := readBack_some found
  refine ⟨fun text same => Option.some.inj same ▸ rfl, db, r, after, stored, got, fun intact => ?_⟩
  have same := intact spaced payload
  rw [digest] at same
  revert same
  decide +kernel

theorem normal_payload_keeps_its_digest : ∃ db r after, added spaced = .ok ((), db) ∧
    read db = .ok (r, after) ∧ DigestOfPayload library r := by
  have found : readBack spaced = some (some spaced, library.sha256 spaced, ID.v7 11) := by
    decide +kernel
  obtain ⟨db, r, after, stored, got, -, -, same⟩ := readBack_some found
  have normal : library.jsonb spaced = .ok spaced := by decide +kernel
  refine ⟨db, r, after, stored, got, (payload_integrity (m := message spaced) rfl rfl ?_ stored
    (.refl db) (.get got) same).mpr normal⟩
  intro text answer _
  exact Except.ok.inj (normal.symm.trans answer)

end ThinkPixelAR.Postgres
