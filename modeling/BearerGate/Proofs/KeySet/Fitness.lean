import BearerGate.Proofs.KeySet.Document

/-!
# Keys that fit their algorithm

A key may name an algorithm that is none of its kind: an RSA key that says it is for `ES256`, or a key on a
curve that belongs to another algorithm.  Such a key **contradicts itself**, and it can be imported all the same,
because its kind and its curve are all that the import looks at.  It takes its place in the set, is counted, and
hides later keys under its key id, but no signature ever holds under it.

`Suits` is what an algorithm asks of a record.  An entry fits its algorithm exactly if the record that it comes
from does not contradict itself (`fits_iff_agrees`); from this `Fitness` follows for the set that any fetched
document makes.
-/

namespace BearerGate

open Crypto

/-! ### Records -/

namespace KeyRecord

/-- **The kind and the curve that an algorithm asks for.** -/
def Suits (r : KeyRecord) (a : SigningAlgorithm) : Prop :=
  match a.scheme with
  | .ecdsa _ c => r.kty = "EC" ∧ r.crv = some c.name
  | .rsaFixed _ | .rsaSalted _ => r.kty = "RSA"

/-- **A record that does not contradict itself:** if it names a supported algorithm, it suits it. -/
def Agrees (r : KeyRecord) : Prop := ∀ a : SigningAlgorithm, r.alg = some a.name → r.Suits a

end KeyRecord

theorem Crypto.Curve.ofName?_eq_some_iff {s : String} {c : Curve} : Curve.ofName? s = some c ↔ c.name = s := by
  constructor
  · intro found
    rw [Curve.ofName?] at found
    exact of_decide_eq_true (List.find?_some found :)
  · rintro rfl
    cases c <;> rfl

namespace KeyRecord

/-- **The kinds of keys that are imported.** -/
inductive Imports (r : KeyRecord) : PublicKey → Prop
  | rsa (k : Rsa.Key) (kty : r.kty = "RSA") : Imports r (.rsa k)
  | ec (c : Curve) (x y : Nat) (kty : r.kty = "EC") (crv : r.crv = some c.name) : Imports r (.ec c x y)
  | bytes (c : ByteCurve) (value : List UInt8) (kty : r.kty = "OKP") : Imports r (.bytes c value)

theorem imports_of_publicKey? {r : KeyRecord} {key : PublicKey} (imported : r.publicKey? = some key) :
    r.Imports key := by
  rw [publicKey?] at imported
  split at imported
  · rename_i kty
    split at imported
    · cases imported
      exact .rsa _ kty
    · cases imported
  · split at imported
    · rename_i kty
      split at imported
      · rename_i c x y curve _ _
        split at imported
        · cases imported
          obtain ⟨name, crv, named⟩ := Option.bind_eq_some_iff.1 curve
          rw [← Curve.ofName?_eq_some_iff.1 named] at crv
          exact .ec c _ _ kty crv
        · cases imported
      · cases imported
    · split at imported
      · rename_i kty
        split at imported
        · dsimp only at imported
          split at imported
          · cases imported
            exact .bytes _ _ kty
          · cases imported
        · cases imported
      · cases imported

/-- A key that was imported fits an algorithm exactly if its record suits it. -/
theorem Imports.fits_iff {r : KeyRecord} {key : PublicKey} (imports : r.Imports key) (a : SigningAlgorithm) :
    key.fits a = true ↔ r.Suits a := by
  rw [Suits]
  cases imports with
  | rsa k kty =>
    rw [PublicKey.fits]
    cases a.scheme with
    | ecdsa d c => simp [kty]
    | rsaFixed d | rsaSalted d => simp [kty]
  | ec c x y kty crv =>
    rw [PublicKey.fits]
    cases a.scheme with
    | ecdsa d c' =>
      have names : c = c' ↔ c.name = c'.name :=
        ⟨congrArg _, fun same => by cases c <;> cases c' <;> first | rfl | exact absurd same (by decide)⟩
      simp [kty, crv, names]
    | rsaFixed d | rsaSalted d => simp [kty]
  | bytes c value kty =>
    rw [PublicKey.fits]
    cases a.scheme with
    | ecdsa d c => simp [kty]
    | rsaFixed d | rsaSalted d => simp [kty]

/-- An algorithm that is implied suits; one that is named does so if the record does not contradict itself. -/
theorem Resolves.suits_iff {r : KeyRecord} {a : SigningAlgorithm} (resolves : r.Resolves a) :
    r.Suits a ↔ r.Agrees := by
  have of_unnamed : r.alg = none → r.Agrees := fun unnamed a named => absurd (unnamed.symm.trans named) (by simp)
  cases resolves with
  | named alg =>
    constructor
    · intro suits b named
      rw [← SigningAlgorithm.name_injective (Option.some.inj (alg.symm.trans named))]
      exact suits
    · exact fun agrees => agrees a alg
  | rsa unnamed kty => exact iff_of_true kty (of_unnamed unnamed)
  | p256 unnamed kty crv | p384 unnamed kty crv | p521 unnamed kty crv =>
    exact iff_of_true ⟨kty, crv⟩ (of_unnamed unnamed)

/-- **An entry fits its algorithm exactly if its record does not contradict itself.** -/
theorem Usable.fits_iff_agrees {r : KeyRecord} {entry : KeyEntry} (usable : r.Usable publicKey? entry) :
    entry.key.fits entry.algorithm = true ↔ r.Agrees := by
  rw [(imports_of_publicKey? usable.imported).fits_iff, usable.algorithm.suits_iff]

end KeyRecord

/-! ### Entries -/

namespace KeyEntry

/-- An entry whose key fits its algorithm. -/
def Fits (entry : KeyEntry) : Prop := entry.key.fits entry.algorithm = true

/-- **What fitting means:** an RSA key for the algorithms that sign with RSA, and for the others a point on
the curve of the algorithm. -/
theorem fits_iff (entry : KeyEntry) :
    entry.Fits ↔
      match entry.algorithm with
      | .rs256 | .rs384 | .rs512 | .ps256 | .ps384 | .ps512 => ∃ k, entry.key = .rsa k
      | .es256 => ∃ x y, entry.key = .ec .p256 x y
      | .es384 => ∃ x y, entry.key = .ec .p384 x y
      | .es512 => ∃ x y, entry.key = .ec .p521 x y := by
  obtain ⟨keyId, key, a⟩ := entry
  cases key <;> cases a <;> simp [Fits, PublicKey.fits, SigningAlgorithm.scheme]

/-- **No signature holds under a key that does not fit.** -/
theorem not_verifies {entry : KeyEntry} (unfit : ¬entry.Fits) (t : Token) :
    t.verifies .real entry = false := by
  refine Bool.eq_false_iff.2 fun verified => unfit ?_
  rw [Token.verifies, Bool.and_eq_true] at verified
  exact PublicKey.fits_of_verifies verified.2

end KeyEntry

/-! ### Sets -/

/-- **How far a set is fit for use** that the keys of a document make. -/
structure Fitness (keys : List Json) (set : KeySet) : Prop where
  publishes : Publishes KeyRecord.publicKey? keys set
  /-- An entry fits its algorithm exactly if the key that it comes from does not contradict itself. -/
  fits : ∀ keyId entry, set.find? keyId = some ⟨entry, set.generation⟩ →
    ∃ key ∈ keys, (KeyRecord.ofJson key).Usable KeyRecord.publicKey? entry ∧
      (entry.Fits ↔ (KeyRecord.ofJson key).Agrees)
  /-- One that does not fit is of no use for any token. -/
  barren : ∀ entry ∈ set.entries, ¬entry.Fits → ∀ t : Token, t.verifies .real entry = false
  /-- Where no usable key contradicts itself, every entry fits, -/
  sound : (∀ key ∈ keys, ∀ entry, (KeyRecord.ofJson key).Usable KeyRecord.publicKey? entry →
    (KeyRecord.ofJson key).Agrees) → ∀ entry ∈ set.entries, entry.Fits
  /-- and for a key that fits there is a fitting entry under its key id already if no earlier usable key with
  that key id contradicts itself. -/
  unshadowed : ∀ before key after entry, keys = before ++ key :: after →
    (KeyRecord.ofJson key).Usable KeyRecord.publicKey? entry → entry.Fits →
    (∀ earlier ∈ before, ∀ e, (KeyRecord.ofJson earlier).Usable KeyRecord.publicKey? e →
      e.keyId = entry.keyId → (KeyRecord.ofJson earlier).Agrees) →
    ∃ held, set.find? entry.keyId = some ⟨held, set.generation⟩ ∧ held.Fits

/-- Among the keys up to a usable one there is a first with its key id. -/
theorem exists_firstUsable {importKey : KeyImport} {before : List Json} (after : List Json) {key : Json}
    {entry : KeyEntry} (usable : (KeyRecord.ofJson key).Usable importKey entry) :
    ∃ first, FirstUsable importKey (before ++ key :: after) entry.keyId first ∧
      (first = entry ∨ ∃ earlier ∈ before, (KeyRecord.ofJson earlier).Usable importKey first) := by
  induction before with
  | nil => exact ⟨entry, ⟨[], key, after, rfl, usable, rfl, fun _ no => absurd no List.not_mem_nil⟩, .inl rfl⟩
  | cons other before ih =>
    by_cases hides : ∃ e, (KeyRecord.ofJson other).Usable importKey e ∧ e.keyId = entry.keyId
    · obtain ⟨e, usable', same⟩ := hides
      refine ⟨e, ⟨[], other, before ++ key :: after, rfl, usable', same, fun _ no => absurd no List.not_mem_nil⟩,
        .inr ⟨other, List.mem_cons_self, usable'⟩⟩
    · obtain ⟨first, ⟨pre, key', post, split, usable', same, none_before⟩, from_here⟩ := ih
      refine ⟨first, ⟨other :: pre, key', post, by rw [List.cons_append, split]; rfl, usable', same, ?_⟩, ?_⟩
      · rw [List.forall_mem_cons]
        exact ⟨fun e is_usable named => hides ⟨e, is_usable, named⟩, none_before⟩
      · refine from_here.imp id ?_
        rintro ⟨earlier, member, is_usable⟩
        exact ⟨earlier, List.mem_cons_of_mem _ member, is_usable⟩

theorem Publishes.fitness {keys : List Json} {set : KeySet}
    (publishes : Publishes KeyRecord.publicKey? keys set) : Fitness keys set := by
  have fits : ∀ keyId entry, set.find? keyId = some ⟨entry, set.generation⟩ →
      ∃ key ∈ keys, (KeyRecord.ofJson key).Usable KeyRecord.publicKey? entry ∧
        (entry.Fits ↔ (KeyRecord.ofJson key).Agrees) := by
    intro keyId entry found
    obtain ⟨before, key, after, rfl, usable, -, -⟩ := (publishes.found keyId entry).1 found
    exact ⟨key, List.mem_append_right before List.mem_cons_self, usable, usable.fits_iff_agrees⟩
  refine ⟨publishes, fits, fun entry _ unfit t => KeyEntry.not_verifies unfit t, ?_, ?_⟩
  · intro consistent entry member
    obtain ⟨key, there, usable, iff⟩ := fits entry.keyId entry (publishes.own entry member)
    exact iff.2 (consistent key there entry usable)
  · rintro before key after entry rfl usable fit consistent
    obtain ⟨first, is_first, same | ⟨earlier, member, usable'⟩⟩ := exists_firstUsable after usable
    · exact ⟨first, (publishes.found _ _).2 is_first, same ▸ fit⟩
    · refine ⟨first, (publishes.found _ _).2 is_first, usable'.fits_iff_agrees.2 ?_⟩
      obtain ⟨_, _, _, _, _, named, _⟩ := is_first
      exact consistent earlier member first usable' named

namespace KeyCache

variable (s : Settings)

/-- What is brought comes with a document. -/
theorem document_of_brought {issuer : String} {h : History} {m : Moment} {now : Number}
    {entries : List KeyEntry} (brought : brought? s issuer h m = some (now, entries)) :
    ∃ document, m = ⟨now, .fetchEnd issuer (.document document)⟩ ∧ isOut s issuer h = true ∧
      (FetchOutcome.document document).published? s.importKey = some entries := by
  obtain ⟨time, event⟩ := m
  cases event with
  | call caller c => cases brought
  | fetchEnd name outcome =>
    rw [brought?] at brought
    split at brought
    · rename_i out
      obtain ⟨rfl, out⟩ := out
      obtain ⟨published_keys, published, same⟩ := Option.map_eq_some_iff.1 brought
      cases same
      cases outcome with
      | failed => cases published
      | document document => exact ⟨document, rfl, out, published⟩
    · cases brought

/-- What was brought last was brought at some moment. -/
theorem exists_brought_of_latest {issuer : String} {h : History} {b : Number × List KeyEntry}
    (latest : latest? s issuer h = some b) :
    ∃ m before, m :: before <:+ h ∧ brought? s issuer before m = some b := by
  induction h with
  | nil => cases latest
  | cons m h ih =>
    rw [latest?, Option.or_eq_some_iff] at latest
    rcases latest with now | ⟨-, earlier⟩
    · exact ⟨m, h, List.suffix_refl _, now⟩
    · obtain ⟨m', before, part, brought⟩ := ih earlier
      exact ⟨m', before, part.trans (List.suffix_cons m h), brought⟩

/-- A set that is brought was made by the document that the fetch has ended with. -/
theorem publishes_of_brought {issuer : String} {h : History} {m : Moment} {now : Number} {set : KeySet}
    (brought : brought? s issuer h m = some (now, set.entries)) :
    ∃ document keys, m = ⟨now, .fetchEnd issuer (.document document)⟩ ∧ isOut s issuer h = true ∧
      IsKeySet document keys ∧ Publishes s.importKey keys set := by
  obtain ⟨document, rfl, out, published⟩ := document_of_brought s brought
  obtain ⟨keys, shape, entries⟩ := published?_eq_some_iff.1 published
  refine ⟨document, keys, rfl, out, shape, ?_⟩
  obtain ⟨generation, entries'⟩ := set
  cases entries
  exact publishes_usableKeys s.importKey keys generation

theorem answerTo_error_ne_count (cause : Rejection) (want : Want) (n : Nat) :
    answerTo (.error cause) want ≠ .count n := by
  cases want with
  | count => exact fun no => by cases no
  | key keyId fallback =>
    cases fallback with
    | none => exact fun no => by cases no
    | some found => exact fun no => by cases no

theorem eq_length_of_answerTo {set : KeySet} {want : Want} {n : Nat}
    (answer : answerTo (.ok set) want = .count n) : n = set.entries.length := by
  cases want with
  | key keyId fallback => cases answer
  | count => exact (CallAnswer.count.inj answer).symm

/-- **The keys of an issuer that are held,** and those that a refresh counts. -/
structure HeldKeys (h : History) (issuer : String) : Prop where
  /-- A set that is held was made by a document that came as the end of a fetch. -/
  held : ∀ set, (knownAfter s h issuer).keys = some set →
    ∃ now document before keys, ⟨now, .fetchEnd issuer (.document document)⟩ :: before <:+ h ∧
      isOut s issuer before = true ∧ IsKeySet document keys ∧ Fitness keys set
  /-- A refresh that succeeds counts the keys of the set that is held from then on. -/
  counted : ∀ now outcome p n, (p, .count n) ∈ repliesAt s h ⟨now, .fetchEnd issuer outcome⟩ →
    ∃ set document keys, (knownAfter s (⟨now, .fetchEnd issuer outcome⟩ :: h) issuer).keys = some set ∧
      outcome = .document document ∧ IsKeySet document keys ∧ n = set.entries.length ∧ Fitness keys set

/-- **Keys fit their algorithms unless they contradict themselves,** after any history. -/
theorem heldKeys (real : s.importKey = KeyRecord.publicKey?) (h : History) (issuer : String) :
    HeldKeys s h issuer := by
  constructor
  · intro set held
    have latest : latest? s issuer h = some ((knownAfter s h issuer).fetchedAt, set.entries) := by
      rw [← cached_eq_latest?, IssuerState.cached, held]
      rfl
    obtain ⟨m, before, part, brought⟩ := exists_brought_of_latest s latest
    obtain ⟨document, keys, rfl, out, shape, publishes⟩ := publishes_of_brought s brought
    rw [real] at publishes
    exact ⟨_, document, before, keys, part, out, shape, publishes.fitness⟩
  · intro now outcome p n reply
    obtain ⟨result, heard, replies⟩ := repliesAt_fetchEnd s h now issuer outcome
    rw [replies] at reply
    obtain ⟨p', -, same⟩ := List.mem_map.1 reply
    have answer := (Prod.mk.inj same).2
    cases heard with
    | fails nothing unavailable => exact absurd answer (answerTo_error_ne_count _ _ n)
    | @brings set brought held =>
      obtain ⟨document, keys, same, out, shape, publishes⟩ := publishes_of_brought s brought
      cases same
      rw [real] at publishes
      exact ⟨set, document, keys, held, rfl, shape, eq_length_of_answerTo answer, publishes.fitness⟩

/-- A document with two keys under one key id: an RSA key that says it is for signatures on a curve, and one
that says nothing. -/
def contraryKeys : List Json :=
  [.object [("kty", .string "RSA"), ("kid", .string "a"), ("alg", .string "ES256"), ("n", .string "AQAB"),
      ("e", .string "AQAB")],
    .object [("kty", .string "RSA"), ("kid", .string "a"), ("n", .string "AQAB"), ("e", .string "AQAB")]]

/-- A refresh that fetches the document. -/
def contraryFetch : Moment := ⟨20, .fetchEnd "iss-1" (.document (some (.object [("keys", .array contraryKeys)])))⟩

theorem heldKeys_of_contrary_document :
    plain.importKey = KeyRecord.publicKey? ∧
      HeldKeys plain [contraryFetch, ⟨0, .call 0 (.refresh "iss-1")⟩] "iss-1" :=
  ⟨rfl, heldKeys plain rfl _ _⟩

/-- The refresh waits for the document. -/
theorem waiting_for_contrary : waiting plain "iss-1" [⟨0, .call 0 (.refresh "iss-1")⟩] =
    [⟨0, 0, .refresh "iss-1", []⟩] := by
  have silent : (answersAt plain [] ⟨0, .call 0 (.refresh "iss-1")⟩).isEmpty = true := by decide +kernel
  exact waiting_call_of_silent (List.isEmpty_iff.1 silent)

/-- **A key that verifies nothing is kept and counted,** and hides a key under its key id that fits. -/
theorem useless_key_held :
    ∃ set entry later, (knownAfter plain [contraryFetch, ⟨0, .call 0 (.refresh "iss-1")⟩] "iss-1").keys = some set ∧
      set.entries = [entry] ∧ ¬entry.Fits ∧ (∀ t : Token, t.verifies .real entry = false) ∧
      (∃ p, repliesAt plain [⟨0, .call 0 (.refresh "iss-1")⟩] contraryFetch = [(p, .count 1)]) ∧
      (∃ key ∈ contraryKeys, (KeyRecord.ofJson key).Usable KeyRecord.publicKey? later) ∧
      later.keyId = entry.keyId ∧ later.Fits := by
  have unfit : ¬KeyEntry.Fits ⟨"a", .rsa ⟨65537, 65537⟩, .es256⟩ := Bool.false_ne_true
  have later : (KeyRecord.ofJson (contraryKeys[1])).Usable KeyRecord.publicKey?
      ⟨"a", .rsa ⟨65537, 65537⟩, .rs256⟩ := KeyRecord.usable?_eq_some_iff.1 (by decide +kernel)
  have brought : brought? plain "iss-1" [⟨0, .call 0 (.refresh "iss-1")⟩] contraryFetch =
      some (20, [⟨"a", .rsa ⟨65537, 65537⟩, .es256⟩]) := by decide +kernel
  obtain ⟨result, heard, replies⟩ := repliesAt_fetchEnd plain [⟨0, .call 0 (.refresh "iss-1")⟩] 20 "iss-1"
    (.document (some (.object [("keys", .array contraryKeys)])))
  cases heard with
  | fails nothing unavailable => exact absurd (brought.symm.trans nothing) (by simp)
  | @brings set brought' held =>
    have entries := (Prod.mk.inj (Option.some.inj (brought'.symm.trans brought))).2
    refine ⟨set, _, _, held, entries, unfit, KeyEntry.not_verifies unfit, ⟨⟨0, 0, .refresh "iss-1", []⟩, ?_⟩,
      ⟨_, List.mem_cons_of_mem _ List.mem_cons_self, later⟩, rfl, rfl⟩
    rw [contraryFetch, replies, waiting_for_contrary, List.map_singleton, Inquiry.want, Call.want, answerTo,
      entries]
    rfl

end KeyCache

end BearerGate
