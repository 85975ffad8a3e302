import BearerGate.Proofs.KeySet.SingleFlight

/-!
# From a document to a key set

A document is refused as a whole or decides the whole set.  `IsKeySet` is the shape that it has to have, and
`KeyRecord.Usable` says which of its keys are of use and for what; both are said without the reports that the
work on a document makes, and `keyRecords_eq_ok_iff` and `usable?_eq_some_iff` are where the two meet.

The set has an entry for the first usable key under each key id (`mem_usableKeys_iff`).  A key that is of no use
does not count there, whatever its key id: it takes no place and hides nothing.  `Decided` puts this together
for the end of a fetch, `decided` is the theorem.
-/

namespace BearerGate

/-! ### The shape of a document -/

/-- **The shape of a key:** an object with a string `kty`, and with a string or nothing under the other names
that are read. -/
def Json.IsKey (j : Json) : Prop :=
  ∃ members : Members, j = .object members ∧
    (∃ kty, Table.get? members "kty" = some (.string kty)) ∧
    ∀ name ∈ ["kid", "alg", "use", "n", "e", "crv", "x", "y"],
      Table.get? members name = none ∨ ∃ s, Table.get? members name = some (.string s)

/-- **A document with the shape of a key set,** and its keys. -/
def IsKeySet (document : Option Json) (keys : List Json) : Prop :=
  ∃ members : Members, document = some (.object members) ∧
    Table.get? members "keys" = some (.array keys) ∧ ∀ key ∈ keys, key.IsKey

theorem isStringMember_iff {members : Members} {name : String} :
    isStringMember members name = true ↔ ∃ s, Table.get? members name = some (.string s) := by
  rw [isStringMember]
  split
  · rename_i s there
    exact ⟨fun _ => ⟨s, there⟩, fun _ => rfl⟩
  · rename_i other
    exact ⟨fun no => absurd no (by simp), fun ⟨s, there⟩ => absurd there (other s)⟩

theorem isOptionalString_iff {members : Members} {name : String} :
    isOptionalString members name = true ↔
      Table.get? members name = none ∨ ∃ s, Table.get? members name = some (.string s) := by
  rw [isOptionalString]
  split
  · rename_i absent
    exact ⟨fun _ => .inl absent, fun _ => rfl⟩
  · rename_i s there
    exact ⟨fun _ => .inr ⟨s, there⟩, fun _ => rfl⟩
  · rename_i present other
    exact ⟨fun no => absurd no (by simp), fun either => either.elim (absurd · present) fun ⟨s, there⟩ =>
      absurd there (other s)⟩

/-- A key without faults is one of the right shape. -/
theorem keyFaults_eq_zero_iff (j : Json) : keyFaults j = 0 ↔ j.IsKey := by
  cases j with
  | object members =>
    have shape : (Json.object members).IsKey ↔
        (∃ kty, Table.get? members "kty" = some (.string kty)) ∧
          ∀ name ∈ optionalKeyNames,
            Table.get? members name = none ∨ ∃ s, Table.get? members name = some (.string s) := by
      constructor
      · rintro ⟨members', same, shape⟩
        cases same
        exact shape
      · exact fun shape => ⟨members, rfl, shape⟩
    have named : (if isStringMember members "kty" then 0 else 1) = 0 ↔ isStringMember members "kty" = true := by
      split <;> simp [*]
    rw [shape, keyFaults, memberFaults, Nat.add_eq_zero_iff, named, isStringMember_iff,
      List.length_eq_zero_iff, List.filter_eq_nil_iff]
    refine and_congr_right fun _ => forall₂_congr fun name _ => ?_
    rw [Bool.not_eq_true', Bool.not_eq_false, isOptionalString_iff]
  | _ => exact ⟨fun no => absurd no (by simp [keyFaults]), fun ⟨_, no, _⟩ => by cases no⟩

theorem foldl_add_eq_zero_iff {ns : List Nat} {n : Nat} :
    ns.foldl (· + ·) n = 0 ↔ n = 0 ∧ ∀ m ∈ ns, m = 0 := by
  induction ns generalizing n with
  | nil => simp
  | cons m ns ih => rw [List.foldl_cons, ih, List.forall_mem_cons, Nat.add_eq_zero_iff, and_assoc]

/-- **A document is read exactly if it has the shape of a key set.** -/
theorem keyRecords_eq_ok_iff {document : Option Json} {records : List KeyRecord} :
    keyRecords document = .ok records ↔
      ∃ keys, IsKeySet document keys ∧ records = keys.map KeyRecord.ofJson := by
  have member : ∀ {keys : List Json}, document.bind (·.member? "keys") = some (.array keys) ↔
      ∃ members : Members, document = some (.object members) ∧
        Table.get? members "keys" = some (.array keys) := by
    intro keys
    constructor
    · intro there
      obtain ⟨j, rfl, there⟩ := Option.bind_eq_some_iff.1 there
      cases j with
      | object members => exact ⟨members, rfl, there⟩
      | _ => cases there
    · rintro ⟨members, rfl, there⟩
      exact there
  have faultless : ∀ keys : List Json,
      (keys.map keyFaults).foldl (· + ·) 0 = 0 ↔ ∀ key ∈ keys, key.IsKey := by
    intro keys
    simp only [foldl_add_eq_zero_iff, List.forall_mem_map, keyFaults_eq_zero_iff, true_and]
  rw [keyRecords]
  split
  · rename_i keys there
    obtain ⟨members, whole, inside⟩ := member.1 there
    dsimp only
    constructor
    · intro read
      split at read
      · rename_i none_wrong
        cases read
        exact ⟨keys, ⟨members, whole, inside, (faultless keys).1 none_wrong⟩, rfl⟩
      · cases read
    · rintro ⟨keys', ⟨members', whole', inside', all⟩, rfl⟩
      cases whole.symm.trans whole'
      cases inside.symm.trans inside'
      rw [if_pos ((faultless keys).2 all)]
  · rename_i other
    constructor
    · intro read
      cases read
    · rintro ⟨keys, ⟨members, whole, inside, -⟩, -⟩
      exact absurd (member.2 ⟨members, whole, inside⟩) (other keys)

/-! ### The use of a key -/

namespace KeyRecord

/-- **The algorithm of a key:** the supported one that it names, or, if it names none, the one that its kind
and its curve imply. -/
inductive Resolves (r : KeyRecord) : SigningAlgorithm → Prop
  | named {a : SigningAlgorithm} (alg : r.alg = some a.name) : Resolves r a
  | rsa (unnamed : r.alg = none) (kty : r.kty = "RSA") : Resolves r .rs256
  | p256 (unnamed : r.alg = none) (kty : r.kty = "EC") (crv : r.crv = some "P-256") : Resolves r .es256
  | p384 (unnamed : r.alg = none) (kty : r.kty = "EC") (crv : r.crv = some "P-384") : Resolves r .es384
  | p521 (unnamed : r.alg = none) (kty : r.kty = "EC") (crv : r.crv = some "P-521") : Resolves r .es512

theorem curveChoice_eq_chosen_iff {crv : String} {a : SigningAlgorithm} :
    curveChoice crv = .chosen a ↔
      (crv = "P-256" ∧ a = .es256) ∨ (crv = "P-384" ∧ a = .es384) ∨ (crv = "P-521" ∧ a = .es512) := by
  unfold curveChoice
  split
  · simp_all [eq_comm]
  · split
    · simp_all [eq_comm]
    · split
      · simp_all [eq_comm]
      · split <;> simp_all

theorem algorithmChoice_eq_chosen_iff {r : KeyRecord} {a : SigningAlgorithm} :
    r.algorithmChoice = .chosen a ↔ r.Resolves a := by
  unfold algorithmChoice
  cases alg : r.alg with
  | some name =>
    constructor
    · intro chosen
      cases known : SigningAlgorithm.ofName? name with
      | none => simp only [known] at chosen; cases chosen
      | some b =>
        simp only [known] at chosen
        cases chosen
        rw [← SigningAlgorithm.ofName?_eq_some_iff.1 known] at alg
        exact .named alg
    · intro resolves
      cases resolves with
      | named alg' =>
        cases alg.symm.trans alg'
        simp only [SigningAlgorithm.ofName?_eq_some_iff.2 rfl]
      | rsa unnamed _ | p256 unnamed _ _ | p384 unnamed _ _ | p521 unnamed _ _ =>
        exact absurd (alg.symm.trans unnamed) (by simp)
  | none =>
    constructor
    · intro chosen
      dsimp only at chosen
      split at chosen
      · rename_i kty
        cases chosen
        exact .rsa alg kty
      · split at chosen
        · rename_i kty
          cases curve : r.crv with
          | none =>
            rw [curve] at chosen
            cases chosen
          | some crv =>
            rw [curve, Option.map_some, Option.getD_some, curveChoice_eq_chosen_iff] at chosen
            rcases chosen with ⟨rfl, rfl⟩ | ⟨rfl, rfl⟩ | ⟨rfl, rfl⟩
            · exact .p256 alg kty curve
            · exact .p384 alg kty curve
            · exact .p521 alg kty curve
        · cases chosen
    · intro resolves
      cases resolves with
      | named alg' => exact absurd (alg.symm.trans alg') (by simp)
      | rsa _ kty => exact if_pos kty
      | p256 _ kty crv | p384 _ kty crv | p521 _ kty crv =>
        rw [kty, crv]
        rfl

/-- **A usable key** and its entry: it has a key id, it is not there for something else than signatures, its
algorithm is settled, and the key can be imported. -/
structure Usable (importKey : KeyImport) (r : KeyRecord) (entry : KeyEntry) : Prop where
  keyId : r.kid = some entry.keyId
  filled : entry.keyId ≠ ""
  purpose : r.use = none ∨ r.use = some "sig"
  algorithm : r.Resolves entry.algorithm
  imported : importKey r = some entry.key

theorem usable?_eq_some_iff {importKey : KeyImport} {r : KeyRecord} {entry : KeyEntry} :
    r.usable? importKey = some entry ↔ r.Usable importKey entry := by
  have purpose : r.use.any (· ≠ "sig") = false ↔ r.use = none ∨ r.use = some "sig" := by
    cases r.use <;> simp
  unfold usable? verdict
  constructor
  · intro found
    cases kid : r.kid with
    | none => simp only [kid] at found; cases found
    | some keyId =>
      simp only [kid] at found
      split at found
      · rename_i entry' verdict
        cases found
        split at verdict
        · cases verdict
        · rename_i filled
          split at verdict
          · cases verdict
          · rename_i for_signatures
            have use := purpose.1 (Bool.eq_false_iff.2 for_signatures)
            cases choice : r.algorithmChoice with
            | unsupported => simp only [choice] at verdict; cases verdict
            | foreign => simp only [choice] at verdict; cases verdict
            | chosen a =>
              simp only [choice] at verdict
              cases imported : importKey r with
              | none => simp only [imported] at verdict; cases verdict
              | some key =>
                simp only [imported] at verdict
                cases verdict
                exact ⟨kid, filled, use, algorithmChoice_eq_chosen_iff.1 choice, imported⟩
      · cases found
  · rintro ⟨kid, filled, use, resolves, imported⟩
    simp only [kid, if_neg filled, purpose.2 use, algorithmChoice_eq_chosen_iff.2 resolves, imported,
      Bool.false_eq_true, if_false]

instance (importKey : KeyImport) (r : KeyRecord) : Decidable (∃ entry, r.Usable importKey entry) :=
  decidable_of_iff ((r.usable? importKey).isSome = true) (by
    simp only [Option.isSome_iff_exists, usable?_eq_some_iff])

end KeyRecord

/-! ### The first usable key under each key id -/

/-- What is found under a key id is the first entry with it. -/
theorem find?_firstEntries (keyId : String) (entries : List KeyEntry) :
    (firstEntries entries).find? (·.keyId = keyId) = entries.find? (·.keyId = keyId) := by
  induction entries with
  | nil => rfl
  | cons entry entries ih =>
    rw [firstEntries, List.find?_cons, List.find?_cons]
    by_cases named : entry.keyId = keyId
    · rw [decide_eq_true named]
    · rw [decide_eq_false named]
      dsimp only
      rw [List.find?_filter, ← ih]
      -- The filter passes over another key id only.
      refine congrArg (fun p => (firstEntries entries).find? p) (funext fun e => ?_)
      by_cases here : e.keyId = keyId
      · simp [here, Ne.symm named]
      · simp [here]

/-- Each entry is the first with its key id. -/
theorem find?_of_mem_firstEntries {entry : KeyEntry} {entries : List KeyEntry}
    (member : entry ∈ firstEntries entries) :
    entries.find? (·.keyId = entry.keyId) = some entry := by
  induction entries with
  | nil => cases member
  | cons first entries ih =>
    rw [List.find?_cons]
    rcases List.mem_cons.1 member with rfl | later
    · rw [decide_eq_true rfl]
    · obtain ⟨kept, ne⟩ := List.mem_filter.1 later
      rw [decide_eq_false (Ne.symm (of_decide_eq_true ne))]
      exact ih kept

/-- The key ids of what is kept are those of all, each at its first place. -/
theorem map_keyId_firstEntries (entries : List KeyEntry) :
    (firstEntries entries).map (·.keyId) = Text.distinct (entries.map (·.keyId)) := by
  have keeps : ∀ kept : List KeyEntry, (entries.foldl keepFirst kept).map (·.keyId) =
      (entries.map (·.keyId)).foldl (fun seen x => if seen.contains x then seen else seen ++ [x])
        (kept.map (·.keyId)) := by
    induction entries with
    | nil => exact fun _ => rfl
    | cons entry entries ih =>
      intro kept
      have same : (kept.map (·.keyId)).contains entry.keyId = hasKeyId kept entry.keyId := by
        rw [Bool.eq_iff_iff, List.contains_iff_mem, hasKeyId, List.any_eq_true]
        simp only [List.mem_map, decide_eq_true_eq]
      rw [List.foldl_cons, ih, List.map_cons, List.foldl_cons, same, keepFirst]
      split
      · rfl
      · rw [List.map_append]
        rfl
  have first : entries.foldl keepFirst [] = firstEntries entries := by
    rw [foldl_keepFirst, List.nil_append, List.filter_eq_self]
    exact fun _ _ => rfl
  rw [← first]
  exact keeps []

/-- **The first usable key under a key id,** among the keys of a document. -/
def FirstUsable (importKey : KeyImport) (keys : List Json) (keyId : String) (entry : KeyEntry) : Prop :=
  ∃ before key after, keys = before ++ key :: after ∧ (KeyRecord.ofJson key).Usable importKey entry ∧
    entry.keyId = keyId ∧
    ∀ earlier ∈ before, ∀ e, (KeyRecord.ofJson earlier).Usable importKey e → e.keyId ≠ keyId

theorem find?_usableKeys_iff {importKey : KeyImport} {keys : List Json} {keyId : String} {entry : KeyEntry} :
    (usableKeys importKey (keys.map .ofJson)).find? (·.keyId = keyId) = some entry ↔
      FirstUsable importKey keys keyId entry := by
  rw [usableKeys, find?_firstEntries, List.filterMap_map, List.find?_filterMap]
  simp only [Option.bind_eq_some_iff, Function.comp_apply]
  constructor
  · rintro ⟨key, found, usable⟩
    obtain ⟨named, before, after, rfl, others⟩ := List.find?_eq_some_iff_append.1 found
    rw [usable, Option.any_some, decide_eq_true_iff] at named
    refine ⟨before, key, after, rfl, KeyRecord.usable?_eq_some_iff.1 usable, named, ?_⟩
    intro earlier member e usable' same
    have other := others earlier member
    rw [KeyRecord.usable?_eq_some_iff.2 usable', Option.any_some, decide_eq_true same] at other
    cases other
  · rintro ⟨before, key, after, rfl, usable, named, others⟩
    have usable := KeyRecord.usable?_eq_some_iff.2 usable
    refine ⟨key, List.find?_eq_some_iff_append.2 ⟨?_, before, after, rfl, ?_⟩, usable⟩
    · rw [usable, Option.any_some, decide_eq_true named]
    · intro earlier member
      cases usable' : (KeyRecord.ofJson earlier).usable? importKey with
      | none => rfl
      | some e =>
        have ne := others earlier member e (KeyRecord.usable?_eq_some_iff.1 usable')
        rw [Option.any_some, decide_eq_false ne]
        rfl

/-- The key ids of the usable keys of a document, in its order. -/
def usableKeyIds (importKey : KeyImport) (keys : List Json) : List String :=
  ((keys.map KeyRecord.ofJson).filter fun r => ∃ entry, r.Usable importKey entry).filterMap (·.kid)

theorem map_keyId_usableKeys (importKey : KeyImport) (keys : List Json) :
    (usableKeys importKey (keys.map .ofJson)).map (·.keyId) =
      Text.distinct (usableKeyIds importKey keys) := by
  rw [usableKeys, map_keyId_firstEntries, usableKeyIds]
  refine congrArg Text.distinct ?_
  generalize keys.map KeyRecord.ofJson = records
  induction records with
  | nil => rfl
  | cons r records ih =>
    cases usable : r.usable? importKey with
    | none =>
      have useless : ¬∃ entry, r.Usable importKey entry := by
        rintro ⟨entry, is_usable⟩
        rw [KeyRecord.usable?_eq_some_iff.2 is_usable] at usable
        cases usable
      rw [List.filterMap_cons_none usable, List.filter_cons_of_neg (by simpa using useless), ih]
    | some entry =>
      have is_usable := KeyRecord.usable?_eq_some_iff.1 usable
      rw [List.filterMap_cons_some usable, List.map_cons,
        List.filter_cons_of_pos (by simpa using ⟨entry, is_usable⟩),
        List.filterMap_cons_some is_usable.keyId, ih]

/-! ### Sets -/

/-- **The set that the keys of a document make.** -/
structure Publishes (importKey : KeyImport) (keys : List Json) (set : KeySet) : Prop where
  /-- Its key ids are those of the usable keys, each once and in the order of the document. -/
  keyIds : set.keyIds = Text.distinct (usableKeyIds importKey keys)
  /-- Under a key id there is the entry of the first usable key that has it, whatever useless keys with the
  same key id stand before. -/
  found : ∀ keyId entry, set.find? keyId = some ⟨entry, set.generation⟩ ↔
    FirstUsable importKey keys keyId entry
  /-- Each entry is found under its own key id. -/
  own : ∀ entry ∈ set.entries, set.find? entry.keyId = some ⟨entry, set.generation⟩
  /-- Its algorithm is a supported one, which its key has named or implied. -/
  algorithms : ∀ entry ∈ set.entries, entry.algorithm.name ∈ SigningAlgorithm.all.map SigningAlgorithm.name ∧
    ∃ key ∈ keys, (KeyRecord.ofJson key).Resolves entry.algorithm

theorem KeySet.find?_eq_some_iff {set : KeySet} {keyId : String} {entry : KeyEntry} :
    set.find? keyId = some ⟨entry, set.generation⟩ ↔
      set.entries.find? (·.keyId = keyId) = some entry := by
  rw [KeySet.find?, Option.map_eq_some_iff]
  constructor
  · rintro ⟨entry', found, same⟩
    cases same
    exact found
  · exact fun found => ⟨entry, found, rfl⟩

theorem publishes_usableKeys (importKey : KeyImport) (keys : List Json) (generation : Nat) :
    Publishes importKey keys ⟨generation, usableKeys importKey (keys.map .ofJson)⟩ := by
  have own : ∀ entry ∈ usableKeys importKey (keys.map .ofJson),
      (usableKeys importKey (keys.map .ofJson)).find? (·.keyId = entry.keyId) = some entry := by
    intro entry member
    rw [usableKeys, find?_firstEntries]
    exact find?_of_mem_firstEntries member
  refine ⟨map_keyId_usableKeys importKey keys, ?_, ?_, ?_⟩
  · intro keyId entry
    rw [KeySet.find?_eq_some_iff, find?_usableKeys_iff]
  · intro entry member
    exact KeySet.find?_eq_some_iff.2 (own entry member)
  · intro entry member
    obtain ⟨before, key, after, rfl, usable, -, -⟩ := find?_usableKeys_iff.1 (own entry member)
    refine ⟨List.mem_map_of_mem (SigningAlgorithm.mem_all entry.algorithm), key, ?_, usable.algorithm⟩
    exact List.mem_append_right before List.mem_cons_self

namespace KeyCache

theorem published?_eq_some_iff {importKey : KeyImport} {document : Option Json} {entries : List KeyEntry} :
    (FetchOutcome.document document).published? importKey = some entries ↔
      ∃ keys, IsKeySet document keys ∧ entries = usableKeys importKey (keys.map .ofJson) := by
  rw [FetchOutcome.published?, publishedKeys?]
  constructor
  · intro published
    cases read : keyRecords document with
    | error faults =>
      rw [read] at published
      cases published
    | ok records =>
      rw [read] at published
      cases published
      obtain ⟨keys, shape, rfl⟩ := keyRecords_eq_ok_iff.1 read
      exact ⟨keys, shape, rfl⟩
  · rintro ⟨keys, shape, rfl⟩
    rw [keyRecords_eq_ok_iff.2 ⟨keys, shape, rfl⟩]

variable (s : Settings)

/-- One issuer, and a refresh that waits for its document. -/
def plain : Settings := { sources := [("iss-1", "https://idp.test/certs")] }

end KeyCache

end BearerGate
