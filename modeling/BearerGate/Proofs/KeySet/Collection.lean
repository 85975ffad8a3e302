import BearerGate.KeySet.Cache

/-!
# The usable keys of a document

What a document publishes, said without the order in which its records are worked on: the usable records
give their entries, and of the entries under one key id the first counts.  `collectKeys` arrives at that
list, whatever it reports on the way.
-/

namespace BearerGate

/-- The entry that a record gives, if it is of use. -/
def KeyRecord.usable? (importKey : KeyImport) (r : KeyRecord) : Option KeyEntry :=
  match r.verdict importKey with
  | .usable entry => some entry
  | _ => none

/-- **The first entry under each key id,** in the order of the list. -/
def firstEntries : List KeyEntry → List KeyEntry
  | [] => []
  | entry :: entries => entry :: (firstEntries entries).filter (·.keyId ≠ entry.keyId)

/-- **The usable keys of records.** -/
def usableKeys (importKey : KeyImport) (records : List KeyRecord) : List KeyEntry :=
  firstEntries (records.filterMap (·.usable? importKey))

/-- **The keys that a document publishes,** if it has the shape of a key set. -/
def publishedKeys? (importKey : KeyImport) (document : Option Json) : Option (List KeyEntry) :=
  match keyRecords document with
  | .ok records => some (usableKeys importKey records)
  | .error _ => none

/-! ### Collecting them record by record -/

/-- Whether there is an entry under a key id. -/
def hasKeyId (entries : List KeyEntry) (keyId : String) : Bool := entries.any (·.keyId = keyId)

/-- Keeps one more entry, unless there is one under its key id. -/
def keepFirst (entries : List KeyEntry) (entry : KeyEntry) : List KeyEntry :=
  if hasKeyId entries entry.keyId then entries else entries ++ [entry]

theorem hasKeyId_append (es fs : List KeyEntry) (keyId : String) :
    hasKeyId (es ++ fs) keyId = (hasKeyId es keyId || hasKeyId fs keyId) := by
  rw [hasKeyId, List.any_append]
  rfl

/-- Keeping entries one by one adds the first under each key id that was not there before. -/
theorem foldl_keepFirst (es fs : List KeyEntry) :
    fs.foldl keepFirst es = es ++ (firstEntries fs).filter fun e => !hasKeyId es e.keyId := by
  induction fs generalizing es with
  | nil => simp [firstEntries]
  | cons f fs ih =>
    rw [List.foldl_cons, ih, firstEntries, List.filter_cons, List.filter_filter]
    by_cases there : hasKeyId es f.keyId = true
    · -- A later entry under the same key id is hidden by the one that was there, too.
      have same : ∀ e ∈ firstEntries fs, (!hasKeyId es e.keyId) =
          (!hasKeyId es e.keyId && decide (e.keyId ≠ f.keyId)) := by
        intro e _
        by_cases ids : e.keyId = f.keyId
        · simp [ids, there]
        · simp [ids]
      rw [keepFirst, if_pos there, if_neg (by simp [there]), List.filter_congr same]
    · have same : ∀ e ∈ firstEntries fs, (!hasKeyId (es ++ [f]) e.keyId) =
          (!hasKeyId es e.keyId && decide (e.keyId ≠ f.keyId)) := by
        intro e _
        rw [hasKeyId_append]
        simp [hasKeyId, eq_comm]
      rw [keepFirst, if_neg there, if_pos (by simp [there]), List.filter_congr same, List.append_assoc]
      rfl

/-- What a record does to the entries: its own is kept, if it is of use. -/
theorem entries_add (importKey : KeyImport) (issuer : String) (c : Collected) (r : KeyRecord) :
    (c.add importKey issuer r).entries = (r.usable? importKey).toList.foldl keepFirst c.entries := by
  unfold Collected.add KeyRecord.usable?
  cases r.verdict importKey with
  | usable entry =>
    rw [Option.toList_some, List.foldl_cons, List.foldl_nil, keepFirst, hasKeyId]
    dsimp only
    split
    · rfl
    · rfl
  | withoutKeyId => rfl
  | otherUse => rfl
  | unsupported keyId => rfl
  | notImportable keyId => rfl

/-- **Collecting gives the usable keys.** -/
theorem entries_collectKeys (importKey : KeyImport) (issuer : String) (records : List KeyRecord) :
    (collectKeys importKey issuer records).entries = usableKeys importKey records := by
  have keeps : ∀ c : Collected, (records.foldl (Collected.add importKey issuer) c).entries =
      (records.filterMap (·.usable? importKey)).foldl keepFirst c.entries := by
    induction records with
    | nil => exact fun c => rfl
    | cons r records ih =>
      intro c
      rw [List.foldl_cons, ih, entries_add]
      cases found : r.usable? importKey with
      | none => rw [List.filterMap_cons_none found, Option.toList_none, List.foldl_nil]
      | some entry =>
        rw [List.filterMap_cons_some found, Option.toList_some, List.foldl_cons, List.foldl_cons,
          List.foldl_nil]
  rw [collectKeys, keeps, foldl_keepFirst]
  simp [usableKeys, hasKeyId]

end BearerGate
