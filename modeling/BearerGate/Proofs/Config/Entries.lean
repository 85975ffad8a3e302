import BearerGate.Proofs.Config.Safety
import BearerGate.Proofs.Json.Members
import BearerGate.Proofs.Text.Pieces

/-!
# Tables in the environment

A variable holds a table as entries `name=value` with commas between them.  Its entries are read like those of any
list, and a list has each entry once: one that is the same as an earlier one, blanks around it apart, is passed over.
So what a table has under a name is what the last **new** entry for the name gives it (`get?_envMap`).

That need not be the last entry for the name.  Where an entry comes again after another one has given its name
another value, the other value stays (`envMap_passes_over_last`); where none does (`NoneReturns`), the last entry
counts, and a service is found at the address that is listed last under its name (`envMap_takes_newest`).
-/

namespace BearerGate

/-! ### What an entry gives -/

/-- **An entry that gives a name a value:** the text before its first equals sign is the name, which is not empty, and
the text after it the value, both trimmed. -/
def Gives (entry name value : String) : Prop :=
  name ≠ "" ∧ ∃ before after : List Char, entry.toList = before ++ '=' :: after ∧ '=' ∉ before ∧
    Text.trim (String.ofList before) = name ∧ Text.trim (String.ofList after) = value

theorem Gives.unique {entry name name' value value' : String} (gives : Gives entry name value)
    (gives' : Gives entry name' value') : name = name' ∧ value = value' := by
  obtain ⟨-, before, after, split, absent, rfl, rfl⟩ := gives
  obtain ⟨-, before', after', split', absent', rfl, rfl⟩ := gives'
  obtain ⟨rfl, rfl⟩ := Text.split_unique absent absent' (split.symm.trans split')
  exact ⟨rfl, rfl⟩

/-- **Blanks around an entry** do not change what it gives. -/
theorem gives_trim_iff {entry name value : String} : Gives (Text.trim entry) name value ↔ Gives entry name value := by
  obtain ⟨front, back, front_blank, back_blank, padded⟩ := Text.exists_padding entry
  have no_equals : ∀ {cs : List Char}, (∀ c ∈ cs, Text.isBlank c = true) → '=' ∉ cs := by
    intro cs blank member
    exact absurd (blank '=' member) (by decide)
  -- There is no equals sign among the blanks, so the first one is that of the trimmed entry.
  have wider : ∀ {before after : List Char}, (Text.trim entry).toList = before ++ '=' :: after → '=' ∉ before →
      entry.toList = (front ++ before) ++ '=' :: (after ++ back) ∧ '=' ∉ front ++ before := by
    intro before after split absent
    refine ⟨?_, List.not_mem_append (no_equals front_blank) absent⟩
    rw [padded, split]
    simp
  refine and_congr_right fun _ => ⟨?_, ?_⟩
  · rintro ⟨before, after, split, absent, rfl, rfl⟩
    obtain ⟨split', absent'⟩ := wider split absent
    exact ⟨front ++ before, after ++ back, split', absent', Text.trim_append_left front_blank before,
      Text.trim_append_right back_blank after⟩
  · rintro ⟨before, after, split, absent, rfl, rfl⟩
    have inside : '=' ∈ (Text.trim entry).toList := by
      have member : '=' ∈ entry.toList := by
        rw [split]
        simp
      rw [padded, List.mem_append, List.mem_append] at member
      exact (member.resolve_left (no_equals front_blank)).resolve_right (no_equals back_blank)
    obtain ⟨before', after', split', absent'⟩ := List.eq_append_cons_of_mem inside
    obtain ⟨split'', absent''⟩ := wider split' absent'
    obtain ⟨rfl, rfl⟩ := Text.split_unique absent absent'' (split.symm.trans split'')
    exact ⟨before', after', split', absent', (Text.trim_append_left front_blank before').symm,
      (Text.trim_append_right back_blank after').symm⟩

/-- **What is read of an entry** that is trimmed is what it gives. -/
theorem envPair?_trim_eq_some_iff {entry name value : String} :
    envPair? (Text.trim entry) = some (name, value) ↔ Gives entry name value := by
  rw [← gives_trim_iff]
  have trimmed := Text.trimmed_trim entry
  generalize Text.trim entry = entry at trimmed
  -- A name that is there is not blank, for the entry does not begin with a blank.
  have filled : ∀ {before after : List Char}, entry.toList = before ++ '=' :: after → before ≠ [] →
      Text.trim (String.ofList before) ≠ "" := by
    intro before after split some_name empty
    obtain ⟨front, back, front_blank, back_blank, padded⟩ := Text.exists_padding (String.ofList before)
    obtain ⟨c, cs, rfl⟩ := List.exists_cons_of_ne_nil some_name
    rw [empty, String.toList_ofList] at padded
    have member : c ∈ front ++ ([] ++ back) := by
      rw [← show c :: cs = front ++ ([] ++ back) from padded]
      exact List.mem_cons_self
    have blank : Text.isBlank c = true := (List.mem_append.1 member).elim (front_blank c) (back_blank c)
    have visible := trimmed.first c (by rw [split]; rfl)
    rw [blank] at visible
    cases visible
  unfold envPair?
  constructor
  · intro read
    split at read
    · rename_i before after found
      obtain ⟨split, absent⟩ := Text.splitFirst?_eq_some_iff.1 found
      split at read
      · cases read
      · rename_i some_name
        cases read
        have some_chars : before.toList ≠ [] := fun none_there => some_name (String.toList_inj.1 none_there)
        have named := filled split some_chars
        rw [String.ofList_toList] at named
        exact ⟨named, before.toList, after.toList, split, absent, by rw [String.ofList_toList],
          by rw [String.ofList_toList]⟩
    · cases read
  · rintro ⟨named, before, after, split, absent, rfl, rfl⟩
    have found : Text.splitFirst? '=' entry = some (String.ofList before, String.ofList after) := by
      rw [Text.splitFirst?_eq_some_iff, String.toList_ofList, String.toList_ofList]
      exact ⟨split, absent⟩
    have some_name : String.ofList before ≠ "" := by
      intro empty
      rw [empty] at named
      exact named (by decide)
    rw [found]
    exact if_neg some_name

/-! ### The last entry that counts -/

/-- **A new entry:** no earlier one is the same, blanks around them apart. -/
def NewAt (entries : List String) (i : Nat) : Prop := ∀ k < i, entries[k]?.map Text.trim ≠ entries[i]?.map Text.trim

/-- **What the last entry for a name gives it,** among the entries that count. -/
def LastGives (counts : Nat → Prop) (entries : List String) (name value : String) : Prop :=
  ∃ i entry, entries[i]? = some entry ∧ counts i ∧ Gives entry name value ∧
    ∀ j later, i < j → entries[j]? = some later → counts j → ∀ other, ¬ Gives later name other

section Concat

variable {entries : List String} {entry name value : String} {counts : Nat → Prop}

/-- An entry at the end of a list that counts and is for the name is the last one. -/
theorem lastGives_concat_of_gives {given : String} (counted : counts entries.length) (gives : Gives entry name given) :
    LastGives counts (entries ++ [entry]) name value ↔ value = given := by
  have last : (entries ++ [entry])[entries.length]? = some entry := List.getElem?_concat_length
  have bound : ∀ {j later}, (entries ++ [entry])[j]? = some later → j ≤ entries.length := by
    intro j later there
    have inside := (List.getElem?_eq_some_iff.1 there).1
    rw [List.length_append, List.length_singleton] at inside
    omega
  constructor
  · rintro ⟨i, found, there, -, gives', no_later⟩
    have before := bound there
    rcases Nat.lt_or_ge i entries.length with earlier | here
    · exact absurd gives (no_later _ _ earlier last counted _)
    · obtain rfl : i = entries.length := by omega
      obtain rfl : entry = found := Option.some.inj (last.symm.trans there)
      exact (gives'.unique gives).2
  · rintro rfl
    refine ⟨entries.length, entry, last, counted, gives, fun j later after there => ?_⟩
    have before := bound there
    omega

/-- One that does not count, or is for other names, makes no difference. -/
theorem lastGives_concat_of_not (idle : ¬ (counts entries.length ∧ ∃ given, Gives entry name given)) :
    LastGives counts (entries ++ [entry]) name value ↔ LastGives counts entries name value := by
  have old : ∀ {j later}, (entries ++ [entry])[j]? = some later →
      entries[j]? = some later ∨ j = entries.length ∧ later = entry := by
    intro j later there
    rcases Nat.lt_or_ge j entries.length with inside | outside
    · rw [List.getElem?_append_left inside] at there
      exact .inl there
    · have bound := (List.getElem?_eq_some_iff.1 there).1
      rw [List.length_append, List.length_singleton] at bound
      obtain rfl : j = entries.length := by omega
      rw [List.getElem?_concat_length] at there
      exact .inr ⟨rfl, (Option.some.inj there).symm⟩
  have kept : ∀ {j later}, entries[j]? = some later → (entries ++ [entry])[j]? = some later := fun there =>
    (List.getElem?_append_left (List.getElem?_eq_some_iff.1 there).1).trans there
  constructor
  · rintro ⟨i, found, there, counted, gives, no_later⟩
    rcases old there with there | ⟨rfl, rfl⟩
    · exact ⟨i, found, there, counted, gives, fun j later after inside => no_later j later after (kept inside)⟩
    · exact absurd ⟨counted, value, gives⟩ idle
  · rintro ⟨i, found, there, counted, gives, no_later⟩
    refine ⟨i, found, kept there, counted, gives, fun j later after inside counted' other gives' => ?_⟩
    rcases old inside with inside | ⟨rfl, rfl⟩
    · exact no_later j later after inside counted' other gives'
    · exact idle ⟨counted', other, gives'⟩

/-- Which entries count is asked of entries that are there only. -/
theorem lastGives_congr {counts' : Nat → Prop} (same : ∀ i < entries.length, counts i ↔ counts' i) :
    LastGives counts entries name value ↔ LastGives counts' entries name value := by
  have half : ∀ {c c' : Nat → Prop}, (∀ i < entries.length, c i ↔ c' i) → LastGives c entries name value →
      LastGives c' entries name value := by
    rintro c c' same ⟨i, found, there, counted, gives, no_later⟩
    have inside : ∀ {j later}, entries[j]? = some later → j < entries.length := fun there =>
      (List.getElem?_eq_some_iff.1 there).1
    exact ⟨i, found, there, (same i (inside there)).1 counted, gives, fun j later after there' counted' =>
      no_later j later after there' ((same j (inside there')).2 counted')⟩
  exact ⟨half same, half fun i inside => (same i inside).symm⟩

theorem newAt_concat {i : Nat} (inside : i < entries.length) :
    NewAt (entries ++ [entry]) i ↔ NewAt entries i := by
  refine forall₂_congr fun k before => ?_
  rw [List.getElem?_append_left inside, List.getElem?_append_left (before.trans inside)]

theorem newAt_length : NewAt (entries ++ [entry]) entries.length ↔ Text.trim entry ∉ entries.map Text.trim := by
  unfold NewAt
  rw [List.getElem?_concat_length, List.mem_iff_getElem?]
  constructor
  · rintro new ⟨k, there⟩
    rw [List.getElem?_map] at there
    have inside : k < entries.length := by
      obtain ⟨found, there', -⟩ := Option.map_eq_some_iff.1 there
      exact (List.getElem?_eq_some_iff.1 there').1
    refine new k inside ?_
    rw [List.getElem?_append_left inside, there, Option.map_some]
  · intro new k inside same
    rw [List.getElem?_append_left inside, Option.map_some] at same
    exact new ⟨k, by rw [List.getElem?_map, same]⟩

/-- **One more entry,** as far as new entries are concerned. -/
theorem lastGives_new_concat : LastGives (NewAt (entries ++ [entry])) entries name value ↔
    LastGives (NewAt entries) entries name value := lastGives_congr fun _ => newAt_concat

end Concat

/-! ### What a table has -/

/-- The entries that a text is made up of. -/
abbrev EntriesOf (text : String) (entries : List String) : Prop :=
  Text.Cut (· = ',') text.toList (entries.map String.toList)

/-- What is written into a table for entries, in order. -/
private def written (entries : List String) : List (String × String) :=
  ((Text.distinct ((entries.map Text.trim).filter (· ≠ ""))).filterMap envPair?).filter (·.1 ≠ unkeptName)

/-- **One more entry** writes what it gives if it is new, and nothing if not. -/
private theorem written_concat (entries : List String) (entry : String) : written (entries ++ [entry]) =
    if Text.trim entry ∈ entries.map Text.trim then written entries
    else written entries ++ ((envPair? (Text.trim entry)).toList.filter (·.1 ≠ unkeptName)) := by
  have blank_gives_none : envPair? "" = none := rfl
  rw [written, List.map_append, List.filter_append, List.map_singleton]
  by_cases blank : Text.trim entry = ""
  · rw [blank, List.filter_cons_of_neg (by simp), List.filter_nil, List.append_nil, blank_gives_none]
    split
    · rfl
    · exact (List.append_nil _).symm
  · rw [List.filter_cons_of_pos (by simpa using blank), List.filter_nil, Text.distinct_concat]
    have there_iff : Text.trim entry ∈ (entries.map Text.trim).filter (· ≠ "") ↔
        Text.trim entry ∈ entries.map Text.trim := by
      rw [List.mem_filter]
      exact and_iff_left (decide_eq_true blank)
    rw [if_congr there_iff rfl rfl]
    split
    · rfl
    · rw [List.filterMap_append, List.filter_append]
      rfl

/-- **What is found under a name** after all entries: what the last new one for it gives. -/
private theorem get?_written {entries : List String} {name value : String} :
    Table.get? (Table.putAll [] (written entries)) name = some value ↔
      name ≠ unkeptName ∧ LastGives (NewAt entries) entries name value := by
  induction entries using List.reverseRecOn generalizing value with
  | nil =>
    constructor
    · intro found
      cases found
    · rintro ⟨-, i, entry, there, -⟩
      cases there
  | append_singleton entries entry ih =>
    -- An entry that is passed over, or is for other names, leaves the table as far as this name is concerned.
    have unchanged : ¬ (NewAt (entries ++ [entry]) entries.length ∧ ∃ given, Gives entry name given) →
        (Table.get? (Table.putAll [] (written entries)) name = some value ↔ name ≠ unkeptName ∧
          LastGives (NewAt (entries ++ [entry])) (entries ++ [entry]) name value) := by
      intro idle
      rw [ih, lastGives_concat_of_not idle, lastGives_new_concat]
    rw [written_concat]
    split
    · rename_i repeated
      exact unchanged fun both => newAt_length.1 both.1 repeated
    rename_i new
    have new_at : NewAt (entries ++ [entry]) entries.length := newAt_length.2 new
    have step : ∀ pairs, Table.putAll [] (written entries ++ pairs) =
        Table.putAll (Table.putAll [] (written entries)) pairs := fun pairs => List.foldl_append
    rw [step]
    cases read : envPair? (Text.trim entry) with
    | none =>
      refine unchanged fun both => ?_
      obtain ⟨given, gives⟩ := both.2
      rw [envPair?_trim_eq_some_iff.2 gives] at read
      cases read
    | some pair =>
      obtain ⟨own, given⟩ := pair
      have gives := envPair?_trim_eq_some_iff.1 read
      rw [Option.toList_some]
      by_cases kept : own = unkeptName
      · rw [List.filter_cons_of_neg (by simpa using kept), List.filter_nil]
        by_cases same : name = own
        · rw [same, kept]
          have absent : Table.get? (Table.putAll [] (written entries)) unkeptName ≠ some value := fun found => by
            rw [← kept, ← same] at found
            exact (ih.1 found).1 (same.trans kept)
          exact ⟨fun found => absurd found absent, fun both => absurd rfl both.1⟩
        · exact unchanged fun both => same (both.2.choose_spec.unique gives).1
      · rw [List.filter_cons_of_pos (by simpa using kept), List.filter_nil]
        change Table.get? (Table.put _ own given) name = some value ↔ _
        by_cases same : name = own
        · subst same
          rw [Table.get?_put_self, lastGives_concat_of_gives new_at gives, Option.some.injEq, eq_comm]
          exact (and_iff_right kept).symm
        · rw [Table.get?_put_of_ne _ _ same]
          exact unchanged fun both => same (both.2.choose_spec.unique gives).1

theorem envMap_eq {raw : Option String} {entries : List String} (made : EntriesOf (raw.getD "") entries) :
    envMap raw = Table.settle (written entries) := by
  rw [envMap, envList, Text.pieces_eq_iff_cut.2 made]
  rfl

/-- **What a table has under a name** is what the last new entry for it gives. -/
theorem get?_envMap {raw : Option String} {entries : List String} (made : EntriesOf (raw.getD "") entries)
    {name value : String} : Table.get? (envMap raw) name = some value ↔
      name ≠ unkeptName ∧ LastGives (NewAt entries) entries name value := by
  rw [envMap_eq made, Table.settle, Table.get?_arrange (Table.nodup_names_putAll (t := []) List.nodup_nil _), get?_written]

/-! ### Entries that come again -/

/-- **No entry for a name comes again after another one** has given the name another value. -/
def NoneReturns (entries : List String) (name : String) : Prop :=
  ∀ (i j k : Nat) (first between again value other : String), i < j → j < k → entries[i]? = some first → entries[j]? = some between →
    entries[k]? = some again → Text.trim first = Text.trim again → Gives again name value →
    Gives between name other → other = value

/-- Where no entry is there twice, none returns. -/
theorem noneReturns_of_nodup {entries : List String} (nodup : (entries.map Text.trim).Nodup) (name : String) :
    NoneReturns entries name := by
  intro i j k first between again value other less less' there _ there' same _ _
  have inside : i < (entries.map Text.trim).length := by
    rw [List.length_map]
    exact (List.getElem?_eq_some_iff.1 there).1
  have found : (entries.map Text.trim)[i]? = (entries.map Text.trim)[k]? := by
    rw [List.getElem?_map, List.getElem?_map, there, there', Option.map_some, Option.map_some, same]
  have same_place := (List.getElem?_inj inside nodup).1 found
  omega

/-- Among the entries for a name there is a last one. -/
theorem exists_lastGives {entries : List String} {name given : String} {i : Nat} {entry : String}
    (there : entries[i]? = some entry) (gives : Gives entry name given) :
    ∃ value, LastGives (fun _ => True) entries name value := by
  induction entries using List.reverseRecOn with
  | nil => cases there
  | append_singleton entries last ih =>
    by_cases own : ∃ value, Gives last name value
    · obtain ⟨value, gives'⟩ := own
      exact ⟨value, (lastGives_concat_of_gives trivial gives').2 rfl⟩
    · rcases Nat.lt_or_ge i entries.length with inside | outside
      · rw [List.getElem?_append_left inside] at there
        obtain ⟨value, lasts⟩ := ih there
        exact ⟨value, (lastGives_concat_of_not fun both => own both.2).2 lasts⟩
      · have bound := (List.getElem?_eq_some_iff.1 there).1
        rw [List.length_append, List.length_singleton] at bound
        obtain rfl : i = entries.length := by omega
        rw [List.getElem?_concat_length] at there
        cases there
        exact absurd ⟨given, gives⟩ own

/-- **Where no entry returns,** the last new entry for a name and the last entry for it give the same. -/
theorem lastGives_new_iff {entries : List String} {name value : String} (none_returns : NoneReturns entries name) :
    LastGives (NewAt entries) entries name value ↔ LastGives (fun _ => True) entries name value := by
  induction entries using List.reverseRecOn generalizing value with
  | nil =>
    constructor
    · rintro ⟨i, entry, there, -⟩
      cases there
    · rintro ⟨i, entry, there, -⟩
      cases there
  | append_singleton entries last ih =>
    have kept : ∀ {j : Nat} {later : String}, entries[j]? = some later → (entries ++ [last])[j]? = some later :=
      fun there => (List.getElem?_append_left (List.getElem?_eq_some_iff.1 there).1).trans there
    have before : NoneReturns entries name := fun i j k first between again value other less less' h h' h'' =>
      none_returns i j k first between again value other less less' (kept h) (kept h') (kept h'')
    by_cases own : ∃ given, Gives last name given
    · obtain ⟨given, gives⟩ := own
      have last_wins : LastGives (fun _ => True) (entries ++ [last]) name value ↔ value = given :=
        lastGives_concat_of_gives trivial gives
      rw [last_wins]
      by_cases new : NewAt (entries ++ [last]) entries.length
      · exact lastGives_concat_of_gives new gives
      · rw [lastGives_concat_of_not fun both => new both.1, lastGives_new_concat, ih before]
        -- The entry has been there before, and whatever has come for its name since then gives the same.
        rw [newAt_length, not_not] at new
        obtain ⟨first, member, same⟩ := List.mem_map.1 new
        obtain ⟨i, there⟩ := List.mem_iff_getElem?.1 member
        have first_gives : Gives first name given := by
          rw [← gives_trim_iff, same, gives_trim_iff]
          exact gives
        have only : ∀ {value}, LastGives (fun _ => True) entries name value → value = given := by
          rintro value ⟨j, found, inside, -, gives', no_later⟩
          rcases Nat.lt_trichotomy i j with after | rfl | earlier
          · exact none_returns i j entries.length first found last given value after
              (List.getElem?_eq_some_iff.1 inside).1 (kept there) (kept inside) List.getElem?_concat_length same gives
              gives'
          · obtain rfl : first = found := Option.some.inj (there.symm.trans inside)
            exact (gives'.unique first_gives).2
          · exact absurd first_gives (no_later i first earlier there trivial given)
        refine ⟨only, ?_⟩
        rintro rfl
        obtain ⟨value', lasts⟩ := exists_lastGives there first_gives
        exact only lasts ▸ lasts
    · rw [lastGives_concat_of_not fun both => own both.2, lastGives_concat_of_not fun both => own both.2,
        lastGives_new_concat, ih before]

/-! ### Addresses of services -/

/-- The addresses of services that are accepted are the ones of the environment. -/
theorem Env.eq_envMap_of_serviceUrls {env : Env} {urls : Table String} (fine : env.serviceUrls = .fine urls) :
    urls = envMap (env.get? "SERVICE_URLS") := by
  have each := map_eq_of_forAll fine
  have same : ∀ {e e' : String × String},
      (e.1, ·) <$> address [.name "serviceUrls", .name e.1] e.2 = Checked.fine e' → e' = e := by
    intro e e' checked
    cases parsed : address [.name "serviceUrls", .name e.1] e.2 with
    | faulty first others =>
      rw [parsed] at checked
      cases checked
    | fine kept =>
      rw [parsed] at checked
      cases checked
      rw [(eq_of_address parsed).1]
  clear fine
  generalize envMap (env.get? "SERVICE_URLS") = table at each
  induction table generalizing urls with
  | nil => exact List.map_eq_nil_iff.1 each.symm
  | cons e table ih =>
    cases urls with
    | nil => cases each
    | cons e' urls =>
      obtain ⟨first, others⟩ := List.cons.inj each
      rw [same first, ih others]

/-- **A registry resolves the names of its table** to their addresses, and no others. -/
theorem Registry.resolve?_of_ofTable? {table : Table String} {registry : Registry}
    (made : ofTable? table = some registry) (name : String) :
    registry.resolve? name = (Table.get? table name).bind (Url.parse? · none) ∧
      (∀ value, Table.get? table name = some value → (Url.parse? value none).isSome = true) := by
  obtain ⟨entries, read, rfl⟩ := Option.map_eq_some_iff.1 made
  unfold resolve?
  induction table generalizing entries with
  | nil =>
    cases read
    exact ⟨rfl, fun value found => by cases found⟩
  | cons e table ih =>
    rw [List.mapM_cons] at read
    obtain ⟨first, parsed, read⟩ := Option.bind_eq_some_iff.1 read
    obtain ⟨others, rest, read⟩ := Option.bind_eq_some_iff.1 read
    cases read
    obtain ⟨url, found_url, rfl⟩ := Option.map_eq_some_iff.1 parsed
    have made' : ofTable? table = some ⟨others⟩ := by
      rw [ofTable?, rest]
      rfl
    dsimp only
    rw [Table.get?_cons, Table.get?_cons]
    by_cases same : e.1 = name
    · rw [if_pos same, if_pos same]
      refine ⟨found_url.symm, fun value found => ?_⟩
      rw [← Option.some.inj found, found_url]
      rfl
    · rw [if_neg same, if_neg same]
      exact ih others rest made'

/-- **A table of the environment takes what is newest.**  Under each name it has what the last new entry for the name
gives, and nothing under other names; where no entry for a name returns, that is what the last entry for it gives.  A
registry is built of every accepted setting, and finds a service at the address that the table has under its name. -/
theorem envMap_takes_newest (raw : Option String) :
    ∃ entries, EntriesOf (raw.getD "") entries ∧ (envMap raw).names.Nodup ∧
      (∀ name value, Table.get? (envMap raw) name = some value ↔
        name ≠ unkeptName ∧ LastGives (NewAt entries) entries name value) ∧
      (∀ name, NoneReturns entries name → ∀ value, Table.get? (envMap raw) name = some value ↔
        name ≠ unkeptName ∧ LastGives (fun _ => True) entries name value) ∧
      ∀ (env : Env) (c : Config), env.get? "SERVICE_URLS" = raw → Config.ofEnv env = .fine c →
        ∃ registry, Registry.ofTable? c.serviceUrls = some registry ∧
          (∀ name, Table.get? (envMap raw) name = none → registry.resolve? name = none) ∧
          ∀ name value, Table.get? (envMap raw) name = some value →
            ∃ url, Url.parse? value none = some url ∧ registry.resolve? name = some url := by
  have made : EntriesOf (raw.getD "") (Text.pieces (· = ',') (raw.getD "")) := Text.pieces_eq_iff_cut.1 rfl
  refine ⟨_, made, ?_, fun name value => get?_envMap made, ?_, ?_⟩
  · rw [envMap_eq made]
    exact Table.nodup_names_settle _
  · intro name none_returns value
    rw [get?_envMap made, lastGives_new_iff none_returns]
  · rintro env c rfl fine
    have urls := (Config.fine_of_ofEnv fine).2.2.2.2.1
    obtain ⟨registry, built⟩ := Registry.exists_ofTable? (Env.parses_of_serviceUrls urls)
    have table := Env.eq_envMap_of_serviceUrls urls
    refine ⟨registry, built, fun name absent => ?_, fun name value found => ?_⟩
    · rw [(Registry.resolve?_of_ofTable? built name).1, table, absent]
      rfl
    · obtain ⟨resolved, parses⟩ := Registry.resolve?_of_ofTable? built name
      rw [table] at resolved parses
      obtain ⟨url, parsed⟩ := Option.isSome_iff_exists.1 (parses value found)
      refine ⟨url, parsed, ?_⟩
      rw [resolved, found]
      exact parsed

/-! ### Two settings -/

/-- An environment with addresses of services. -/
private def addressedEnv (addresses : String) : Env :=
  [("SERVICE_NAME", "gateway"), ("AUTH_ISSUER", "https://idp.test"), ("AUTH_AUDIENCE", "shop"),
    ("SERVICE_URLS", addresses)]

/-- An address that is given again, with blanks and in other words, takes the place of the one before it. -/
theorem envMap_takes_newest_address :
    Table.get? (envMap (some "users=http://one.test , users = http://two.test,shop,=x")) "users" =
        some "http://two.test" ∧
      ∃ c registry url, Config.ofEnv (addressedEnv "users=http://one.test , users = http://two.test,shop,=x") = .fine c ∧
        Registry.ofTable? c.serviceUrls = some registry ∧ registry.resolve? "users" = some url ∧
        url.host = some "two.test" := by
  have cut : Text.pieces (· = ',') "users=http://one.test , users = http://two.test,shop,=x" =
      ["users=http://one.test ", " users = http://two.test", "shop", "=x"] := by decide +kernel
  obtain ⟨entries, made, -, -, lasts, built⟩ :=
    envMap_takes_newest (some "users=http://one.test , users = http://two.test,shop,=x")
  have entries_eq := (Text.pieces_eq_iff_cut.2 made).symm.trans cut
  have once : (entries.map Text.trim).Nodup := by
    rw [entries_eq]
    decide +kernel
  have second : LastGives (fun _ => True) entries "users" "http://two.test" := by
    rw [entries_eq]
    refine ⟨1, " users = http://two.test", rfl, trivial, ?_, ?_⟩
    · exact ⟨by decide, " users ".toList, " http://two.test".toList, by decide +kernel, by decide, by decide +kernel,
        by decide +kernel⟩
    · intro j later after there _ other gives
      have inside := (List.getElem?_eq_some_iff.1 there).1
      change j < 4 at inside
      have read := envPair?_trim_eq_some_iff.2 gives
      obtain rfl | rfl : j = 2 ∨ j = 3 := by omega
      all_goals
        cases there
        have nothing : envPair? (Text.trim "shop") = none ∧ envPair? (Text.trim "=x") = none := by decide +kernel
        simp only [nothing.1, nothing.2] at read
        cases read
  have found := (lasts "users" (noneReturns_of_nodup once "users") "http://two.test").2 ⟨by decide, second⟩
  refine ⟨found, ?_⟩
  have accepted : (Config.ofEnv
      (addressedEnv "users=http://one.test , users = http://two.test,shop,=x")).value?.isSome = true := by
    decide +kernel
  cases read : Config.ofEnv (addressedEnv "users=http://one.test , users = http://two.test,shop,=x") with
  | faulty first others =>
    rw [read] at accepted
    cases accepted
  | fine c =>
    obtain ⟨registry, of_table, -, resolves⟩ := built _ c rfl read
    obtain ⟨url, parsed, resolved⟩ := resolves _ _ found
    have host : (Url.parse? "http://two.test" none).bind Url.host = some "two.test" := by decide +kernel
    rw [parsed] at host
    exact ⟨c, registry, url, rfl, of_table, resolved, host⟩

/-- **The address that is listed last is passed over** if it has been listed before: here the last entry gives one
address, and the service is found at the other. -/
theorem envMap_passes_over_last :
    EntriesOf "users=http://one.test,users=http://two.test,users=http://one.test"
        ["users=http://one.test", "users=http://two.test", "users=http://one.test"] ∧
      LastGives (fun _ => True) ["users=http://one.test", "users=http://two.test", "users=http://one.test"] "users"
        "http://one.test" ∧
      Table.get? (envMap (some "users=http://one.test,users=http://two.test,users=http://one.test")) "users" =
        some "http://two.test" ∧
      ((Registry.ofTable? (envMap (some "users=http://one.test,users=http://two.test,users=http://one.test"))).bind
        (·.resolve? "users")).bind Url.host = some "two.test" := by
  refine ⟨Text.pieces_eq_iff_cut.1 (by decide +kernel), ?_, by decide +kernel, by decide +kernel⟩
  refine ⟨2, "users=http://one.test", rfl, trivial, ?_, fun j later after there => ?_⟩
  · exact ⟨by decide, "users".toList, "http://one.test".toList, by decide +kernel, by decide, by decide +kernel,
      by decide +kernel⟩
  · have inside := (List.getElem?_eq_some_iff.1 there).1
    change j < 3 at inside
    omega

end BearerGate
