import BearerGate.Principal.Roles
import BearerGate.Proofs.Json.Text
import BearerGate.Proofs.Text.Distinct
import BearerGate.Proofs.Text.Pieces

/-!
# What a role path leads to

A role path is a text with points in it.  Its pieces are steps, and a **chain** of such steps leads from the
claims to a value (`Leads`): each step goes from an object to the value under one of the object's own keys, and
nothing else is ever entered.  A caller has a role exactly if a chain of one of the paths ends at the role
itself or at an array with the role among its elements (`resolveRoles_chains`).

So a role does not get lost when claims **grow** (`Json.Grows`): when objects get further members, arrays
further strings, or a value where no role can stand gives way to another one.  Claims that have grown from each
other hold the same roles, whatever else stands in their arrays.
-/

namespace BearerGate

/-! ### Steps of a path -/

/-- **The steps of a path:** texts without points that give the path when they are joined by points. -/
structure StepsOf (path : String) (steps : List String) : Prop where
  some_there : steps ≠ []
  joined : String.intercalate "." steps = path
  pointless : ∀ step ∈ steps, '.' ∉ step.toList

theorem pathSteps_eq_iff {path : String} {steps : List String} : pathSteps path = steps ↔ StepsOf path steps := by
  have joined_iff : ['.'].intercalate (steps.map String.toList) = path.toList ↔
      String.intercalate "." steps = path := by
    rw [← String.toList_inj, String.toList_intercalate]
    rfl
  rw [pathSteps, Text.pieces_eq_iff, joined_iff]
  exact ⟨fun ⟨some_there, joined, pointless⟩ => ⟨some_there, joined, pointless⟩,
    fun ⟨some_there, joined, pointless⟩ => ⟨some_there, joined, pointless⟩⟩

/-! ### Chains -/

/-- **A chain of steps from a value to another.**  A step goes from an object to the value under a key of its
own: the key that the step names, or any key for the step `*`. -/
inductive Leads : (steps : List String) → Json → Json → Prop
  | here (value : Json) : Leads [] value value
  | step {name key : String} {steps : List String} {members : Members} {value last : Json}
    (own : Table.get? members key = some value) (fits : name = key ∨ name = "*") (rest : Leads steps value last) :
    Leads (name :: steps) (.object members) last

/-- **A value that bears a role:** the role itself, or an array with the role among its elements. -/
def Json.Bears (value : Json) (role : String) : Prop :=
  role ≠ "" ∧ (value = .string role ∨ ∃ elements, value = .array elements ∧ Json.string role ∈ elements)

theorem mem_rolesIn_iff {value : Json} {role : String} : role ∈ rolesIn value ↔ value.Bears role := by
  have string_iff : ∀ j : Json, j.string? = some role ↔ j = .string role := by
    intro j
    cases j <;> simp [Json.string?]
  cases value with
  | string s =>
    rw [rolesIn, Json.Bears]
    split
    · rename_i empty
      simp [empty, eq_comm]
    · rename_i filled
      simp only [List.mem_singleton, Json.string.injEq, reduceCtorEq, false_and, exists_false, or_false]
      exact ⟨fun same => ⟨same ▸ filled, same.symm⟩, fun bears => bears.2.symm⟩
  | array elements => simp [rolesIn, Json.Bears, string_iff, and_comm]
  | _ => simp [rolesIn, Json.Bears]

/-! ### What is found -/

/-- **The values that a path leads to** are the ends of its chains; `null` is as good as nothing there. -/
theorem mem_valuesAt_iff {steps : List String} {value last : Json} (settled : value.Settled) :
    last ∈ valuesAt steps value ↔ Leads steps value last ∧ last ≠ .null := by
  induction steps generalizing value with
  | nil =>
    have ends : last ∈ valuesAt [] value ↔ last = value ∧ last ≠ .null := by
      cases value <;> simp +contextual [valuesAt]
    rw [ends]
    refine and_congr_left' ⟨?_, ?_⟩
    · rintro rfl
      exact .here _
    · rintro ⟨⟩
      rfl
  | cons name steps ih =>
    cases value with
    | object members =>
      have found_iff : ∀ {key : String} {value : Json},
          Table.get? members key = some value ↔ (key, value) ∈ members :=
        Table.get?_eq_some_iff_of_nodup settled.nodup_names
      have inner : ∀ {key : String} {value : Json}, Table.get? members key = some value → value.Settled := by
        cases settled with
        | object ordered each => exact fun own => each _ (found_iff.1 own)
      -- What a first step leads on to.
      have onward : last ∈ valuesAt (name :: steps) (.object members) ↔ ∃ key value,
          Table.get? members key = some value ∧ (name = key ∨ name = "*") ∧ last ∈ valuesAt steps value := by
        rw [valuesAt]
        split
        · rename_i wildcard
          simp only [List.mem_flatMap, Prod.exists, found_iff, wildcard, or_true, true_and]
        · rename_i named
          simp only [named, or_false]
          cases own : Table.get? members name with
          | none =>
            simp only [List.not_mem_nil, false_iff, not_exists, not_and]
            rintro key value own' rfl
            rw [own] at own'
            cases own'
          | some value =>
            constructor
            · exact fun there => ⟨name, value, own, rfl, there⟩
            · rintro ⟨key, value', own', rfl, there⟩
              rw [own] at own'
              cases own'
              exact there
      rw [onward]
      constructor
      · rintro ⟨key, value, own, fits, there⟩
        obtain ⟨rest, some_value⟩ := (ih (inner own)).1 there
        exact ⟨.step own fits rest, some_value⟩
      · rintro ⟨chain, some_value⟩
        cases chain with
        | step own fits rest => exact ⟨_, _, own, fits, (ih (inner own)).2 ⟨rest, some_value⟩⟩
    | _ =>
      simp only [valuesAt, List.not_mem_nil, false_iff, not_and]
      rintro ⟨⟩

/-- A role in the claims is borne by the end of a chain. -/
theorem mem_resolveRoles_iff {claims : Json} (settled : claims.Settled) {paths : List String} {role : String} :
    role ∈ resolveRoles claims paths ↔ ∃ path ∈ paths, ∃ steps value, StepsOf path steps ∧
      Leads steps claims value ∧ value.Bears role := by
  have not_null : ∀ {value : Json}, value.Bears role → value ≠ .null := by
    rintro value bears rfl
    rcases bears.2 with same | ⟨elements, same, -⟩ <;> cases same
  simp only [resolveRoles, Text.mem_distinct, List.mem_flatMap, mem_valuesAt_iff settled, mem_rolesIn_iff]
  refine exists_congr fun path => and_congr_right fun _ => ?_
  constructor
  · rintro ⟨value, ⟨chain, -⟩, bears⟩
    exact ⟨_, value, pathSteps_eq_iff.1 rfl, chain, bears⟩
  · rintro ⟨steps, value, steps_of, chain, bears⟩
    obtain rfl := pathSteps_eq_iff.2 steps_of
    exact ⟨value, ⟨chain, not_null bears⟩, bears⟩

/-! ### Growing claims -/

namespace Json

/-- **A value that has grown from another:** it is the same; or it stands where no role, and no way to one,
has been; or it is an array that has kept its strings, or an object that has kept its keys with values that have
grown. -/
inductive Grows : Json → Json → Prop
  | same (value : Json) : Grows value value
  | plain {value : Json} (no_string : ∀ s, value ≠ .string s) (no_array : ∀ elements, value ≠ .array elements)
    (no_object : ∀ members, value ≠ .object members) (other : Json) : Grows value other
  | array {elements others : List Json} (kept : ∀ s, Json.string s ∈ elements → Json.string s ∈ others) :
    Grows (.array elements) (.array others)
  | object {members others : Members} (grown : String → Json)
    (kept : ∀ key value, Table.get? members key = some value → Table.get? others key = some (grown key))
    (each : ∀ key value, Table.get? members key = some value → Grows value (grown key)) :
    Grows (.object members) (.object others)

/-- **Further members** let an object grow, as long as those that were there stay as they are. -/
theorem Grows.of_kept {members others : Members}
    (kept : ∀ key value, Table.get? members key = some value → Table.get? others key = some value) :
    Grows (.object members) (.object others) := by
  refine .object (fun key => (Table.get? members key).getD .null) ?_ ?_
  · intro key value own
    rw [own]
    exact kept key value own
  · intro key value own
    rw [own]
    exact .same value

theorem Grows.bears {value other : Json} (grows : value.Grows other) {role : String} (bears : value.Bears role) :
    other.Bears role := by
  obtain ⟨filled, same | ⟨elements, same, there⟩⟩ := bears
  · cases grows with
    | same => exact ⟨filled, .inl same⟩
    | plain no_string => exact absurd same (no_string role)
    | array => cases same
    | object => cases same
  · cases grows with
    | same => exact ⟨filled, .inr ⟨elements, same, there⟩⟩
    | plain _ no_array => exact absurd same (no_array elements)
    | array kept =>
      cases same
      exact ⟨filled, .inr ⟨_, rfl, kept role there⟩⟩
    | object => cases same

end Json

/-- A chain goes on wherever the value it begins at has grown, and its end has grown with it. -/
theorem Leads.grow {steps : List String} {value last other : Json} (chain : Leads steps value last)
    (grows : value.Grows other) : ∃ last', Leads steps other last' ∧ last.Grows last' := by
  induction chain generalizing other with
  | here value => exact ⟨other, .here other, grows⟩
  | @step name key steps members value last own fits rest ih =>
    cases grows with
    | same => exact ⟨last, .step own fits rest, .same last⟩
    | plain _ _ no_object => exact absurd rfl (no_object members)
    | object grown kept each =>
      obtain ⟨last', chain, grows⟩ := ih (each key value own)
      exact ⟨last', .step (kept key value own) fits chain, grows⟩

theorem resolveRoles_grows {claims other : Json} (settled : claims.Settled) (settled' : other.Settled)
    (grows : claims.Grows other) {paths : List String} {role : String} (there : role ∈ resolveRoles claims paths) :
    role ∈ resolveRoles other paths := by
  obtain ⟨path, member, steps, value, steps_of, chain, bears⟩ := (mem_resolveRoles_iff settled).1 there
  obtain ⟨value', chain', grown⟩ := chain.grow grows
  exact (mem_resolveRoles_iff settled').2 ⟨path, member, steps, value', steps_of, chain', grown.bears bears⟩

/-! ### The semantics of paths -/

/-- **The roles of claims are those at the ends of chains.**  A role is found exactly if a chain of one of the
paths ends at a value that bears it; a chain enters nothing but objects, and a step other than `*` needs a key of
the object's own.  Several lists of paths find what each of them finds; claims that grow lose no role, and claims
that have grown from each other hold the same ones. -/
theorem resolveRoles_chains {claims : Json} (settled : claims.Settled) (paths : List String) :
    (∀ role, role ∈ resolveRoles claims paths ↔ ∃ path ∈ paths, ∃ steps value, StepsOf path steps ∧
      Leads steps claims value ∧ value.Bears role) ∧
    (∀ name steps value last, Leads (name :: steps) value last → ∃ members, value = .object members ∧
      (name = "*" ∨ (Table.get? members name).isSome)) ∧
    (∀ more role, role ∈ resolveRoles claims (paths ++ more) ↔
      role ∈ resolveRoles claims paths ∨ role ∈ resolveRoles claims more) ∧
    (∀ other : Json, other.Settled → claims.Grows other →
      ∀ role ∈ resolveRoles claims paths, role ∈ resolveRoles other paths) ∧
    (∀ other : Json, other.Settled → claims.Grows other → other.Grows claims →
      ∀ role, role ∈ resolveRoles claims paths ↔ role ∈ resolveRoles other paths) := by
  refine ⟨fun role => mem_resolveRoles_iff settled, ?_, ?_, ?_, ?_⟩
  · intro name steps value last chain
    cases chain with
    | step own fits rest =>
      refine ⟨_, rfl, fits.symm.imp_right ?_⟩
      rintro rfl
      rw [own]
      rfl
  · intro more role
    simp only [resolveRoles, Text.mem_distinct, List.flatMap_append, List.mem_append]
  · exact fun other settled' grows role there => resolveRoles_grows settled settled' grows there
  · exact fun other settled' grows grows' role =>
      ⟨resolveRoles_grows settled settled' grows, resolveRoles_grows settled' settled grows'⟩

/-- Claims that name a role of one client, and further members. -/
private def clientClaims (more : Members) : Members :=
  ("resource_access", .object
    [("account", .string "editor"),
      ("shop", .object [("roles", .array [.string "editor", .array [.string "owner"]])])]) :: more

private theorem settled_clientClaims (more : Members) (nodup : (clientClaims more).names.Nodup)
    (plain : ∀ name ∈ (clientClaims more).names, Table.index? name = none) (each : ∀ m ∈ more, m.2.Settled) :
    (Json.object (clientClaims more)).Settled := by
  have roles : (Json.array [.string "editor", .array [.string "owner"]]).Settled :=
    .array (by simp [Json.Settled.string, Json.Settled.array])
  have shop : (Json.object [("roles", .array [.string "editor", .array [.string "owner"]])]).Settled :=
    .object (Json.ofMembers_eq_object (by decide) (by decide)) (by simpa using roles)
  refine .object (Json.ofMembers_eq_object nodup plain) ?_
  rw [clientClaims, List.forall_mem_cons]
  refine ⟨.object (Json.ofMembers_eq_object (by decide) (by decide)) ?_, each⟩
  simpa using ⟨Json.Settled.string _, shop⟩

/-- A role behind a wildcard, which stays when a member with the name of an inherited one is added. -/
theorem resolveRoles_chains_of_wildcard :
    (Json.object (clientClaims [])).Settled ∧
      "editor" ∈ resolveRoles (.object (clientClaims [])) ["groups", "resource_access.*.roles"] ∧
      "editor" ∈ resolveRoles (.object (clientClaims [("constructor", .null)]))
        ["groups", "resource_access.*.roles"] := by
  have settled := settled_clientClaims [] (by decide) (by decide) (by simp)
  have settled' := settled_clientClaims [("constructor", .null)] (by decide) (by decide)
    (by simpa using Json.Settled.null)
  obtain ⟨found_iff, -, -, keeps, -⟩ := resolveRoles_chains settled ["groups", "resource_access.*.roles"]
  have shop : Leads ["roles"] (.object [("roles", .array [.string "editor", .array [.string "owner"]])])
      (.array [.string "editor", .array [.string "owner"]]) := .step rfl (.inl rfl) (.here _)
  have chain : Leads ["resource_access", "*", "roles"] (.object (clientClaims []))
      (.array [.string "editor", .array [.string "owner"]]) :=
    .step rfl (.inl rfl) (.step (show Table.get? _ "shop" = some _ from rfl) (.inr rfl) shop)
  have there : "editor" ∈ resolveRoles (.object (clientClaims [])) ["groups", "resource_access.*.roles"] :=
    (found_iff "editor").2 ⟨"resource_access.*.roles", by decide, _, _, ⟨by simp, by decide, by decide⟩, chain,
      by decide, .inr ⟨_, rfl, by simp⟩⟩
  refine ⟨settled, there, keeps _ settled' (.of_kept fun key value own => ?_) _ there⟩
  rw [clientClaims, Table.get?_cons] at own ⊢
  split at own
  · rename_i same
    rw [if_pos same]
    exact own
  · cases own

end BearerGate
