import BearerGate.Service.Pipeline

/-!
# What routes ask of their callers

Which requests are open to everyone and what all others need, said from the outside: `GET` and `HEAD` of
three paths are open, the product writes and the user routes for administrators need the role `admin`, and
everything else, a path that no endpoint answers included, needs a valid token (`accessOf_eq`).
-/

namespace BearerGate

/-- **Requests that are open to everyone.** -/
def Request.IsPublic (r : Request) : Prop :=
  (r.method = "GET" ∨ r.method = "HEAD") ∧
    ∃ name ∈ ["health", "ready", "metrics"], ∃ segment,
      Target.segments? r.target = some (some [segment]) ∧ Target.isLiteral name segment = true

/-- **The endpoints that are open to everyone** in a service. -/
def Endpoint.isPublic : Endpoint → Bool
  | health | ready | metrics => true
  | _ => false

/-- **The endpoints that write products.** -/
def Endpoint.writesProducts : Endpoint → Bool
  | createProduct | updateProduct | deleteProduct => true
  | _ => false

/-- The endpoints for administrators. -/
def adminEndpoints : List Endpoint :=
  [.createProduct, .updateProduct, .deleteProduct, .adminOnly, .user, .createUser]

/-- **What a route requires:** the role `admin` on those endpoints, else any caller with a valid token. -/
def required : Option Match → Requirement
  | some m => if m.endpoint ∈ adminEndpoints then .anyOf ["admin"] else .anyone
  | none => .anyone

/-- **What a request is routed to,** if its target can be read: an endpoint of the service, or none. -/
def routed? (endpoints : List Endpoint) (r : Request) : Option (Option Match) :=
  match route endpoints r.method r.target with
  | .matched m => some (some m)
  | .unmatched => some none
  | .badTarget | .nowhere => none

theorem routed?_isSome_iff {endpoints : List Endpoint} {r : Request} :
    (routed? endpoints r).isSome = true ↔ (Target.segments? r.target).isSome = true := by
  unfold routed? route
  cases Target.segments? r.target with
  | none => by_cases any : endpoints.any (·.answers r.method) = true <;> simp [any]
  | some path =>
    cases path with
    | none => simp
    | some path => cases found : findMatch endpoints r.method path <;> simp [found]

/-- What a match says about its request. -/
theorem of_routed? {endpoints : List Endpoint} {r : Request} {m : Match}
    (routed : routed? endpoints r = some (some m)) :
    m.endpoint ∈ endpoints ∧ m.endpoint.answers r.method = true ∧
      ∃ path, Target.segments? r.target = some (some path) ∧
        matchPattern m.endpoint.pattern path = some m.parameters := by
  have routes : route endpoints r.method r.target = .matched m := by
    unfold routed? at routed
    split at routed <;> simp_all
  unfold route at routes
  split at routes
  · split at routes <;> cases routes
  · cases routes
  · rename_i path readable
    split at routes
    · rename_i m' found
      cases routes
      obtain ⟨e, member, here⟩ := List.exists_of_findSome?_eq_some found
      split at here
      · rename_i answers
        obtain ⟨parameters, matches_, rfl⟩ := Option.map_eq_some_iff.1 here
        exact ⟨member, answers, path, readable, matches_⟩
      · cases here
    · cases routes

/-- A pattern of one fixed part is matched by paths of that one segment. -/
theorem matchPattern_literal {name : String} {path : List (List SegmentChar)}
    {parameters : List (String × String)} (found : matchPattern [.literal name] path = some parameters) :
    ∃ segment, path = [segment] ∧ Target.isLiteral name segment = true := by
  match path with
  | [] => cases found
  | segment :: rest =>
    rw [matchPattern] at found
    split at found
    · rename_i literal
      match rest with
      | [] => exact ⟨segment, rfl, literal⟩
      | _ :: _ => cases found
    · cases found

/-- The access of the endpoints of a service. -/
private theorem access_of_mem (name : ServiceName) :
    ∀ e ∈ name.endpoints, e.access =
      if e.isPublic then .open else .needs (if e ∈ adminEndpoints then .anyOf ["admin"] else .anyone) := by
  cases name <;> decide

/-- **What a request needs:** nothing at a public endpoint, else what its route requires. -/
theorem accessOf_cases {name : ServiceName} {r : Request} {m : Option Match}
    (routed : routed? name.endpoints r = some m) :
    (∃ open_one, m = some open_one ∧ open_one.endpoint.isPublic = true ∧ accessOf m = .open) ∨
      accessOf m = .needs (required m) := by
  cases m with
  | none => exact .inr rfl
  | some m =>
    have access := access_of_mem name m.endpoint (of_routed? routed).1
    by_cases is_public : m.endpoint.isPublic = true
    · rw [if_pos is_public] at access
      exact .inl ⟨m, rfl, is_public, access⟩
    · rw [if_neg is_public] at access
      exact .inr access

/-- A public endpoint answers `GET` and `HEAD` of one path. -/
theorem isPublic_of_routed? {endpoints : List Endpoint} {r : Request} {m : Match}
    (routed : routed? endpoints r = some (some m)) (is_public : m.endpoint.isPublic = true) : r.IsPublic := by
  obtain ⟨-, answers, path, readable, found⟩ := of_routed? routed
  -- All three have a path of one fixed segment and answer nothing but `GET`.
  have literal : ∃ known ∈ ["health", "ready", "metrics"], m.endpoint.pattern = [.literal known] ∧
      m.endpoint.methods = ["GET"] := by
    generalize m.endpoint = e at is_public
    cases e with
    | health => exact ⟨"health", by simp, rfl, rfl⟩
    | ready => exact ⟨"ready", by simp, rfl, rfl⟩
    | metrics => exact ⟨"metrics", by simp, rfl, rfl⟩
    | _ => cases is_public
  obtain ⟨known, of_known, pattern, methods⟩ := literal
  rw [pattern] at found
  obtain ⟨segment, rfl, same⟩ := matchPattern_literal found
  refine ⟨?_, known, of_known, segment, readable, same⟩
  simpa [Endpoint.answers, methods] using answers

/-- **A request that is not public needs what its route requires.** -/
theorem accessOf_eq {name : ServiceName} {r : Request} {m : Option Match}
    (routed : routed? name.endpoints r = some m) (closed : ¬r.IsPublic) :
    accessOf m = .needs (required m) := by
  rcases accessOf_cases routed with ⟨open_one, rfl, is_public, -⟩ | needs
  · exact absurd (isPublic_of_routed? routed is_public) closed
  · exact needs

/-- **Products are written** by `POST`, `PUT` and `DELETE`, and by administrators. -/
theorem required_of_writesProducts {m : Match} {method : String}
    (writes : m.endpoint.writesProducts = true) (answers : m.endpoint.answers method = true) :
    method ∈ ["POST", "PUT", "DELETE"] ∧ required (some m) = .anyOf ["admin"] := by
  have kind : m.endpoint ∈ adminEndpoints ∧
      ∃ write ∈ ["POST", "PUT", "DELETE"], m.endpoint.methods = [write] ∧ write ≠ "GET" := by
    generalize m.endpoint = e at writes
    cases e with
    | createProduct => exact ⟨by decide, "POST", by decide, rfl, by decide⟩
    | updateProduct => exact ⟨by decide, "PUT", by decide, rfl, by decide⟩
    | deleteProduct => exact ⟨by decide, "DELETE", by decide, rfl, by decide⟩
    | _ => cases writes
  obtain ⟨for_admins, write, of_writes, methods, no_get⟩ := kind
  refine ⟨?_, if_pos for_admins⟩
  have same : method = write := by simpa [Endpoint.answers, methods, no_get.symm] using answers
  rw [same]
  exact of_writes

end BearerGate
