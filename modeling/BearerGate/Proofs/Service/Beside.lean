import BearerGate.Proofs.KeySet.Reply
import BearerGate.Proofs.Service.Call

/-!
# Requests beside the key cache

A request and the key cache of its service take turns.  What the request asks about keys, the cache answers
(`MetByCache`): what is held and what was counted are shown as they are, and a search or a refresh is a call that is
heard of when the cache replies to it.  Meanwhile anything else may happen to the cache, and so it may whenever the
request waits for something else; a history of the cache is all that is said of it.  Only between looking at the cache
and the next question nothing happens, since a task that looks does not wait.

`Beside` is a whole way of a request beside the cache, with the calls that were made on it.  Ways are cut at a turn
(`Beside.cut`), and a stretch without questions about keys adds no call (`Beside.calls_of_aside`).
-/

namespace BearerGate

open KeyCache

/-! ### Questions about keys -/

namespace Ask

/-- The questions that the key cache answers. -/
def isAboutKeys : Ask → Bool
  | key _ | refreshKeys | heldKeys | keyStats => true
  | _ => false

/-- The questions for which something is called, the key cache or another service. -/
def isCall : Ask → Bool
  | key _ | refreshKeys | call _ => true
  | _ => false

end Ask

variable {σ : Type}

/-- Some turns that are not about keys. -/
def Aside (turns : List (Turn σ)) : Prop := ∀ t ∈ turns, t.question.isAboutKeys = false

theorem Aside.append {first rest : List (Turn σ)} (aside : Aside first) (aside' : Aside rest) :
    Aside (first ++ rest) := fun t member => (List.mem_append.1 member).elim (aside t) (aside' t)

/-! ### The cache answers -/

/-- **A call on a cache** after a history: `told` is what has happened by the time when it is answered. -/
structure Called (k : Settings) (c : Call) (h : History) (p : Inquiry) (a : CallAnswer) (told : History) : Prop where
  call : p.call = c
  before : p.before = h
  answered : ∃ m b, told = m :: b ∧ (p, a) ∈ repliesAt k b m

/-- **A question is met by a cache** after a history, with the calls that are made for it and what has happened by the
time when the task goes on. -/
def MetByCache (k : Settings) (issuer : String) (h : History) : (q : Ask) → q.Answer → List Inquiry → History → Prop
  | .heldKeys, shown, calls, h' =>
    shown = (peek k (stateAfter k h) issuer).getD ⟨[], none⟩ ∧ calls = [] ∧ h' = h
  | .keyStats, counted, calls, h' => counted = (stateAfter k h).stats ∧ calls = [] ∧ h' = h
  | .key keyId, answer, calls, h' =>
    ∃ p a told, answer = KeySession.keyAnswer a ∧ Called k (.key issuer keyId) h p a told ∧ calls = [p] ∧ told <:+ h'
  | .refreshKeys, a, calls, h' => ∃ p told, Called k (.refresh issuer) h p a told ∧ calls = [p] ∧ told <:+ h'
  | _, _, calls, h' => calls = [] ∧ h <:+ h'

/-- **A request beside a cache:** its turns, the calls that are made for them, and what has happened to the cache before
and after. -/
inductive Beside (k : Settings) (issuer : String) : History → List (Turn σ) → List Inquiry → History → Prop
  | nil (h : History) : Beside k issuer h [] [] h
  | cons {h h₁ h' : History} {t : Turn σ} {turns : List (Turn σ)} {made calls : List Inquiry}
      (met : MetByCache k issuer h t.question t.answer made h₁) (rest : Beside k issuer h₁ turns calls h') :
    Beside k issuer h (t :: turns) (made ++ calls) h'

section Meeting

variable {k : Settings} {issuer : String} {h h' : History}

/-- The time of an answer is not before the call. -/
theorem Called.grows {c : Call} {p : Inquiry} {a : CallAnswer} {told : History} (called : Called k c h p a told) :
    h <:+ told := by
  obtain ⟨-, rfl, m, b, rfl, reply⟩ := called
  rcases hears_of_reply k reply with ⟨-, rfl, -⟩ | ⟨now, name, outcome, result, -, waits, -, -⟩
  · exact List.suffix_cons m p.before
  · have made := (kept_of_waiting k waits).2.1
    exact ((List.suffix_cons p.moment p.before).trans made).trans (List.suffix_cons m b)

/-- What is not about keys leaves the cache to others. -/
theorem metByCache_aside {q : Ask} {answer : q.Answer} {made : List Inquiry} (aside : q.isAboutKeys = false) :
    MetByCache k issuer h q answer made h' ↔ made = [] ∧ h <:+ h' := by
  cases q with
  | heldKeys | keyStats | key _ | refreshKeys => cases aside
  | _ => rfl

/-- **Time goes on** while a question is answered. -/
theorem MetByCache.grows {q : Ask} {answer : q.Answer} {made : List Inquiry}
    (met : MetByCache k issuer h q answer made h') : h <:+ h' := by
  cases q with
  | heldKeys | keyStats =>
    obtain ⟨-, -, rfl⟩ := met
    exact List.suffix_refl h'
  | key keyId =>
    obtain ⟨p, a, told, -, called, -, grows⟩ := met
    exact called.grows.trans grows
  | refreshKeys =>
    obtain ⟨p, told, called, -, grows⟩ := met
    exact called.grows.trans grows
  | _ => exact ((metByCache_aside rfl).1 met).2

/-- Only a question for a key, or for a refresh, is a call on the cache. -/
theorem MetByCache.made_eq_nil {q : Ask} {answer : q.Answer} {made : List Inquiry}
    (met : MetByCache k issuer h q answer made h') (uncalled : q.isCall = false) : made = [] := by
  cases q with
  | heldKeys | keyStats => exact met.2.1
  | key _ | refreshKeys => cases uncalled
  | _ => exact ((metByCache_aside rfl).1 met).1

end Meeting

/-! ### Ways beside the cache -/

namespace Beside

variable {k : Settings} {issuer : String} {h h' : History} {turns first rest : List (Turn σ)} {calls : List Inquiry}

theorem grows (beside : Beside k issuer h turns calls h') : h <:+ h' := by
  induction beside with
  | nil h => exact List.suffix_refl h
  | cons met rest ih => exact met.grows.trans ih

/-- **A way beside the cache is cut** where its turns are. -/
theorem cut (beside : Beside k issuer h (first ++ rest) calls h') :
    ∃ h₁ made later, Beside k issuer h first made h₁ ∧ Beside k issuer h₁ rest later h' ∧ calls = made ++ later := by
  induction first generalizing h calls with
  | nil => exact ⟨h, [], calls, .nil h, beside, rfl⟩
  | cons t first ih =>
    cases beside with
    | cons met beside =>
      obtain ⟨h₁, made, later, before, after, rfl⟩ := ih beside
      exact ⟨h₁, _, later, .cons met before, after, (List.append_assoc _ _ _).symm⟩

theorem append {h₁ : History} {made later : List Inquiry} (before : Beside k issuer h first made h₁)
    (after : Beside k issuer h₁ rest later h') : Beside k issuer h (first ++ rest) (made ++ later) h' := by
  induction before with
  | nil h => exact after
  | cons met before ih =>
    rw [List.cons_append, List.append_assoc]
    exact .cons met (ih after)

/-- The first turn of a way. -/
theorem uncons {t : Turn σ} (beside : Beside k issuer h (t :: turns) calls h') :
    ∃ h₁ made later, MetByCache k issuer h t.question t.answer made h₁ ∧ Beside k issuer h₁ turns later h' ∧
      calls = made ++ later := by
  cases beside with
  | cons met rest => exact ⟨_, _, _, met, rest, rfl⟩

/-- **Where nothing is called, nothing was.** -/
theorem calls_eq_nil (beside : Beside k issuer h turns calls h')
    (uncalled : ∀ t ∈ turns, t.question.isCall = false) : calls = [] := by
  induction beside with
  | nil h => rfl
  | @cons h h₁ h' t turns made calls met rest ih =>
    rw [met.made_eq_nil (uncalled t List.mem_cons_self), List.nil_append]
    exact ih fun t member => uncalled t (List.mem_cons_of_mem _ member)

/-- Some turns that are not about keys make no calls. -/
theorem calls_of_aside (beside : Beside k issuer h turns calls h') (aside : Aside turns) : calls = [] := by
  induction beside with
  | nil h => rfl
  | @cons h h₁ h' t turns made calls met rest ih =>
    rw [((metByCache_aside (aside t List.mem_cons_self)).1 met).1, List.nil_append]
    exact ih fun t member => aside t (List.mem_cons_of_mem _ member)

end Beside

/-- Turns that are not about keys can be taken while nothing happens to the cache. -/
theorem Aside.beside {turns : List (Turn σ)} (aside : Aside turns) (k : Settings) (issuer : String) (h : History) :
    Beside k issuer h turns [] h := by
  induction turns with
  | nil => exact .nil h
  | cons t turns ih =>
    have met : MetByCache k issuer h t.question t.answer [] h :=
      (metByCache_aside (aside t List.mem_cons_self)).2 ⟨rfl, List.suffix_refl h⟩
    exact .cons met (ih fun t member => aside t (List.mem_cons_of_mem _ member))

/-! ### Asking only certain questions -/

/-- **Asking only certain questions.** -/
def Contract.asking (σ : Type) (allowed : Ask → Prop) : Contract σ where
  relies _ _ := True
  keeps _ _ := True
  asks := allowed
  refl _ := trivial
  trans _ _ := trivial

/-- What was asked on a path is what may be asked. -/
theorem asked_of_asking {α : Type} {allowed : Ask → Prop} {post : α → Prop} {t : Task σ α}
    (asks : t.Within (Contract.asking σ allowed) post) {s : σ} {turns : List (Turn σ)} {y : Step σ α}
    (path : (t s).Reaches turns y) : ∀ t ∈ turns, allowed t.question :=
  Step.Within.asks_of_mem path (asks s) fun _ _ => trivial

end BearerGate
