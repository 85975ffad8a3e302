import BearerGate.Proofs.Service.Ending

/-!
# Tasks that cannot be told apart

What can be seen of a path: the readings of the clock, the numbers that requests are given, and what is logged.
Steps are **twins** (`Step.Twins`) if they ask the same and end alike as long as the clock shows both the same; they
may be given different states, and what is measured and recorded of them may differ.  Twins that have ended have ended
with the same value and have logged the same (`Step.Twins.alike`).  Sending a draft is a twin of itself for all
requests for one target (`twins_sendDraft`).
-/

namespace BearerGate

/-! ### What can be seen of a path -/

section Seen

variable {σ : Type}

/-- The time that is read in a turn. -/
def Turn.reading? : Turn σ → Option Number
  | ⟨_, .time, now, _⟩ => some now
  | _ => none

/-- The number that is given to a request in a turn. -/
def Turn.number? : Turn σ → Option Nat
  | ⟨_, .requestNumber, n, _⟩ => some n
  | _ => none

/-- The entry that is logged in a turn. -/
def Turn.logged? : Turn σ → Option LogEntry
  | ⟨_, .log e, _, _⟩ => some e
  | _ => none

/-- **The readings of the clock** on a path. -/
def clockReadings (turns : List (Turn σ)) : List Number := turns.filterMap Turn.reading?

/-- **The numbers** that requests are given on a path. -/
def requestNumbers (turns : List (Turn σ)) : List Nat := turns.filterMap Turn.number?

/-- **What is logged** on a path. -/
def logsOf (turns : List (Turn σ)) : List LogEntry := turns.filterMap Turn.logged?

theorem logsOf_append (first rest : List (Turn σ)) : logsOf (first ++ rest) = logsOf first ++ logsOf rest :=
  List.filterMap_append

end Seen

/-! ### Twins -/

/-- **Steps that cannot be told apart:** they ask the same, as long as the clock shows them the same, and end with
the same value.  They may be given different states, and what is measured and recorded may differ. -/
inductive Step.Twins {σ α : Type} : Step σ α → Step σ α → Prop
  | done (s t : σ) (a : α) : Twins (.done s a) (.done t a)
  | time {s t : σ} {f g : Ask.time.Answer → σ → Step σ α} (next : ∀ now u w, Twins (f now u) (g now w)) :
    Twins (.ask s .time f) (.ask t .time g)
  | log {s t : σ} {e : LogEntry} {f g : (Ask.log e).Answer → σ → Step σ α}
      (next : ∀ u w, Twins (f () u) (g () w)) : Twins (.ask s (.log e) f) (.ask t (.log e) g)
  | timer {s t : σ} {f g : Ask.timer.Answer → σ → Step σ α} (next : ∀ x y u w, Twins (f x u) (g y w)) :
    Twins (.ask s .timer f) (.ask t .timer g)
  | record {s t : σ} {e e' : MetricEvent} {f : (Ask.record e).Answer → σ → Step σ α}
      {g : (Ask.record e').Answer → σ → Step σ α} (next : ∀ u w, Twins (f () u) (g () w)) :
    Twins (.ask s (.record e) f) (.ask t (.record e') g)

/-- Tasks that cannot be told apart, whatever states they begin with. -/
def Task.Twins {σ α : Type} (t t' : Task σ α) : Prop := ∀ s u, (t s).Twins (t' u)

/-- A question that is followed to an end has been answered. -/
theorem Step.reaches_ask_done {σ α : Type} {s t : σ} {q : Ask} {resume : q.Answer → σ → Step σ α} {a : α}
    {turns : List (Turn σ)} (path : (Step.ask s q resume).Reaches turns (.done t a)) :
    ∃ answer u rest, turns = ⟨s, q, answer, u⟩ :: rest ∧ (resume answer u).Reaches rest (.done t a) := by
  cases path with
  | turn rest => exact ⟨_, _, _, rfl, rest⟩

namespace Step.Twins

variable {σ α β : Type}

theorem bind {x y : Step σ α} {f g : α → σ → Step σ β} (twins : x.Twins y)
    (next : ∀ a, Task.Twins (f a) (g a)) : (x.bind f).Twins (y.bind g) := by
  induction twins with
  | done s t a => exact next a s t
  | time _ ih => exact .time ih
  | log _ ih => exact .log ih
  | timer _ ih => exact .timer ih
  | record _ ih => exact .record ih

/-- **Twins that have ended** have ended alike and have logged the same, if both read one clock. -/
theorem alike {x y : Step σ α} (twins : x.Twins y) {turns turns' : List (Turn σ)} {s t : σ} {a b : α}
    {clock : List Number} (path : x.Reaches turns (.done s a)) (path' : y.Reaches turns' (.done t b))
    (shown : clockReadings turns <+: clock) (shown' : clockReadings turns' <+: clock) :
    b = a ∧ logsOf turns' = logsOf turns := by
  -- Both paths take one turn at a time; a reading of the clock uses up one reading of the series.
  induction twins generalizing turns turns' clock with
  | done s t a =>
    obtain ⟨rfl, -, rfl⟩ := eq_of_reaches_done path
    obtain ⟨rfl, -, rfl⟩ := eq_of_reaches_done path'
    exact ⟨rfl, rfl⟩
  | time next ih =>
    obtain ⟨now, u, turns, rfl, way⟩ := reaches_ask_done path
    obtain ⟨now', w, turns', rfl, way'⟩ := reaches_ask_done path'
    obtain ⟨later, rfl⟩ := shown
    obtain ⟨rfl, further'⟩ : now' = now ∧ clockReadings turns' <+: clockReadings turns ++ later :=
      List.cons_prefix_cons.1 shown'
    have further : clockReadings turns <+: clockReadings turns ++ later := List.prefix_append _ _
    obtain ⟨ended, logged⟩ := ih now' u w way way' further further'
    exact ⟨ended, logged⟩
  | @log _ _ e _ _ next ih =>
    obtain ⟨_, u, turns, rfl, way⟩ := reaches_ask_done path
    obtain ⟨_, w, turns', rfl, way'⟩ := reaches_ask_done path'
    obtain ⟨ended, logged⟩ := ih u w way way' shown shown'
    exact ⟨ended, congrArg (e :: ·) logged⟩
  | timer next ih =>
    obtain ⟨x, u, turns, rfl, way⟩ := reaches_ask_done path
    obtain ⟨y, w, turns', rfl, way'⟩ := reaches_ask_done path'
    obtain ⟨ended, logged⟩ := ih x y u w way way' shown shown'
    exact ⟨ended, logged⟩
  | record next ih =>
    obtain ⟨_, u, turns, rfl, way⟩ := reaches_ask_done path
    obtain ⟨_, w, turns', rfl, way'⟩ := reaches_ask_done path'
    obtain ⟨ended, logged⟩ := ih u w way way' shown shown'
    exact ⟨ended, logged⟩

end Step.Twins

namespace Task.Twins

variable {σ α β : Type}

theorem pure (a : α) : Task.Twins (Pure.pure a : Task σ α) (Pure.pure a) := fun s t => .done s t a

theorem bind {t t' : Task σ α} {f g : α → Task σ β} (first : t.Twins t') (next : ∀ a, (f a).Twins (g a)) :
    Task.Twins (t >>= f) (t' >>= g) := fun s u => (first s u).bind next

theorem time : Task.Twins (Task.time : Task σ Number) Task.time :=
  fun _ _ => Step.Twins.time fun now u w => .done u w now

theorem log (e : LogEntry) : Task.Twins (Task.log e : Task σ Unit) (Task.log e) :=
  fun _ _ => Step.Twins.log fun u w => .done u w ()

theorem logAll (es : List LogEntry) : Task.Twins (Task.logAll es : Task σ Unit) (Task.logAll es) := by
  induction es with
  | nil => exact pure ()
  | cons e es ih => exact (log e).bind fun _ => ih

/-- What follows a reading of the timer may not show it. -/
theorem timer_bind {f g : Int → Task σ β} (next : ∀ x y, (f x).Twins (g y)) :
    Task.Twins (Task.timer >>= f) (Task.timer >>= g) :=
  fun _ _ => Step.Twins.timer fun x y u w => next x y u w

theorem record (e e' : MetricEvent) : Task.Twins (Task.record e : Task σ Unit) (Task.record e') :=
  fun _ _ => Step.Twins.record fun u w => .done u w ()

theorem map {t t' : Task σ α} (f : α → β) (twins : t.Twins t') : Task.Twins (f <$> t) (f <$> t') := by
  rw [← bind_pure_comp, ← bind_pure_comp]
  exact twins.bind fun a => pure (f a)

end Task.Twins

/-! ### Sending alike -/

section Sending

variable {σ : Type}

theorem twins_sendPlainly (o : Outlet) (kept : List (String × String)) (status : Nat) (earlier : FailedAttempt) :
    Task.Twins (o.sendPlainly kept status earlier : Task σ Reply) (o.sendPlainly kept status earlier) := by
  unfold Outlet.sendPlainly
  refine .bind (.log _) fun _ => ?_
  dsimp only
  split
  · exact .pure _
  · exact .bind (.log _) fun _ => .pure _

/-- A fault is reported alike to requests for one target, if the same headers go with it. -/
theorem twins_sendFault (o : Outlet) {r r' : Request} (target : r'.target = r.target) (f : Fault)
    (headers : f.headers r' = f.headers r) (kept written : List (String × String)) :
    Task.Twins (o.sendFault r f kept written : Task σ Reply) (o.sendFault r' f kept written) := by
  unfold Outlet.sendFault Draft.ofReport
  rw [target, headers]
  refine .bind (.logAll _) fun _ => .bind .time fun now => ?_
  dsimp only
  split
  · exact .pure _
  · exact twins_sendPlainly o _ _ _

/-- A draft is sent alike to requests for one target. -/
theorem twins_sendDraft (o : Outlet) {r r' : Request} (target : r'.target = r.target) (d : Draft) :
    Task.Twins (o.sendDraft r d : Task σ Reply) (o.sendDraft r' d) := by
  have bare : ∀ why, (Fault.crash why).headers r' = (Fault.crash why).headers r := fun _ => rfl
  unfold Outlet.sendDraft
  split
  · exact .pure _
  · exact twins_sendFault o target _ (bare _) _ _

end Sending

end BearerGate
