/-!
# Scripts

A script stands in for a part of the world that answers when asked: it is a list of answers that are
given one after the other, the last of them again and again.  An empty script never answers.
-/

namespace BearerGate

/-- **A list of answers,** played in order; the last one repeats. -/
structure Script (α : Type) where
  steps : List α

namespace Script

variable {α : Type}

/-- The next answer and what is left of the script. -/
def next (s : Script α) : Option α × Script α :=
  match s.steps with
  | [] => (none, s)
  | [a] => (some a, s)
  | a :: b :: rest => (some a, ⟨b :: rest⟩)

theorem next_fst_eq_none_iff {s : Script α} : s.next.1 = none ↔ s.steps = [] := by
  obtain ⟨steps⟩ := s
  match steps with
  | [] | [_] | _ :: _ :: _ => simp [next]

end Script

end BearerGate
