import BearerGate.Http.Message
import BearerGate.Service.Task

/-!
# Ids of requests

A request may bring its id along in a header.  Any other request gets the next number of the service,
written in base 36.
-/

namespace BearerGate

/-- A digit of base 36. -/
def base36Digit (n : Nat) : Char := if n < 10 then Char.ofNat (n + 48) else Char.ofNat (n + 87)

/-- The digits of a number in base 36 before a given tail; `fuel` bounds how many. -/
def base36Digits (fuel n : Nat) (tail : List Char) : List Char :=
  match fuel with
  | 0 => tail
  | fuel + 1 =>
    if n < 36 then base36Digit n :: tail
    else base36Digits fuel (n / 36) (base36Digit (n % 36) :: tail)

/-- The id of a numbered request. -/
def numberedId (n : Nat) : String := "req-" ++ String.ofList (base36Digits (n + 1) n [])

/-- **The id of a request.** -/
def requestId {σ : Type} (r : Request) : Task σ String :=
  match r.filledHeader? "request-id" with
  | some id => pure id
  | none => do
    let n ← Task.ask .requestNumber
    pure (numberedId n)

end BearerGate
