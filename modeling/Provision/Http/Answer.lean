import Provision.Http.Body

/-!
# Answers

A client reads an answer from what a server sends: it skips heads that are not the last word, and takes
the body as the head behind them describes it.
-/

namespace Provision.Http

structure Answer where
  head : Head
  delivery : Delivery

namespace Answer

def read? (data : ByteArray) (start : Nat) : Option Answer :=
  match Head.read? data start with
  | none => none
  | some (head, next) =>
      if Status.isInterim head.status then read? data next.1
      else
        (Framing.ofHead? head).map fun framing =>
          { head, delivery := .ofData data next.1 framing }
termination_by data.size - start
decreasing_by
  have := next.2
  omega

end Answer

end Provision.Http
