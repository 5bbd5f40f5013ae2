/-
  TokenThrottle.Theory.WaitGraph

  Workers that ask for one resource at a time, each above all that it holds: no worker waits
  for itself through others, whatever they hold.
-/
import Mathlib.Logic.Relation
import Mathlib.Order.Basic

namespace TokenThrottle.Theory.WaitGraph

open Relation (TransGen)

variable {W K : Type*} [Preorder K] {request : W → Option K} {holds : W → K → Prop}

/-- The worker asks for something that the other one holds. -/
def WaitsFor (request : W → Option K) (holds : W → K → Prop) (w w' : W) : Prop :=
  ∃ k, request w = some k ∧ holds w' k

/-- Every worker asks for more than it holds. -/
def Ascending (request : W → Option K) (holds : W → K → Prop) : Prop :=
  ∀ w k, request w = some k → ∀ k', holds w k' → k' < k

/-- Along a path of waiting workers the requests ascend. -/
theorem request_lt (h_ascending : Ascending request holds) {w w' : W}
    (h_path : TransGen (WaitsFor request holds) w w') {k k' : K} (h_request : request w = some k)
    (h_request' : request w' = some k') : k < k' := by
  induction h_path generalizing k' with
  | single h_waits =>
    obtain ⟨asked, h_asked, h_holds⟩ := h_waits
    rw [h_request] at h_asked
    cases h_asked
    exact h_ascending _ k' h_request' k h_holds
  | tail _ h_waits ih =>
    obtain ⟨asked, h_asked, h_holds⟩ := h_waits
    have h_first : k < asked := ih h_asked
    have h_then : asked < k' := h_ascending _ k' h_request' asked h_holds
    exact h_first.trans h_then

theorem acyclic (h_ascending : Ascending request holds) (w : W) :
    ¬ TransGen (WaitsFor request holds) w w := by
  intro h_path
  obtain ⟨w', ⟨k, h_request, -⟩, -⟩ := TransGen.head'_iff.mp h_path
  exact lt_irrefl k (request_lt h_ascending h_path h_request h_request)

end TokenThrottle.Theory.WaitGraph
