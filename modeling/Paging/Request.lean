import Paging.Fault

/-!
# Paging.Request — which page is asked for

A request is a page number and a page size, both at least one.  `check` is the only way from
integers to a request, and says which of the two is refused first.
-/

namespace Paging

/-- A request for one logical page. -/
structure Request where
  /-- The number of the page, counted from one. -/
  target : Nat
  /-- The number of elements on a full page. -/
  size : Nat
  one_le_target : 1 ≤ target := by omega
  one_le_size : 1 ≤ size := by omega
  deriving DecidableEq

namespace Request

/-- The page number is looked at before the page size. -/
def check (target size : Int) : Except Fault Request :=
  if ht : target < 1 then .error (.belowOne .targetPage target)
  else if hs : size < 1 then .error (.belowOne .pageSize size)
  else .ok ⟨target.toNat, size.toNat, by omega, by omega⟩

/-- The number of elements on the pages up to the target, if all are full. -/
def reach (r : Request) : Nat := r.target * r.size

/-- Integers that are both at least one make a request. -/
theorem check_eq_ok {target size : Int} (ht : 1 ≤ target) (hs : 1 ≤ size) :
    ∃ r, check target size = .ok r ∧ (r.target : Int) = target ∧ (r.size : Int) = size := by
  refine ⟨⟨target.toNat, size.toNat, by omega, by omega⟩, ?_, ?_, ?_⟩
  · simp [check, Int.not_lt.2 ht, Int.not_lt.2 hs]
  · simp only; omega
  · simp only; omega

theorem of_check_eq_ok {target size : Int} {r : Request} (h : check target size = .ok r) :
    (r.target : Int) = target ∧ (r.size : Int) = size := by
  unfold check at h
  split at h
  · cases h
  · split at h
    · cases h
    · cases h
      simp only
      omega

theorem check_self (r : Request) : check r.target r.size = .ok r := by
  have ht := r.one_le_target
  have hs := r.one_le_size
  have h1 : ¬ (r.target : Int) < 1 := by omega
  have h2 : ¬ (r.size : Int) < 1 := by omega
  simp [check, h1, h2]

end Request

end Paging
