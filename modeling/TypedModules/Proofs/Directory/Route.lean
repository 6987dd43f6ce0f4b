import TypedModules.Proofs.Directory.Resolution

/-! # Routes between directories

A route climbs to the last directory that two trails share and goes down from
there. Following it from the end of the first trail leads to the end of the
second one.
-/

namespace TypedModules.Directory

theorem commonLength_append_left (base start target : List String) :
    commonLength (base ++ start) (base ++ target) = base.length + commonLength start target := by
  induction base with
  | nil => simp
  | cons first rest induction =>
      rw [List.cons_append, List.cons_append, commonLength, if_pos rfl, induction,
        List.length_cons]
      omega

theorem take_commonLength (start target : List String) :
    start.take (commonLength start target) = target.take (commonLength start target) := by
  induction start generalizing target with
  | nil => simp [commonLength]
  | cons first rest induction =>
      cases target with
      | nil => simp [commonLength]
      | cons second others =>
          rw [commonLength]
          split
          · rename_i same
            rw [List.take_succ_cons, List.take_succ_cons, same, induction]
          · rfl

theorem commonLength_le_length (start target : List String) :
    commonLength start target ≤ start.length := by
  induction start generalizing target with
  | nil => simp [commonLength]
  | cons first rest induction =>
      cases target with
      | nil => simp [commonLength]
      | cons second others =>
          rw [commonLength, List.length_cons]
          split
          · exact Nat.succ_le_succ (induction others)
          · omega

theorem length_le_commonLength {shared start target : List String}
    (startShares : shared <+: start) (targetShares : shared <+: target) :
    shared.length ≤ commonLength start target := by
  rcases startShares with ⟨startRest, rfl⟩
  rcases targetShares with ⟨targetRest, rfl⟩
  rw [commonLength_append_left]
  omega

theorem route_append_left (base start target : List String) :
    route (base ++ start) (base ++ target) = route start target := by
  have climbs : (base ++ start).length - (base.length + commonLength start target) =
      start.length - commonLength start target := by
    rw [List.length_append]
    omega
  simp only [route, commonLength_append_left, climbs]
  rw [List.drop_append, List.drop_eq_nil_of_le (by omega)]
  simp

theorem route_self (names : List String) : route names names = [] := by
  simpa [route, commonLength] using route_append_left names [] []

theorem foldl_enter_route {base start target : List String} (baseNoUp : ".." ∉ base)
    (startNoUp : ".." ∉ start) (ordinary : ∀ name ∈ target, IsOrdinary name) :
    (route start target).foldl (enter true) (base ++ start).reverse = (base ++ target).reverse := by
  -- Every step up takes an ordinary name away, so the steps end at the last
  -- common directory and never above it.
  have noUp : ".." ∉ (base ++ start).reverse := by
    simp [baseNoUp, startNoUp]
  have downOrdinary : ∀ name ∈ target.drop (commonLength start target), IsOrdinary name :=
    fun name member => ordinary name (List.mem_of_mem_drop member)
  have shared : start.length - (start.length - commonLength start target) =
      commonLength start target := by
    have bound := commonLength_le_length start target
    omega
  calc
    (route start target).foldl (enter true) (base ++ start).reverse
    _ = (target.drop (commonLength start target)).reverse ++
          (base ++ start).reverse.drop (start.length - commonLength start target) := by
      rw [route, List.foldl_append, foldl_enter_up _ _ noUp,
        foldl_enter_ordinary true _ downOrdinary]
    _ = (target.drop (commonLength start target)).reverse ++
          (start.take (commonLength start target)).reverse ++ base.reverse := by
      rw [List.reverse_append, List.drop_append_of_le_length (by simp),
        List.drop_reverse, shared, List.append_assoc]
    _ = (base ++ target).reverse := by
      rw [take_commonLength, ← List.reverse_append, List.take_append_drop, List.reverse_append]

end TypedModules.Directory
