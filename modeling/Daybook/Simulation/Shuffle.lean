import Daybook.Power

/-!
A random order: every element draws a number, and the numbers are sorted. `shuffled_perm` says that
nothing is lost or added.
-/

namespace Daybook.Simulation

variable {α : Type}

/-- Elements with the numbers that they draw. -/
def drawn : StdGen → List α → List (Nat × α)
  | _, [] => []
  | g, a :: rest =>
    let (n, g) := randNat g 0 (twos 30)
    (n, a) :: drawn g rest

/-- The list in an order that depends on the seed. -/
def shuffled (seed : Nat) (as : List α) : List α :=
  ((drawn (mkStdGen seed) as).mergeSort fun a b => a.1 ≤ b.1).map (·.2)

theorem map_snd_drawn (g : StdGen) (as : List α) : (drawn g as).map (·.2) = as := by
  induction as generalizing g with
  | nil => rfl
  | cons a rest ih => simp [drawn, ih]

theorem shuffled_perm (seed : Nat) (as : List α) : (shuffled seed as).Perm as := by
  have h := (List.mergeSort_perm (drawn (mkStdGen seed) as) fun a b => a.1 ≤ b.1).map (·.2)
  rwa [map_snd_drawn] at h

end Daybook.Simulation
