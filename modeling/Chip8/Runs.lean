/-!
# Runs

The rows and blocks of an enlarged picture come in runs of equal neighbours. A function needs to be
computed but once for each run. Neighbours are often the same value in memory, and then they are not
looked into.
-/

namespace Chip8

variable {α β : Type} [DecidableEq α]

/-- The values of `f` on a list that comes behind `x`, where `f` has the value `y`. -/
def mapRunsFrom (f : α → β) (x : α) (y : β) : List α → List β
  | [] => []
  | z :: zs =>
    match withPtrEqDecEq z x fun _ => decEq z x with
    | isTrue _ => y :: mapRunsFrom f z y zs
    | isFalse _ =>
      let w := f z
      w :: mapRunsFrom f z w zs

/-- The values of `f` on a list, each computed once for a run of equal neighbours. -/
def mapRuns (f : α → β) : List α → List β
  | [] => []
  | x :: xs =>
    let y := f x
    y :: mapRunsFrom f x y xs

theorem mapRunsFrom_eq_map (f : α → β) (x : α) (zs : List α) :
    mapRunsFrom f x (f x) zs = zs.map f := by
  induction zs generalizing x with
  | nil => rfl
  | cons z zs ih =>
    rw [mapRunsFrom]
    split
    · next h _ => rw [← h, ih, List.map_cons]
    · simp only [ih, List.map_cons]

theorem mapRuns_eq_map (f : α → β) (xs : List α) : mapRuns f xs = xs.map f := by
  cases xs with
  | nil => rfl
  | cons x xs => simp [mapRuns, mapRunsFrom_eq_map]

end Chip8
