import Mathlib.Data.List.TakeWhile
import TypedId.Unicode.Runs

/-!
# Runs of code points

What is found by looking a code point up lies in one of the runs (`exists_of_covers`), and in ascending runs everything
that lies in one of them is found (`covers_of_mem`). Whether all of an interval is covered and whether runs lie within
others is checked run by run (`coversAll`, `within`).
-/

set_option autoImplicit false

namespace TypedId.Unicode.Runs

variable {runs more : Runs} {run : Nat × Nat} {least low high code : Nat}

/-- A code point in the runs lies in one of them. -/
theorem exists_of_covers (h : runs.covers code = true) : ∃ run ∈ runs, run.1 ≤ code ∧ code ≤ run.2 := by
  induction runs with
  | nil => exact absurd h (by simp [covers])
  | cons run rest ih =>
    obtain ⟨first, last⟩ := run
    rw [covers] at h
    split at h
    · exact absurd h (by simp)
    · rename_i hfirst
      split at h
      · rename_i hlast
        exact ⟨_, List.mem_cons_self, Nat.le_of_not_lt hfirst, hlast⟩
      · obtain ⟨other, hother, hcode⟩ := ih h
        exact ⟨other, List.mem_cons_of_mem _ hother, hcode⟩

/-! ## Ascending runs -/

/-- Whether every run begins behind the end of the one before it, and the first behind a code point. -/
def ascendBehind (low : Nat) : Runs → Bool
  | [] => true
  | run :: rest => low.blt run.1 && run.1.ble run.2 && ascendBehind run.2 rest

/-- Every run of ascending runs begins behind the lower bound. -/
theorem lt_of_ascendBehind (h : runs.ascendBehind low = true) (hrun : run ∈ runs) : low < run.1 := by
  induction runs generalizing low with
  | nil => exact absurd hrun (by simp)
  | cons first rest ih =>
    simp only [ascendBehind, Bool.and_eq_true, Nat.blt_eq, Nat.ble_eq] at h
    rcases List.mem_cons.1 hrun with rfl | hrun
    · exact h.1.1
    · have hbehind := ih h.2 hrun
      omega

/-- In ascending runs everything is found that lies in one of them. -/
theorem covers_of_mem (h : runs.ascendBehind low = true) (hrun : run ∈ runs) (hfirst : run.1 ≤ code)
    (hlast : code ≤ run.2) : runs.covers code = true := by
  induction runs generalizing low with
  | nil => exact absurd hrun (by simp)
  | cons first rest ih =>
    simp only [ascendBehind, Bool.and_eq_true, Nat.blt_eq, Nat.ble_eq] at h
    rcases List.mem_cons.1 hrun with rfl | hrun
    · rw [covers, if_neg (by omega), if_pos hlast]
    · have hbehind := lt_of_ascendBehind h.2 hrun
      rw [covers, if_neg (by omega), if_neg (by omega), ih h.2 hrun]

/-! ## Intervals and runs within runs -/

/-- Whether all code points from one to another lie in a single one of ascending runs: the first that ends behind the
lower one. -/
def coversAll : Runs → Nat → Nat → Bool
  | [], _, _ => false
  | run :: rest, low, high => bif run.2.blt low then coversAll rest low high else run.1.ble low && high.ble run.2

/-- An interval that the runs cover lies in one of them. -/
theorem exists_of_coversAll (h : runs.coversAll low high = true) : ∃ run ∈ runs, run.1 ≤ low ∧ high ≤ run.2 := by
  induction runs with
  | nil => exact absurd h (by simp [coversAll])
  | cons run rest ih =>
    rw [coversAll] at h
    cases hlast : run.2.blt low with
    | true =>
      rw [hlast, cond_true] at h
      obtain ⟨other, hother, hcovers⟩ := ih h
      exact ⟨other, List.mem_cons_of_mem _ hother, hcovers⟩
    | false =>
      rw [hlast, cond_false, Bool.and_eq_true, Nat.ble_eq, Nat.ble_eq] at h
      exact ⟨run, List.mem_cons_self, h⟩

/-- Each code point of an interval that ascending runs cover lies in them. -/
theorem covers_of_coversAll (hascend : runs.ascendBehind least = true) (h : runs.coversAll low high = true)
    (hlow : low ≤ code) (hhigh : code ≤ high) : runs.covers code = true := by
  obtain ⟨run, hrun, hfirst, hlast⟩ := exists_of_coversAll h
  exact covers_of_mem hascend hrun (Nat.le_trans hfirst hlow) (Nat.le_trans hhigh hlast)

/-- Whether each of the runs lies in one of the others. Both ascend, so those in the first of the others stand in front. -/
def within (runs : Runs) : Runs → Bool
  | [] => runs.isEmpty
  | other :: more => within (runs.dropWhile fun run => other.1.ble run.1 && run.2.ble other.2) more

/-- Each of the runs lies in one of the others. -/
theorem exists_of_within (h : runs.within more = true) (hrun : run ∈ runs) :
    ∃ other ∈ more, other.1 ≤ run.1 ∧ run.2 ≤ other.2 := by
  induction more generalizing runs with
  | nil =>
    rw [within, List.isEmpty_iff] at h
    rw [h] at hrun
    exact absurd hrun (by simp)
  | cons other more ih =>
    rw [within] at h
    rw [← List.takeWhile_append_dropWhile (p := fun run : Nat × Nat => other.1.ble run.1 && run.2.ble other.2) (l := runs),
      List.mem_append] at hrun
    rcases hrun with hrun | hrun
    · have hwithin := List.mem_takeWhile_imp hrun
      rw [Bool.and_eq_true, Nat.ble_eq, Nat.ble_eq] at hwithin
      exact ⟨other, List.mem_cons_self, hwithin⟩
    · obtain ⟨found, hfound, hwithin⟩ := ih h hrun
      exact ⟨found, List.mem_cons_of_mem _ hfound, hwithin⟩

/-- Runs within ascending runs cover no more than those. -/
theorem covers_mono (h : runs.within more = true) (hascend : more.ascendBehind low = true)
    (hcode : runs.covers code = true) : more.covers code = true := by
  obtain ⟨run, hrun, hfirst, hlast⟩ := exists_of_covers hcode
  obtain ⟨other, hother, hbegin, hend⟩ := exists_of_within h hrun
  exact covers_of_mem hascend hother (Nat.le_trans hbegin hfirst) (Nat.le_trans hlast hend)

end TypedId.Unicode.Runs
