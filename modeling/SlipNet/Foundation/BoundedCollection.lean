import Mathlib.Algebra.BigOperators.Group.List.Basic
import Mathlib.Data.List.Perm.Basic
import Mathlib.Tactic

/-!
# Collecting up to a bound

A loop examines elements in turn and collects the admitted ones.  It ends when
an admitted element comes after the bound has been reached.  Every element it
examined was either collected or discarded.
-/

namespace SlipNet.Foundation

variable {α : Type*} (admits : α → Bool)

def collected (room : Nat) (xs : List α) : List α :=
  (xs.filter admits).take room

def discarded : Nat → List α → List α
  | _, [] => []
  | 0, x :: xs => if admits x then [x] else x :: discarded 0 xs
  | room + 1, x :: xs =>
      if admits x then discarded room xs else x :: discarded (room + 1) xs

variable {admits} {x : α} {room : Nat} {xs : List α}

@[simp] theorem collected_nil : collected admits room [] = [] := by
  simp [collected]

@[simp] theorem collected_zero : collected admits 0 xs = [] := by
  simp [collected]

theorem collected_cons_of_pos (h : admits x = true) :
    collected admits (room + 1) (x :: xs) = x :: collected admits room xs := by
  rw [collected, List.filter_cons_of_pos h, List.take_succ_cons, collected]

theorem collected_cons_of_neg (h : admits x = false) :
    collected admits room (x :: xs) = collected admits room xs := by
  rw [collected, List.filter_cons_of_neg (by simp [h]), collected]

theorem discarded_zero_cons_of_pos (h : admits x = true) :
    discarded admits 0 (x :: xs) = [x] := by
  rw [discarded, if_pos h]

theorem discarded_succ_cons_of_pos (h : admits x = true) :
    discarded admits (room + 1) (x :: xs) = discarded admits room xs := by
  rw [discarded, if_pos h]

theorem discarded_cons_of_neg (h : admits x = false) :
    discarded admits room (x :: xs) = x :: discarded admits room xs := by
  cases room <;> rw [discarded, if_neg (by simp [h])]

end SlipNet.Foundation
