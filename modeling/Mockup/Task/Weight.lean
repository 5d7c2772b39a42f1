/-!
# Weights of lists

The loops over tasks and over flights end because a weight gets less in every round, and the weight
of a list is the sum of those of its members.

* `weigh`: the weight of a list;
* `weigh_append`, `weigh_map`, `weigh_filter_add`: lists that are joined, mapped and split.
-/

namespace Mockup

variable {α β : Type} (weight : α → Nat)

/-- The sum of the weights of the members. -/
def weigh : List α → Nat
  | [] => 0
  | x :: xs => weight x + weigh xs

@[simp] theorem weigh_nil : weigh weight [] = 0 := rfl

@[simp] theorem weigh_cons (x : α) (xs : List α) :
    weigh weight (x :: xs) = weight x + weigh weight xs := rfl

@[simp] theorem weigh_append (xs ys : List α) :
    weigh weight (xs ++ ys) = weigh weight xs + weigh weight ys := by
  induction xs with
  | nil => exact (Nat.zero_add _).symm
  | cons x xs ih => rw [List.cons_append, weigh_cons, ih, weigh_cons, Nat.add_assoc]

theorem weigh_map (f : β → α) (ys : List β) :
    weigh weight (ys.map f) = weigh (fun y => weight (f y)) ys := by
  induction ys with
  | nil => rfl
  | cons y ys ih => rw [List.map_cons, weigh_cons, ih, weigh_cons]

/-- What a test keeps and what it drops weigh as much as the whole. -/
theorem weigh_filter_add (keep : α → Bool) (xs : List α) :
    weigh weight (xs.filter (!keep ·)) + weigh weight (xs.filter keep) = weigh weight xs := by
  induction xs with
  | nil => rfl
  | cons x xs ih =>
    cases h : keep x <;>
      simp only [List.filter_cons, h, Bool.not_true, Bool.not_false, if_true, Bool.false_eq_true,
        if_false, weigh_cons] <;> omega

end Mockup
