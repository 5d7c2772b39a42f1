/-!
# Sets of code points

* `Ranges`: a set of code points, given as inclusive stretches in rising order;
* `Ranges.covers`: membership of a character.
-/

namespace Mockup.Text

/-- A set of code points, as inclusive stretches `(first, last)`. -/
abbrev Ranges := List (Nat × Nat)

/-- One of the stretches holds the character. -/
def Ranges.covers (r : Ranges) (c : Char) : Bool :=
  r.any fun (first, last) => first ≤ c.toNat && c.toNat ≤ last

theorem Ranges.covers_iff {r : Ranges} {c : Char} :
    r.covers c = true ↔ ∃ s ∈ r, s.1 ≤ c.toNat ∧ c.toNat ≤ s.2 := by
  simp [Ranges.covers]

theorem Ranges.covers_eq_false {r s : Ranges} (h : ∀ x ∈ r, ∀ y ∈ s, x.2 < y.1 ∨ y.2 < x.1)
    {c : Char} (hc : s.covers c = true) : r.covers c = false := by
  refine Bool.eq_false_iff.2 fun hr => ?_
  obtain ⟨x, hx, hx₁, hx₂⟩ := covers_iff.1 hr
  obtain ⟨y, hy, hy₁, hy₂⟩ := covers_iff.1 hc
  have := h x hx y hy
  omega

end Mockup.Text
