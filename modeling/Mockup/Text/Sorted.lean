/-!
# Sets of texts

A set of texts is kept as a list in rising order without repeats.

* `insertText`: one more member;
* `textSet`: the set of the members of a list, with `mem_textSet`.
-/

namespace Mockup.Text

/-- Puts a text into a rising list, unless it is there. -/
def insertText (s : String) : List String → List String
  | [] => [s]
  | t :: ts =>
    if s < t then s :: t :: ts
    else if s = t then t :: ts
    else t :: insertText s ts

/-- The members of a list, in rising order and each once. -/
def textSet (ss : List String) : List String :=
  ss.foldr insertText []

theorem mem_insertText {a s : String} {ts : List String} :
    a ∈ insertText s ts ↔ a = s ∨ a ∈ ts := by
  induction ts with
  | nil => simp [insertText]
  | cons t ts ih =>
    unfold insertText
    split
    · simp
    · split
      · next h => subst h; simp
      · simp only [List.mem_cons, ih]
        constructor
        · rintro (h | h | h) <;> simp [h]
        · rintro (h | h | h) <;> simp [h]

@[simp] theorem mem_textSet {a : String} {ss : List String} : a ∈ textSet ss ↔ a ∈ ss := by
  induction ss with
  | nil => simp [textSet]
  | cons s ss ih =>
    have h : textSet (s :: ss) = insertText s (textSet ss) := rfl
    rw [h, mem_insertText, ih, List.mem_cons]

end Mockup.Text
