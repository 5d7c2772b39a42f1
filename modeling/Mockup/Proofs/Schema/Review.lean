import Mockup.Proofs.Text.Lines
import Mockup.Schema.Review

/-!
# Reviews of single lines

* `bareLine_append`, `opensBody_append`: a line that starts with a known part;
* `reviewLines_sound`: lines that neither declare a reference nor open the body of a table for the
  line before are sound just if every one of them that begins a table has an opening brace;
* `sound_review_iff`: the same for a whole text.
-/

namespace Mockup.Schema

/-! ### Bare lines -/

theorem isPrefix_beforeSlashes (cs : List Char) : beforeSlashes cs <+: cs := by
  fun_induction beforeSlashes cs with
  | case1 => exact List.prefix_rfl
  | case2 => exact List.nil_prefix
  | case3 c cs _ ih => exact List.cons_prefix_cons.2 ⟨rfl, ih⟩

theorem beforeSlashes_append {cs : List Char} (hcs : '/' ∉ cs) (ds : List Char) :
    beforeSlashes (cs ++ ds) = cs ++ beforeSlashes ds := by
  induction cs with
  | nil => rfl
  | cons c cs ih =>
    obtain ⟨hc, hcs⟩ := not_or.1 (mt List.mem_cons.2 hcs)
    rw [List.cons_append, beforeSlashes.eq_3 _ _ fun _ h => absurd h (Ne.symm hc), ih hcs]
    rfl

/-- Of a line that starts with this part, apart from blanks, the part counts, and then a part of
what follows. -/
theorem bareLine_append (ws : List Char) {cs : List Char} (hws : ∀ c ∈ ws, Text.isBlank c = true)
    (hslash : '/' ∉ cs) (hfirst : ∃ c ∈ cs.head?, Text.isBlank c = false)
    (hlast : ∃ c ∈ cs.getLast?, Text.isBlank c = false) (ds : List Char) :
    ∃ es, es <+: ds ∧ bareLine (ws ++ (cs ++ ds)) = cs ++ es := by
  have hws' : '/' ∉ ws := fun h => absurd (hws _ h) (by decide)
  obtain ⟨es, hes, hbare⟩ := Text.trimmed_append hws hfirst hlast (beforeSlashes ds)
  refine ⟨es, hes.trans (isPrefix_beforeSlashes ds), ?_⟩
  rw [bareLine, beforeSlashes_append hws', beforeSlashes_append hslash, hbare]

/-- A line that starts with this part, apart from blanks, does not open the body of a table. -/
theorem opensBody_append (ws : List Char) {cs : List Char} (hws : ∀ c ∈ ws, Text.isBlank c = true)
    (hslash : '/' ∉ cs) (hfirst : ∃ c ∈ cs.head?, Text.isBlank c = false ∧ c ≠ '{')
    (ds : List Char) : opensBody (ws ++ (cs ++ ds)) = false := by
  have hws' : '/' ∉ ws := fun h => absurd (hws _ h) (by decide)
  obtain ⟨first, hhead, hblank, hbrace⟩ := hfirst
  obtain ⟨others, rfl⟩ := List.head?_eq_some_iff.1 hhead
  rw [opensBody, beforeSlashes_append hws', beforeSlashes_append hslash,
    List.dropWhile_append_of_pos hws, List.cons_append,
    List.dropWhile_cons_of_neg (by simp [hblank])]
  simp [List.isPrefixOf, Ne.symm hbrace]

/-- A line that begins a table is looked at. -/
theorem not_isIdle_of_beginsTable {line : List Char} (h : beginsTable line = true) :
    isIdle line = false := by
  cases line with
  | nil => revert h; decide
  | cons c cs =>
    have hne : ∀ d, Text.isBlank d = false → d.toLower = d → d ≠ 't' → c ≠ d := by
      rintro d hblank hlower hd rfl
      simp [beginsTable, Text.sameIgnoringCase, hblank, hlower, hd] at h
    have hslash := hne '/' (by decide) (by decide) (by decide)
    have hstar := hne '*' (by decide) (by decide) (by decide)
    simp [isIdle, List.isPrefixOf, Ne.symm hslash, Ne.symm hstar]

/-! ### Texts without references -/

theorem any_ite_singleton {α : Type} (p : Prop) [Decidable p] (x : α) (f : α → Bool) :
    (if p then [x] else []).any f = (decide p && f x) := by
  split <;> simp_all

/-- The lines that show errors: references in a table, and tables without a brace. -/
theorem Depth.flaws_any_isError (d : Depth) (n : Nat) (line : List Char)
    (following : Option (List Char)) :
    ((d.flaws line following).map (Issue.mk n)).any (·.isError)
      = (d.inBody && declaresReference line ||
          beginsTable line && !line.contains '{' && !following.any opensBody) := by
  have hcount : (line.count '{' == 0) = !line.contains '{' := by
    rw [Bool.eq_iff_iff]
    simp [List.count_eq_zero]
  have hsevere : ∀ f, (Issue.mk n f).isError = (f.severity == .error) := fun _ => rfl
  simp only [flaws, List.any_map, Function.comp_def, hsevere, List.any_append, any_ite_singleton,
    Flaw.severity, hcount]
  simp

theorem sound_append (is js : List Issue) : sound (is ++ js) = (sound is && sound js) := by
  rw [sound, List.any_append, Bool.not_or]
  rfl

/-- Lines that declare no references and do not open the body of a table for the line before. -/
theorem reviewLines_sound {ls : List (List Char)} (n : Nat) (d : Depth)
    (href : ∀ raw ∈ ls, declaresReference (bareLine raw) = false)
    (hopens : ∀ raw ∈ ls, opensBody raw = false) :
    sound (reviewLines n d ls).1 = true
      ↔ ∀ raw ∈ ls, beginsTable (bareLine raw) = true → '{' ∈ bareLine raw := by
  induction ls generalizing n d with
  | nil => simp [reviewLines, sound]
  | cons raw rest ih =>
    obtain ⟨hraw, hrest⟩ := List.forall_mem_cons.1 href
    obtain ⟨-, hopens⟩ := List.forall_mem_cons.1 hopens
    rw [List.forall_mem_cons, reviewLines]
    split
    · next hidle =>
      have hbegins : beginsTable (bareLine raw) = true → '{' ∈ bareLine raw := fun h =>
        absurd (not_isIdle_of_beginsTable h) (by simp [hidle])
      rw [ih _ _ hrest hopens, and_iff_right hbegins]
    · have hhead : rest.head?.any opensBody = false := by
        cases rest with
        | nil => rfl
        | cons next _ => exact hopens next List.mem_cons_self
      rw [sound_append, Bool.and_eq_true, ih _ _ hrest hopens, sound, Depth.flaws_any_isError, hraw,
        hhead]
      refine and_congr_left' ?_
      cases beginsTable (bareLine raw) <;> simp

/-- A text of which no line declares a reference or opens the body of a table for the line before
is sound just if every line that begins a table has an opening brace. -/
theorem sound_review_iff {text : String}
    (href : ∀ raw ∈ Text.lines text.toList, declaresReference (bareLine raw) = false)
    (hopens : ∀ raw ∈ Text.lines text.toList, opensBody raw = false) :
    sound (review text) = true ↔
      ∀ raw ∈ Text.lines text.toList, beginsTable (bareLine raw) = true → '{' ∈ bareLine raw := by
  have hblank : sound [⟨1, .blank⟩] = true := rfl
  have hbalance : ∀ n k, sound [⟨n, .unbalanced k⟩] = true := fun _ _ => rfl
  have hnone : sound [] = true := rfl
  have hwhole : sound (review text) = sound (reviewLines 1 {} (Text.lines text.toList)).1 := by
    simp only [review, sound_append]
    split <;> split <;> simp [hblank, hbalance, hnone]
  rw [hwhole, reviewLines_sound 1 {} href hopens]

end Mockup.Schema
