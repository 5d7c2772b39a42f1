import Mockup.Text.Blank
import Mockup.Text.Lines

/-!
# The lines of texts that follow each other

* `pieces_append_cons`, `pieces_append_of_notMem`, `pieces_intercalate`: the parts of a text between
  separators;
* `lines_append_newline`, `lines_flatMap`: the lines of a text that goes on after a line end;
* `trimmed_append`, `trimmed_of_ends`: a text that starts and goes on with characters that are not
  blank.
-/

namespace Mockup.Text

section Pieces

variable {sep : Char} {cs ds : List Char}

theorem pieces_append_cons (cs ds : List Char) :
    pieces sep (cs ++ sep :: ds) = pieces sep cs ++ pieces sep ds := by
  induction cs with
  | nil => simp [pieces]
  | cons c cs ih =>
    have hne := pieces_ne_nil sep cs
    rw [List.cons_append, pieces, pieces, ih]
    cases hp : pieces sep cs with
    | nil => exact absurd hp hne
    | cons p ps => split <;> rfl

/-- Characters that do not separate belong to the first part. -/
theorem pieces_append_of_notMem (hcs : sep ∉ cs) (ds : List Char) :
    ∃ p ps, pieces sep ds = p :: ps ∧ pieces sep (cs ++ ds) = (cs ++ p) :: ps := by
  induction cs with
  | nil =>
    cases hp : pieces sep ds with
    | nil => exact absurd hp (pieces_ne_nil sep ds)
    | cons p ps => exact ⟨p, ps, rfl, hp⟩
  | cons c cs ih =>
    obtain ⟨hc, hcs⟩ := not_or.1 (mt List.mem_cons.2 hcs)
    obtain ⟨p, ps, hds, hall⟩ := ih hcs
    exact ⟨p, ps, hds, by rw [List.cons_append, pieces, if_neg (Ne.symm hc), hall]; rfl⟩

theorem pieces_of_notMem (hcs : sep ∉ cs) : pieces sep cs = [cs] := by
  obtain ⟨p, ps, hnil, hall⟩ := pieces_append_of_notMem hcs []
  cases hnil
  simpa using hall

/-- A text that is put together from parts without separators is cut into these parts. -/
theorem pieces_intercalate {parts : List (List Char)} (hne : parts ≠ [])
    (hparts : ∀ p ∈ parts, sep ∉ p) : pieces sep ([sep].intercalate parts) = parts := by
  induction parts with
  | nil => exact absurd rfl hne
  | cons p parts ih =>
    obtain ⟨hp, hparts⟩ := List.forall_mem_cons.1 hparts
    cases parts with
    | nil => rw [List.intercalate_singleton, pieces_of_notMem hp]
    | cons q parts =>
      rw [List.intercalate_cons_cons, List.append_assoc, List.singleton_append, pieces_append_cons,
        pieces_of_notMem hp, ih (by simp) hparts, List.singleton_append]

theorem linesOfPieces_append (ps : List (List Char)) {qs : List (List Char)} (hqs : qs ≠ []) :
    linesOfPieces (ps ++ qs) = ps.map dropReturn ++ linesOfPieces qs := by
  induction ps with
  | nil => rfl
  | cons p ps ih =>
    obtain ⟨q, more, hmore⟩ :=
      List.exists_cons_of_ne_nil (List.append_ne_nil_of_right_ne_nil ps hqs)
    rw [List.cons_append, hmore, linesOfPieces, ← hmore, ih]
    rfl

/-- The lines of a text that goes on after a line end. -/
theorem lines_append_newline (cs ds : List Char) :
    lines (cs ++ '\n' :: ds) = (pieces '\n' cs).map dropReturn ++ lines ds := by
  rw [lines, pieces_append_cons, linesOfPieces_append _ (pieces_ne_nil '\n' ds)]
  rfl

/-- A text that is made of lines, each with its line end, has these lines. -/
theorem lines_flatMap {ls : List (List Char)} (hls : ∀ l ∈ ls, '\n' ∉ l ∧ dropReturn l = l) :
    lines (ls.flatMap (· ++ ['\n'])) = ls := by
  induction ls with
  | nil => rfl
  | cons l ls ih =>
    obtain ⟨⟨hl, hreturn⟩, hls⟩ := List.forall_mem_cons.1 hls
    rw [List.flatMap_cons, List.append_assoc, List.singleton_append, lines_append_newline, ih hls,
      pieces_of_notMem hl, List.map_singleton, hreturn, List.singleton_append]

end Pieces

/-- Only a carriage return at the very end is dropped. -/
theorem dropReturn_of_getLast? {line : List Char} {c : Char} (hlast : line.getLast? = some c)
    (hc : c ≠ '\r') : dropReturn line = line := by
  unfold dropReturn
  split
  · next h => exact absurd (Option.some.inj (hlast.symm.trans h)) hc
  · rfl

/-- Blanks are taken off at the ends only. -/
theorem trimmed_append {ws cs : List Char} (hws : ∀ c ∈ ws, isBlank c = true)
    (hfirst : ∃ c ∈ cs.head?, isBlank c = false) (hlast : ∃ c ∈ cs.getLast?, isBlank c = false)
    (ds : List Char) : ∃ es, es <+: ds ∧ trimmed (ws ++ (cs ++ ds)) = cs ++ es := by
  obtain ⟨first, hhead, hfirst⟩ := hfirst
  obtain ⟨last, hend, hlast⟩ := hlast
  have hfront : (ws ++ (cs ++ ds)).dropWhile isBlank = cs ++ ds := by
    obtain ⟨others, rfl⟩ := List.head?_eq_some_iff.1 hhead
    rw [List.dropWhile_append_of_pos hws, List.cons_append,
      List.dropWhile_cons_of_neg (by simp [hfirst])]
  have hback : (ds.reverse ++ cs.reverse).dropWhile isBlank
      = ds.reverse.dropWhile isBlank ++ cs.reverse := by
    obtain ⟨others, rfl⟩ := List.getLast?_eq_some_iff.1 hend
    rw [List.dropWhile_append]
    split
    · next hnil => rw [List.isEmpty_iff.1 hnil]; simp [hlast]
    · rfl
  refine ⟨(ds.reverse.dropWhile isBlank).reverse, ?_, ?_⟩
  · exact List.reverse_suffix.1 (by simpa using List.dropWhile_suffix isBlank)
  · rw [trimmed, hfront, List.reverse_append, hback, List.reverse_append, List.reverse_reverse]

/-- A text with characters at both ends that are not blank has no blanks to take off. -/
theorem trimmed_of_ends {cs : List Char} (hfirst : ∃ c ∈ cs.head?, isBlank c = false)
    (hlast : ∃ c ∈ cs.getLast?, isBlank c = false) : trimmed cs = cs := by
  obtain ⟨es, hes, heq⟩ := trimmed_append (List.forall_mem_nil _) hfirst hlast []
  rw [List.prefix_nil.1 hes] at heq
  simpa using heq

theorem trimmed_of_forall {cs : List Char} (h : ∀ c ∈ cs, isBlank c = false) :
    trimmed cs = cs := by
  cases cs with
  | nil => rfl
  | cons c cs =>
    have hne : c :: cs ≠ [] := List.cons_ne_nil c cs
    exact trimmed_of_ends ⟨c, rfl, h c List.mem_cons_self⟩
      ⟨_, List.getLast?_eq_some_getLast hne, h _ (List.getLast_mem hne)⟩

end Mockup.Text
