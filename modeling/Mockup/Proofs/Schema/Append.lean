import Mockup.Proofs.Schema.RoundTrip
import Mockup.Proofs.Schema.Statements

/-!
# Schema texts that follow each other

A text that can be read may be put before any other one, on lines of its own: what both declare is
declared, in order, and an error of the second text is found further down.

* `Schema.followedBy`: the declarations of two schemas, one after the other;
* `ofStatements_append`: the schema of statements that follow each other;
* `parse_append_newline`: the schema of texts that follow each other.
-/

namespace Mockup

/-- The declarations of two schemas, one after the other: a relationship of the second one counts if
the first one does not have it. -/
def Schema.followedBy (s t : Schema) : Schema where
  tables := s.tables ++ t.tables
  relationships := s.relationships ++ t.relationships.filter (· ∉ s.relationships)
  enums := s.enums ++ t.enums

namespace Schema

/-! ### Statements -/

theorem followedBy_empty (s : Schema) : s.followedBy {} = s := by
  simp [followedBy]

theorem addRelationship_followedBy (s t : Schema) (r : Relationship) :
    (s.followedBy t).addRelationship r = s.followedBy (t.addRelationship r) := by
  by_cases hs : r ∈ s.relationships
  · by_cases ht : r ∈ t.relationships <;> simp [addRelationship, followedBy, hs, ht]
  · by_cases ht : r ∈ t.relationships <;> simp [addRelationship, followedBy, hs, ht]

theorem addRelationships_followedBy (s t : Schema) (rs : List Relationship) :
    (s.followedBy t).addRelationships rs = s.followedBy (t.addRelationships rs) := by
  induction rs generalizing t with
  | nil => rfl
  | cons r rs ih =>
    rw [addRelationships, List.foldl_cons, addRelationship_followedBy]
    exact ih _

theorem declare_followedBy (s t : Schema) (statement : Statement) :
    declare (s.followedBy t) statement = s.followedBy (declare t statement) := by
  cases statement with
  | table name shortName items =>
    simp only [declare, addRelationships_followedBy]
    simp [followedBy]
  | refs rs => exact addRelationships_followedBy s t rs
  | enum e => simp [declare, followedBy]
  | other => rfl

theorem ofStatements_append (ss ts : List Statement) :
    ofStatements (ss ++ ts) = (ofStatements ss).followedBy (ofStatements ts) := by
  have hfold (s t : Schema) :
      ts.foldl declare (s.followedBy t) = s.followedBy (ts.foldl declare t) := by
    induction ts generalizing t with
    | nil => rfl
    | cons statement ts ih =>
      rw [List.foldl_cons, declare_followedBy]
      exact ih _
  rw [ofStatements, List.foldl_append]
  exact (congrArg (ts.foldl declare) (followedBy_empty _).symm).trans (hfold _ {})

/-! ### Texts -/

/-- The tokens of two texts, one after the other on lines of its own. -/
def TokenStream.followedBy (s t : TokenStream) : TokenStream where
  tokens := s.tokens ++ ⟨.newline, s.endLine⟩ :: t.tokens.map (·.moved s.endLine)
  endLine := t.endLine + s.endLine

theorem scan_append_newline {a : String} {s : TokenStream} (ha : scan a = .ok s) (b : String) :
    Carried s.endLine True s.followedBy (scan b) (scan (a ++ "\n" ++ b)) := by
  have htail : ∀ c ∈ ('\n' :: b.toList).head?, c = '\n' := by simp
  have hfirst := (scanFrom_goesOn (k := 0) htail 1 a.toList).1 s ha
  have hline : scanFrom s.endLine ('\n' :: b.toList)
      = TokenStream.push ⟨.newline, s.endLine⟩ <$> scanFrom (s.endLine + 1) b.toList :=
    scanFrom_of_token (skipGap_newline htail s.endLine) rfl
  have hmoved := scanFrom_moved s.endLine 1 b.toList
  rw [Nat.add_zero, Nat.add_zero, hline, Nat.add_comm s.endLine 1] at hfirst
  rw [scan, scan, String.toList_append, String.toList_append, List.append_assoc]
  change Carried _ _ _ _ (scanFrom 1 (a.toList ++ '\n' :: b.toList))
  rw [hfirst]
  cases hb : scanFrom 1 b.toList with
  | error e =>
    rw [hmoved.eq_error hb trivial]
    exact fun _ => rfl
  | ok t =>
    rw [hmoved.eq_ok hb]
    simp only [Carried, Functor.map, Except.map, TokenStream.moved, TokenStream.push,
      TokenStream.followedBy, map_moved_zero]

theorem readStatements_moved (k last : Nat) (ts : List PlacedToken) :
    Carried k True id (readStatements last ts)
      (readStatements (last + k) (ts.map (·.moved k))) := by
  let p : Placement := ⟨k, [], nofun⟩
  have hplace : ts.map (·.moved k) = p.place ts := (List.append_nil _).symm
  have hlast : p.SameLine last (last + k) := fun _ => rfl
  rw [hplace]
  cases h : readStatements last ts with
  | ok ss =>
    have hend : readStatements (last + k) p.tail = .ok [] := by rw [readStatements]
    rw [Placement.readStatements_place_ok hlast h, hend]
    exact congrArg Except.ok (List.append_nil ss)
  | error e => exact fun _ => Placement.readStatements_place_error hlast rfl h

theorem readStatements_append_newline {last : Nat} {ts : List PlacedToken} {ss : List Statement}
    (h : readStatements last ts = .ok ss) (last' line : Nat) (more : List PlacedToken) :
    readStatements last' (ts ++ ⟨.newline, line⟩ :: more)
      = (ss ++ ·) <$> readStatements last' more := by
  let p : Placement := ⟨0, ⟨.newline, line⟩ :: more, by simp⟩
  have hplace : ts ++ ⟨.newline, line⟩ :: more = p.place ts := by
    rw [Placement.place, map_moved_zero]
  have hlast : p.SameLine last last' := fun h => absurd h (List.cons_ne_nil _ _)
  rw [hplace, Placement.readStatements_place_ok hlast h, readStatements_cons,
    if_pos rfl]

/-- If the first of two texts can be read, both together are read as one after the other, and an
error of the second one is found as many lines further down as the first one takes. -/
theorem parse_append_newline {a : String} {s : Schema} (ha : parse a = .ok s) (b : String) :
    ∃ tokens endLine, tokenize a = .ok (tokens ++ [⟨.eof, endLine⟩]) ∧
      parse (a ++ "\n" ++ b) = match parse b with
        | .ok t => .ok (s.followedBy t)
        | .error e => .error ⟨e.line + endLine, e.fault⟩ := by
  obtain ⟨sa, hsa, ha⟩ := exists_ok_of_bind ha
  obtain ⟨ssa, hssa, ha⟩ := exists_ok_of_bind ha
  cases ha
  refine ⟨sa.tokens, sa.endLine, by rw [tokenize, hsa]; rfl, ?_⟩
  have hscan := scan_append_newline hsa b
  unfold parse
  cases hsb : scan b with
  | error e =>
    rw [hscan.eq_error hsb trivial]
    rfl
  | ok sb =>
    rw [hscan.eq_ok hsb]
    change ofStatements <$> readStatements (sb.endLine + sa.endLine) (sa.tokens ++ _) = _
    rw [readStatements_append_newline hssa]
    have hmoved := readStatements_moved sa.endLine sb.endLine sb.tokens
    cases hssb : readStatements sb.endLine sb.tokens with
    | error e =>
      rw [hmoved.eq_error hssb trivial]
      change _ = match ofStatements <$> readStatements sb.endLine sb.tokens with
        | .ok t => _
        | .error e => _
      rw [hssb]
      rfl
    | ok ssb =>
      rw [hmoved.eq_ok hssb]
      change Except.ok (ofStatements (ssa ++ ssb)) =
        match ofStatements <$> readStatements sb.endLine sb.tokens with
        | .ok t => _
        | .error e => _
      rw [hssb, ofStatements_append]
      rfl

theorem parse_append_newline_table :
    parse "Table t \x7b\n  id int\n\x7d\n"
      = .ok { tables := [{ name := "t", columns := [{ name := "id", dataType := "int" }] }] } ∧
    ∃ tokens endLine,
      tokenize "Table t \x7b\n  id int\n\x7d\n" = .ok (tokens ++ [⟨.eof, endLine⟩]) ∧
      parse ("Table t \x7b\n  id int\n\x7d\n" ++ "\n" ++ "Enum e") = match parse "Enum e" with
        | .ok t => .ok (followedBy
            { tables := [{ name := "t", columns := [{ name := "id", dataType := "int" }] }] } t)
        | .error e => .error ⟨e.line + endLine, e.fault⟩ := by
  let document : Canonical.Document :=
    ⟨[⟨⟨"t", by decide⟩, [{ name := ⟨"id", by decide⟩, typeName := ⟨"int", by decide⟩ }]⟩]⟩
  have htext : "Table t \x7b\n  id int\n\x7d\n" = document.text := rfl
  have hparse : parse "Table t \x7b\n  id int\n\x7d\n"
      = .ok { tables := [{ name := "t", columns := [{ name := "id", dataType := "int" }] }] } := by
    rw [htext, parse, document.spells.scan_eq]
    exact congrArg (ofStatements <$> ·) (Canonical.readStatements_tokens document.tables _ 1)
  exact ⟨hparse, parse_append_newline hparse "Enum e"⟩

end Schema

end Mockup
