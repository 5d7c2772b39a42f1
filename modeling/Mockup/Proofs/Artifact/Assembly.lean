import Mockup.Artifact.Codec
import Mockup.Proofs.Artifact.Keys
import Mockup.Proofs.Json.Members

/-!
# No component is lost when a mockup is put together

Components may share a name, or be named like the numbered key of another one.  Keys are looked for
from one candidate to the next as long as they are taken; the search ends, with the least number
that gives a new key.  So the finished mockup, an object with a member for each key, has every
component that was merged.

* `candidate`, `Search`: the search for a key, with `Search.exists_least` for its end;
* `search_freshKey`: it ends with the fresh key;
* `keyed_split`: the key of a component and those of the components before it;
* `Artifact.Holds`: a finished mockup that has these components, each under its key;
* `assemble_holds`: so has the mockup for a request with a name, for any merged components.
-/

namespace Mockup

/-- The keys that are tried for a component: its name first, then its name with a number. -/
def candidate (name : String) (n : Nat) : String :=
  if n = 1 then name else numbered name n

/-- The search for a key goes from one candidate to the next as long as they are taken.  From the
`n`-th candidate on it ends with `key`. -/
inductive Search (taken : List String) (name : String) : (n : Nat) → (key : String) → Prop where
  | free {n : Nat} (h : candidate name n ∉ taken) : Search taken name n (candidate name n)
  | next {n : Nat} {key : String} (h : candidate name n ∈ taken)
      (later : Search taken name (n + 1) key) : Search taken name n key

theorem candidate_of_two_le {n : Nat} (h : 2 ≤ n) (name : String) :
    candidate name n = numbered name n := by
  rw [candidate, if_neg (by omega)]

namespace Search

variable {taken : List String} {name key : String} {n : Nat}

/-- The search ends with the first candidate that is not taken. -/
theorem exists_least (h : Search taken name n key) :
    ∃ m, n ≤ m ∧ key = candidate name m ∧ candidate name m ∉ taken ∧
      ∀ k, n ≤ k → k < m → candidate name k ∈ taken := by
  induction h with
  | @free n h => exact ⟨n, Nat.le_refl n, rfl, h, fun k hle hlt => by omega⟩
  | @next n key h _ ih =>
    obtain ⟨m, hm, hkey, hfree, hbefore⟩ := ih
    refine ⟨m, by omega, hkey, hfree, fun k hle hlt => ?_⟩
    by_cases hk : k = n
    · exact hk ▸ h
    · exact hbefore k (by omega) hlt

/-- The order in which keys were taken does not matter. -/
theorem congr {taken' : List String} (hsame : ∀ k, k ∈ taken ↔ k ∈ taken')
    (h : Search taken name n key) : Search taken' name n key := by
  induction h with
  | free h => exact .free (mt (hsame _).2 h)
  | next h _ ih => exact .next ((hsame _).1 h) ih

end Search

/-- A number is looked for from one candidate to the next. -/
theorem search_freshNumber {taken : List String} {name : String} {fuel n : Nat} (hn : 2 ≤ n)
    (hfree : freshNumber taken name fuel n ∉ taken) :
    Search taken name n (freshNumber taken name fuel n) := by
  induction fuel generalizing n with
  | zero =>
    rw [freshNumber, ← candidate_of_two_le hn] at hfree ⊢
    exact .free hfree
  | succ fuel ih =>
    unfold freshNumber at hfree ⊢
    rw [← candidate_of_two_le hn] at hfree ⊢
    by_cases htaken : candidate name n ∈ taken
    · rw [if_pos htaken] at hfree ⊢
      exact .next htaken (ih (by omega) hfree)
    · rw [if_neg htaken]
      exact .free htaken

/-- The search ends, and with the fresh key. -/
theorem search_freshKey (taken : List String) (name : String) :
    Search taken name 1 (freshKey taken name) := by
  have hfree := freshKey_notMem taken name
  have hfirst : candidate name 1 = name := rfl
  unfold freshKey at hfree ⊢
  by_cases htaken : name ∈ taken
  · rw [if_pos htaken] at hfree ⊢
    exact .next (hfirst ▸ htaken) (search_freshNumber (Nat.le_refl 2) hfree)
  · rw [if_neg htaken]
    exact .free htaken

/-- The key of a component is searched for among the keys of those before it. -/
theorem keyed_split {taken : List String} {cs : List ComponentCode}
    {before after : List (String × ComponentCode)} {key : String} {c : ComponentCode}
    (h : keyed taken cs = before ++ (key, c) :: after) :
    Search (before.map (·.1) ++ taken) c.name 1 key := by
  induction before generalizing taken cs with
  | nil =>
    cases cs with
    | nil => cases h
    | cons first cs =>
      obtain ⟨⟨rfl, rfl⟩, -⟩ : (freshKey taken first.name = key ∧ first = c) ∧ _ := by
        simpa [keyed] using h
      exact search_freshKey taken first.name
  | cons e before ih =>
    cases cs with
    | nil => cases h
    | cons first cs =>
      obtain ⟨rfl, hrest⟩ := List.cons.inj h
      refine (ih hrest).congr fun k => ?_
      simp only [List.map_cons, List.cons_append, List.mem_append, List.mem_cons]
      tauto

namespace Artifact

/-- The finished mockup has these components in order, each under a key of its own, so that all of
them are members of the object of components.  The first key is the name; any other is the name if
that is new, and else the name with the least number from two on that makes it new. -/
structure Holds (a : Artifact) (cs : List ComponentCode) : Prop where
  components_eq : a.components.map (·.2) = cs
  nodup_keys : (a.components.map (·.1)).Nodup
  written : ∃ members, a.configurationJson.member? "components" = some (.obj members) ∧
    members.Perm (a.components.map fun (key, c) => (key, c.toJson))
  first_key : ∀ c ∈ cs.head?, a.components.head? = some (c.name, c)
  search : ∀ before key c after, a.components = before ++ (key, c) :: after →
    Search (before.map (·.1)) c.name 1 key
  key_eq : ∀ before key c after, a.components = before ++ (key, c) :: after →
    (c.name ∉ before.map (·.1) → key = c.name) ∧
    (c.name ∈ before.map (·.1) → ∃ n, 2 ≤ n ∧ key = c.name ++ "_" ++ toString n ∧
      key ∉ before.map (·.1) ∧
      ∀ k, 2 ≤ k → k < n → c.name ++ "_" ++ toString k ∈ before.map (·.1))

theorem search_components {a : Artifact} {before after : List (String × ComponentCode)}
    {key : String} {c : ComponentCode} (h : a.components = before ++ (key, c) :: after) :
    Search (before.map (·.1)) c.name 1 key := by
  have hsearch : Search (before.map (·.1) ++ []) c.name 1 key := keyed_split h
  rwa [List.append_nil] at hsearch

theorem exists_written (a : Artifact) :
    ∃ members, a.configurationJson.member? "components" = some (.obj members) ∧
      members.Perm (a.components.map fun (key, c) => (key, c.toJson)) := by
  have hkeys : (a.components.map fun (key, c) => (key, c.toJson)).map (·.1)
      = a.components.map (·.1) := by
    rw [List.map_map]
    rfl
  refine ⟨_, ?_, Json.perm_sortMembers (hkeys ▸ (nodup_keyed [] _).1)⟩
  rw [configurationJson, Json.member?_object]
  rfl

theorem holds_components (a : Artifact) : a.Holds a.merged.components where
  components_eq := map_snd_keyed [] _
  nodup_keys := (nodup_keyed [] _).1
  written := a.exists_written
  first_key := by
    intro c hc
    obtain ⟨cs, hcs⟩ := List.head?_eq_some_iff.1 hc
    rw [components, hcs, keyed]
    rfl
  search := fun _ _ _ _ h => search_components h
  key_eq := by
    intro before key c after h
    obtain ⟨m, hm, hkey, hfree, hbefore⟩ := (search_components h).exists_least
    constructor
    · intro hnew
      by_cases hone : m = 1
      · rw [hkey, hone]
        rfl
      · exact absurd (hbefore 1 (Nat.le_refl 1) (by omega)) hnew
    · intro htaken
      have hone : m ≠ 1 := by
        rintro rfl
        exact hfree htaken
      refine ⟨m, by omega, ?_, hkey ▸ hfree, fun k hle hlt => ?_⟩
      · rw [hkey, candidate_of_two_le (by omega)]
        rfl
      · have hk := hbefore k (by omega) hlt
        rwa [candidate_of_two_le hle] at hk

end Artifact

/-- A request with a name leads to a mockup that has every component that was merged, whatever
their names are.  Where the user does not say what it is about, its description counts them. -/
theorem assemble_holds (r : Request) (s : Schema) (m : Merged)
    (hname : isBlankText r.name = false) :
    ∃ a, assemble r s m = .ok a ∧ a.Holds m.components ∧
      ((∀ d ∈ r.description, isBlankText d = true) →
        a.description = "Prototype generated from " ++ toString s.tables.length
          ++ " table(s) with " ++ toString a.components.length ++ " component(s)") := by
  refine ⟨_, by rw [assemble, hname]; rfl, Artifact.holds_components _, fun hblank => ?_⟩
  have hcount : (keyed [] m.components).length = m.components.length := by
    rw [← List.length_map (·.2), map_snd_keyed]
  have hdefault : descriptionOf r s m = defaultDescription s m := by
    unfold descriptionOf
    cases hd : r.description with
    | none => rfl
    | some d => simp [hblank d hd]
  show descriptionOf r s m = _
  rw [hdefault, Artifact.components, hcount]
  rfl

/-- A component of that name. -/
def namedComponent (name : String) : ComponentCode :=
  { name, table := "users", viewKind := .list, code := "", imports := [], tests := none }

/-- A name that looks like the numbered key of another component. -/
theorem assemble_holds_lookalike : ∃ a,
    isBlankText "Dupes" = false ∧
    assemble { schemaText := "", name := "Dupes", description := some " " } {}
      { components := ["AList", "AList", "AList_2", "AList"].map namedComponent } = .ok a ∧
    a.components.map (·.1) = ["AList", "AList_2", "AList_2_2", "AList_3"] ∧
    a.Holds (["AList", "AList", "AList_2", "AList"].map namedComponent) ∧
    a.description = "Prototype generated from 0 table(s) with 4 component(s)" := by
  have hname : isBlankText "Dupes" = false := by decide +kernel
  have hblank : ∀ d ∈ some " ", isBlankText d = true := by decide +kernel
  obtain ⟨a, ha, hholds, hdescription⟩ :=
    assemble_holds { schemaText := "", name := "Dupes", description := some " " } {}
      { components := ["AList", "AList", "AList_2", "AList"].map namedComponent } hname
  have hkeys : a.components.map (·.1) = ["AList", "AList_2", "AList_2_2", "AList_3"] := by
    rw [assemble, hname] at ha
    cases ha
    decide +kernel
  have hcount : a.components.length = 4 := by
    rw [← List.length_map (·.1), hkeys]
    rfl
  refine ⟨a, hname, ha, hkeys, hholds, ?_⟩
  rw [hdescription hblank, hcount]
  decide +kernel

end Mockup
