import TunnelProvisioning.Proofs.Toml.Sections

/-! # Nested arrays

Arrays can be nested in each other only so deep. One that is nested deeper is no value, although it
would be one if the limit were higher, and a text that assigns it is no document, whatever the key.
-/

namespace TunnelProvisioning.Toml

/-- An empty array in as many arrays as the number says, before some characters. -/
def nestedArray : Nat → List Char → List Char
  | 0, rest => '[' :: ']' :: rest
  | levels + 1, rest => '[' :: nestedArray levels (']' :: rest)

theorem exists_nestedArray (levels : Nat) (rest : List Char) :
    ∃ tail, nestedArray levels rest = '[' :: tail := by
  cases levels with
  | zero => exact ⟨_, rfl⟩
  | succ levels => exact ⟨_, rfl⟩

theorem value?_bracket (depth : Nat) (cs : List Char) :
    value? (depth + 1) ('[' :: cs) =
      (items? (value? depth) (cs.length + 1) cs).map fun (items, rest) =>
        (.array (cs.length + 1) items, rest) := by
  rw [value?]
  cases items? (value? depth) (cs.length + 1) cs <;> rfl

/-- An array is the only item of another if a bracket follows it, and there is no other array
without it. -/
theorem items?_of_array {value? : List Char → Option (Node × List Char)} {tail rest : List Char}
    {readable : Prop} [Decidable readable]
    (read : (value? ('[' :: tail)).map Prod.snd = if readable then some (']' :: rest) else none)
    (fuel : Nat) :
    (items? value? (fuel + 1) ('[' :: tail)).map Prod.snd =
      if readable then some rest else none := by
  have start : skipLines ('[' :: tail).length ('[' :: tail) = '[' :: tail :=
    (skipLines_cons (by decide) tail).1
  rw [items?.eq_def]
  dsimp only
  rw [start]
  split
  · next same => exact absurd (List.cons.inj same).1 (by decide)
  · by_cases able : readable
    · rw [if_pos able] at read ⊢
      obtain ⟨⟨node, left⟩, found, rfl⟩ := Option.map_eq_some_iff.mp read
      rw [found]
      rfl
    · rw [if_neg able] at read ⊢
      rw [Option.map_eq_none_iff.mp read]
      rfl

/-- Arrays are read up to the depth that is allowed, and no deeper. The induction is on the depth.
-/
theorem value?_nestedArray (depth levels : Nat) (rest : List Char) :
    (value? depth (nestedArray levels rest)).map Prod.snd =
      if levels < depth then some rest else none := by
  induction depth generalizing levels rest with
  | zero =>
    obtain ⟨tail, starts⟩ := exists_nestedArray levels rest
    rw [starts]
    rfl
  | succ depth ih =>
    cases levels with
    | zero => rfl
    | succ levels =>
      obtain ⟨tail, starts⟩ := exists_nestedArray levels (']' :: rest)
      have inner := ih levels (']' :: rest)
      rw [starts] at inner
      have items := items?_of_array inner ('[' :: tail).length
      simp only [nestedArray, starts, Nat.add_lt_add_iff_right, ← items]
      rw [value?_bracket]
      cases items? (value? depth) (('[' :: tail).length + 1) ('[' :: tail) <;> rfl

/-- A text that assigns an array which is nested too deep is no document. -/
theorem parse?_nestedArray {name : String} (bare : isBareName name = true) {levels : Nat}
    (deep : deepest ≤ levels) :
    parse? (String.ofList (name.toList ++ (" = ".toList ++ nestedArray levels []))) = none := by
  have refused : value? deepest (nestedArray levels []) = none := by
    have read := value?_nestedArray deepest levels []
    rwa [if_neg (by omega), Option.map_eq_none_iff] at read
  have blank : skipBlanks (' ' :: nestedArray levels []) = nestedArray levels [] := by
    obtain ⟨tail, array⟩ := exists_nestedArray levels []
    rw [array]
    rfl
  have stops : skipBlanks (" = ".toList ++ nestedArray levels []) =
      '=' :: ' ' :: nestedArray levels [] := rfl
  obtain ⟨start, key⟩ := dottedKey?_append bare rfl stops (by simp)
  have assigns : assignment? (value? deepest)
      (name.toList ++ (" = ".toList ++ nestedArray levels [])) = none := by
    simp only [assignment?, key, blank, refused, Option.bind_eq_bind, Option.bind_some,
      Option.bind_none]
  obtain ⟨c, cs, starts, first⟩ := exists_cons_of_isBareName bare
  have bracket := ne_of_isBareKey first (show isBareKey '[' = false by decide)
  rw [starts, List.cons_append] at assigns ⊢
  obtain ⟨lines, comment⟩ := skipLines_cons (c := c) (by simp [startsStatement, first])
    (cs ++ (" = ".toList ++ nestedArray levels []))
  have fails : statement? (c :: (cs ++ (" = ".toList ++ nestedArray levels []))) = none := by
    rw [statement?]
    · simp only [assigns, Option.bind_eq_bind, Option.bind_none]
    · intro after same
      exact bracket (List.cons.inj same).1
    · intro after same
      exact bracket (List.cons.inj same).1
  rw [parse?_of_unmarked]
  · rw [statements?, lines]
    simp only [comment, fails, Option.bind_eq_bind, Option.bind_none, reduceCtorEq, reduceIte]
  · rintro same
    have other : isBareKey byteOrderMark = false := by decide
    exact ne_of_isBareKey first other (Option.some.inj same)

end TunnelProvisioning.Toml
