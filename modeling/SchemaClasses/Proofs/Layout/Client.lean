import SchemaClasses.Proofs.Layout.Drafts
import SchemaClasses.Proofs.Path.Ways

/-!
# The client module is no sibling

The way to the schema client is reduced (`Path.reduced_relative`): no piece of its text is empty or a dot, and taking
one `node_modules/` out of such a text does not make it start with `./` (`not_isPrefix_removeFirst`). So the specifier
of the client module never looks like the one of a file beside the importing file (`Document.specifier_ne_sibling`).
-/

namespace SchemaClasses

/-! ## Taking a part out -/

/-- A text without the first occurrence of a part: the text itself, or what is before and behind the part. -/
theorem removeFirst_cases (part cs : List Char) : removeFirst part cs = cs ∨
    ∃ before after, cs = before ++ (part ++ after) ∧ removeFirst part cs = before ++ after := by
  induction cs with
  | nil => exact Or.inl rfl
  | cons c cs ih =>
    rw [removeFirst]
    split
    · rename_i hpart
      obtain ⟨after, hafter⟩ := hpart
      refine Or.inr ⟨[], after, hafter.symm, ?_⟩
      rw [← hafter, List.drop_left]
      rfl
    · rcases ih with ih | ⟨before, after, hcs, ih⟩
      · exact Or.inl (congrArg (c :: ·) ih)
      · exact Or.inr ⟨c :: before, after, congrArg (c :: ·) hcs, congrArg (c :: ·) ih⟩

/-- Taking a part that ends in a slash out of a text whose pieces are neither empty nor a dot does not make the text
start with `./`. -/
theorem not_isPrefix_removeFirst {part cs : List Char} (h : ∀ q ∈ Path.pieces cs, q ≠ [] ∧ q ≠ ['.']) :
    ¬['.', '/'] <+: removeFirst (part ++ ['/']) cs := by
  rintro ⟨rest, hrest⟩
  rcases removeFirst_cases (part ++ ['/']) cs with heq | ⟨before, after, hcs, heq⟩
  · rw [heq] at hrest
    exact (h ['.'] (hrest ▸ Path.mem_pieces_append_slash (by decide) rest)).2 rfl
  · rw [heq] at hrest
    -- The dot and the slash stand behind the part, around it, or before it.
    cases before with
    | nil =>
      have hsplit : cs = part ++ '/' :: (['.'] ++ '/' :: rest) := by
        rw [hcs, ← (show _ = after from hrest)]
        simp
      exact (h ['.'] (hsplit ▸ Path.mem_pieces_between_slashes (by decide) part rest)).2 rfl
    | cons d before =>
      simp only [List.cons_append, List.cons.injEq] at hrest
      obtain ⟨rfl, hrest⟩ := hrest
      cases before with
      | nil =>
        have hsplit : cs = '.' :: part ++ '/' :: ([] ++ '/' :: rest) := by
          rw [hcs, ← (show _ = after from hrest)]
          simp
        exact (h [] (hsplit ▸ Path.mem_pieces_between_slashes (by decide) ('.' :: part) rest)).1 rfl
      | cons e before =>
        simp only [List.cons_append, List.cons.injEq] at hrest
        obtain ⟨rfl, -⟩ := hrest
        exact (h ['.'] (hcs ▸ Path.mem_pieces_append_slash (by decide) (before ++ (part ++ ['/'] ++ after)))).2 rfl

/-! ## Client modules -/

theorem Document.client_ne_sibling (env : Environment) (d : Document) (stem : String) :
    d.client env ≠ .known ("./" ++ stem) := by
  intro h
  unfold Document.client at h
  cases hschema : d.schemaPath with
  | none => rw [hschema] at h; cases h
  | some schema =>
    rw [hschema] at h
    dsimp only at h
    generalize hway : (d.clientPath env (schemaRoot schema)).relative (schemaRoot schema) = way at h
    have hreduced : Path.Reduced way.components := by rw [← hway]; exact Path.reduced_relative _ _
    split at h
    · cases h
    · rename_i hne
      have htext := congrArg String.toList (Client.known.inj h)
      rw [String.toList_ofList, String.toList_append] at htext
      have hsome : way.slashed ≠ "" := fun hempty => hne (by rw [hempty]; rfl)
      have hopen : ¬['.', '/'] <+: removeFirst ("node_modules".toList ++ ['/']) way.slashed.toList :=
        not_isPrefix_removeFirst (Path.mem_pieces_slashed hreduced hsome)
      exact hopen ⟨stem.toList, htext.symm⟩

/-- The specifier of the client module of a document is not one of a file beside the importing file. -/
theorem Document.specifier_ne_sibling (env : Environment) (d : Document) (stem : String) :
    (d.client env).specifier ≠ "./" ++ stem := by
  cases h : d.client env with
  | known specifier =>
    intro he
    exact d.client_ne_sibling env stem (by rw [h, ← he]; rfl)
  | unknown reason =>
    intro he
    have htext := congrArg String.toList he
    rw [String.toList_append] at htext
    cases htext

end SchemaClasses
