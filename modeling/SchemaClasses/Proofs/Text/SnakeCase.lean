import SchemaClasses.Text.SnakeCase

/-!
# Snake case of identifiers

An identifier of the schema language is an ASCII letter with letters, digits and underscores behind it
(`isIdentifier`). Each of its characters is a cluster of its own (`clusters_of_word`), so its snake case is not empty
and holds nothing but lower-case letters, digits and underscores (`snakeCase_ne_nil`, `mem_snakeCase`). No word holds
an underscore; hence two identifiers have one snake case just where they have the same words in lower case
(`snakeCase_eq_iff`).
-/

namespace SchemaClasses.Text

/-! ## Identifiers -/

/-- The characters of an identifier behind the first. -/
def isWord (c : Char) : Bool := c.isAlphanum || c == '_'

/-- Whether a text is an identifier of the schema language. -/
def isIdentifier (s : String) : Bool :=
  match s.toList with
  | [] => false
  | c :: cs => c.isAlpha && cs.all isWord

/-- The characters of a name in snake case. -/
def isSnake (c : Char) : Bool := c.isLower || c.isDigit || c == '_'

theorem toNat_lt_of_isWord {c : Char} (h : isWord c) : c.toNat < 128 := by
  unfold isWord Char.isAlphanum Char.isAlpha Char.isUpper Char.isLower Char.isDigit at h
  simp only [Bool.or_eq_true, Bool.and_eq_true, decide_eq_true_eq, beq_iff_eq, UInt32.le_iff_toNat_le, ge_iff_le] at h
  change ((((65 ≤ c.toNat ∧ c.toNat ≤ 90) ∨ (97 ≤ c.toNat ∧ c.toNat ≤ 122)) ∨
    (48 ≤ c.toNat ∧ c.toNat ≤ 57)) ∨ c = '_') at h
  rcases h with h | rfl
  · omega
  · decide

/-- What holds of all ASCII characters holds of the characters of identifiers. -/
theorem forall_word {P : Char → Prop} (h : ∀ n : Fin 128, isWord (Char.ofNat n) → P (Char.ofNat n)) {c : Char}
    (hc : isWord c) : P c := by
  have := h ⟨c.toNat, toNat_lt_of_isWord hc⟩
  rw [Char.ofNat_toNat] at this
  exact this hc

theorem kind_of_isWord {c : Char} : isWord c → Grapheme.kind c = .other :=
  forall_word (P := fun c => Grapheme.kind c = .other) (by decide +kernel)

theorem isSnake_toLower {c : Char} : isWord c → isSnake c.toLower = true :=
  forall_word (P := fun c => isSnake c.toLower = true) (by decide +kernel)

theorem eq_underscore_of_toLower {c : Char} : isWord c → c.toLower = '_' → c = '_' :=
  forall_word (P := fun c => c.toLower = '_' → c = '_') (by decide +kernel)

theorem isWord_of_isAlpha {c : Char} (h : c.isAlpha) : isWord c := by
  unfold isWord Char.isAlphanum
  rw [h]; rfl

theorem isAlpha_ne_underscore {c : Char} (h : c.isAlpha) : c ≠ '_' := by
  rintro rfl
  revert h; decide

/-- An identifier is a letter and characters of identifiers. -/
theorem isIdentifier_iff {s : String} :
    isIdentifier s ↔ ∃ c cs, s.toList = c :: cs ∧ c.isAlpha ∧ ∀ d ∈ cs, isWord d := by
  unfold isIdentifier
  cases h : s.toList with
  | nil => simp
  | cons c cs =>
    rw [Bool.and_eq_true, List.all_eq_true]
    constructor
    · rintro ⟨hc, hcs⟩; exact ⟨c, cs, rfl, hc, hcs⟩
    · rintro ⟨d, ds, he, hd, hds⟩
      cases he
      exact ⟨hd, hds⟩

theorem isWord_of_mem {s : String} (h : isIdentifier s) : ∀ c ∈ s.toList, isWord c := by
  obtain ⟨c, cs, hs, hc, hcs⟩ := isIdentifier_iff.1 h
  rw [hs]
  exact List.forall_mem_cons.2 ⟨isWord_of_isAlpha hc, hcs⟩

/-- An identifier with characters of identifiers behind it is one. -/
theorem isIdentifier_append {s t : String} (hs : isIdentifier s) (ht : ∀ c ∈ t.toList, isWord c) :
    isIdentifier (s ++ t) := by
  obtain ⟨c, cs, hcs, hc, hall⟩ := isIdentifier_iff.1 hs
  refine isIdentifier_iff.2 ⟨c, cs ++ t.toList, ?_, hc, List.forall_mem_append.2 ⟨hall, ht⟩⟩
  rw [String.toList_append, hcs]; rfl

/-! ## Clusters and case -/

/-- A character of kind `other` joins neither the start of a text nor another such character. -/
theorem joins_other {left : Grapheme.Left} (h : left.last = none ∨ left.last = some .other) :
    left.joins .other = false := by
  unfold Grapheme.Left.joins
  rcases h with h | h
  · rw [h]
  · rw [h]; rfl

/-- Each character of an identifier is a cluster. -/
theorem clusters_of_word {cs : List Char} (h : ∀ c ∈ cs, isWord c) : Grapheme.clusters cs = cs.map fun c => [c] := by
  -- To the left of each character is nothing or another character of kind `other`.
  suffices hafter : ∀ left : Grapheme.Left, left.last = none ∨ left.last = some .other →
      Grapheme.clustersAfter left cs = ([], cs.map fun c => [c]) by
    unfold Grapheme.clusters
    rw [hafter {} (Or.inl rfl)]
  induction cs with
  | nil => intro left _; rfl
  | cons c cs ih =>
    intro left hleft
    obtain ⟨hc, hcs⟩ := List.forall_mem_cons.1 h
    rw [Grapheme.clustersAfter, kind_of_isWord hc, ih hcs (left.next .other) (Or.inr rfl)]
    simp only [joins_other hleft]
    rfl

/-- Lower case goes by character in an identifier. -/
theorem lowercase_of_word {cs : List Char} (h : ∀ c ∈ cs, isWord c) : lowercase cs = cs.map Char.toLower := by
  suffices hafter : ∀ before, lowercaseAfter before cs = cs.map Char.toLower from hafter []
  induction cs with
  | nil => intro before; rfl
  | cons c cs ih =>
    intro before
    obtain ⟨hc, hcs⟩ := List.forall_mem_cons.1 h
    have hlt := toNat_lt_of_isWord hc
    -- Only the lower case of a sigma depends on its neighbours.
    have hsigma : c ≠ 'Σ' := by rintro rfl; revert hlt; decide
    have hlower : lower c = [c.toLower] := if_pos hlt
    rw [lowercaseAfter, if_neg hsigma, hlower, ih hcs]
    rfl

/-! ## Words -/

/-- The words of a name in lower case. -/
def foldedWords (name : String) : List (List Char) := (SnakeCase.words name.toList).map lowercase

theorem toList_snakeCase (name : String) : (snakeCase name).toList = ['_'].intercalate (foldedWords name) :=
  String.toList_ofList

theorem wordsFrom_separator {g : List Char} (h : SnakeCase.isSeparator g = true) (gs : List (List Char)) :
    SnakeCase.wordsFrom (g :: gs) = ([], (SnakeCase.wordsFrom gs).1 :: (SnakeCase.wordsFrom gs).2) := by
  rw [SnakeCase.wordsFrom]
  exact if_pos h

theorem wordsFrom_end {g : List Char} {gs : List (List Char)} (h : SnakeCase.isSeparator g = false)
    (he : SnakeCase.endsWord g gs = true) :
    SnakeCase.wordsFrom (g :: gs) = ([g], (SnakeCase.wordsFrom gs).1 :: (SnakeCase.wordsFrom gs).2) := by
  rw [SnakeCase.wordsFrom]
  exact (if_neg (by rw [h]; exact Bool.false_ne_true)).trans (if_pos he)

theorem wordsFrom_inside {g : List Char} {gs : List (List Char)} (h : SnakeCase.isSeparator g = false)
    (he : SnakeCase.endsWord g gs = false) :
    SnakeCase.wordsFrom (g :: gs) = (g :: (SnakeCase.wordsFrom gs).1, (SnakeCase.wordsFrom gs).2) := by
  rw [SnakeCase.wordsFrom]
  exact (if_neg (by rw [h]; exact Bool.false_ne_true)).trans (if_neg (by rw [he]; exact Bool.false_ne_true))

/-- Words are made of the clusters that are no separators. -/
theorem mem_wordsFrom {gs : List (List Char)} : ∀ w ∈ (SnakeCase.wordsFrom gs).1 :: (SnakeCase.wordsFrom gs).2,
    ∀ g ∈ w, g ∈ gs ∧ SnakeCase.isSeparator g = false := by
  induction gs with
  | nil => simp [SnakeCase.wordsFrom]
  | cons g gs ih =>
    have hcons : ∀ w ∈ (SnakeCase.wordsFrom gs).1 :: (SnakeCase.wordsFrom gs).2, ∀ h ∈ w,
        h ∈ g :: gs ∧ SnakeCase.isSeparator h = false :=
      fun w hw h hh => ⟨List.mem_cons_of_mem _ (ih w hw h hh).1, (ih w hw h hh).2⟩
    cases hsep : SnakeCase.isSeparator g with
    | true =>
      rw [wordsFrom_separator hsep]
      exact List.forall_mem_cons.2 ⟨by simp, hcons⟩
    | false =>
      have hg : g ∈ g :: gs ∧ SnakeCase.isSeparator g = false := ⟨List.mem_cons_self, hsep⟩
      cases he : SnakeCase.endsWord g gs with
      | true =>
        rw [wordsFrom_end hsep he]
        exact List.forall_mem_cons.2 ⟨by simpa using hg, hcons⟩
      | false =>
        obtain ⟨hfirst, hothers⟩ := List.forall_mem_cons.1 hcons
        rw [wordsFrom_inside hsep he]
        exact List.forall_mem_cons.2 ⟨List.forall_mem_cons.2 ⟨hg, hfirst⟩, hothers⟩

theorem words_of_clusters {cs g : List Char} {gs : List (List Char)} (h : Grapheme.clusters cs = g :: gs) :
    SnakeCase.words cs =
      ((SnakeCase.wordsFrom (g :: gs)).1 :: (SnakeCase.wordsFrom (g :: gs)).2).map List.flatten := by
  unfold SnakeCase.words
  rw [h]

/-- The words of an identifier hold its characters but the underscore. -/
theorem mem_words {cs : List Char} (h : ∀ c ∈ cs, isWord c) :
    ∀ w ∈ SnakeCase.words cs, ∀ c ∈ w, c ∈ cs ∧ c ≠ '_' := by
  intro w hw c hc
  unfold SnakeCase.words at hw
  rw [clusters_of_word h] at hw
  split at hw
  · cases hw
  · rename_i gs _
    obtain ⟨word, hword, rfl⟩ := List.mem_map.1 hw
    obtain ⟨g, hg, hcg⟩ := List.mem_flatten.1 hc
    obtain ⟨hgs, hsep⟩ := mem_wordsFrom word hword g hg
    obtain ⟨d, hd, rfl⟩ := List.mem_map.1 hgs
    obtain rfl := List.mem_singleton.1 hcg
    refine ⟨hd, ?_⟩
    rintro rfl
    revert hsep; decide

variable {s t : String}

/-- The words of an identifier in lower case hold lower-case letters and digits. -/
theorem mem_foldedWords (h : isIdentifier s) : ∀ w ∈ foldedWords s, ∀ c ∈ w, isSnake c ∧ c ≠ '_' := by
  intro w hw c hc
  obtain ⟨v, hv, rfl⟩ := List.mem_map.1 hw
  have hmem := mem_words (isWord_of_mem h) v hv
  have hword : ∀ d ∈ v, isWord d := fun d hd => isWord_of_mem h d (hmem d hd).1
  rw [lowercase_of_word hword] at hc
  obtain ⟨d, hd, rfl⟩ := List.mem_map.1 hc
  exact ⟨isSnake_toLower (hword d hd), fun he => (hmem d hd).2 (eq_underscore_of_toLower (hword d hd) he)⟩

/-- The first word of an identifier starts with its first letter. -/
theorem foldedWords_eq_cons (h : isIdentifier s) : ∃ c w ws, foldedWords s = (c :: w) :: ws := by
  obtain ⟨c, cs, hs, hc, -⟩ := isIdentifier_iff.1 h
  have hword := isWord_of_mem h
  have hsep : SnakeCase.isSeparator [c] = false := by
    have := isAlpha_ne_underscore hc
    have hdash : c ≠ '-' := by rintro rfl; revert hc; decide
    have hblank : c ≠ ' ' := by rintro rfl; revert hc; decide
    simp [SnakeCase.isSeparator, this, hdash, hblank]
  have hclusters : Grapheme.clusters s.toList = [c] :: cs.map fun c => [c] := by
    rw [clusters_of_word hword, hs]; rfl
  have hfirst : ∃ w ws, SnakeCase.words s.toList = (c :: w) :: ws := by
    rw [words_of_clusters hclusters]
    cases he : SnakeCase.endsWord [c] (cs.map fun c => [c]) with
    | true => rw [wordsFrom_end hsep he]; exact ⟨_, _, rfl⟩
    | false => rw [wordsFrom_inside hsep he]; exact ⟨_, _, rfl⟩
  obtain ⟨w, ws, hw⟩ := hfirst
  have hlower : ∀ d ∈ c :: w, isWord d := fun d hd =>
    hword d (mem_words hword (c :: w) (hw ▸ List.mem_cons_self) d hd).1
  refine ⟨c.toLower, w.map Char.toLower, ws.map lowercase, ?_⟩
  unfold foldedWords
  rw [hw, List.map_cons, lowercase_of_word hlower]
  rfl

/-! ## Snake case -/

theorem mem_intercalate_underscore {ws : List (List Char)} {c : Char} (h : c ∈ ['_'].intercalate ws) :
    c = '_' ∨ ∃ w ∈ ws, c ∈ w := by
  induction ws with
  | nil => simp at h
  | cons w ws ih =>
    cases ws with
    | nil => exact Or.inr ⟨w, List.mem_cons_self, by simpa using h⟩
    | cons v vs =>
      rw [List.intercalate_cons_cons] at h
      simp only [List.append_assoc, List.mem_append, List.mem_singleton] at h
      rcases h with h | h | h
      · exact Or.inr ⟨w, List.mem_cons_self, h⟩
      · exact Or.inl h
      · rcases ih h with h | ⟨u, hu, hc⟩
        · exact Or.inl h
        · exact Or.inr ⟨u, List.mem_cons_of_mem _ hu, hc⟩

/-- An identifier in snake case holds lower-case letters, digits and underscores. -/
theorem mem_snakeCase (h : isIdentifier s) : ∀ c ∈ (snakeCase s).toList, isSnake c := by
  intro c hc
  rw [toList_snakeCase] at hc
  rcases mem_intercalate_underscore hc with rfl | ⟨w, hw, hc⟩
  · decide
  · exact (mem_foldedWords h w hw c hc).1

theorem snakeCase_ne_nil (h : isIdentifier s) : (snakeCase s).toList ≠ [] := by
  obtain ⟨c, w, ws, hw⟩ := foldedWords_eq_cons h
  rw [toList_snakeCase, hw]
  cases ws with
  | nil => simp
  | cons v vs => simp [List.intercalate_cons_cons]

/-- Two identifiers have one snake case just where they have the same words in lower case. -/
theorem snakeCase_eq_iff (hs : isIdentifier s) (ht : isIdentifier t) :
    snakeCase s = snakeCase t ↔ foldedWords s = foldedWords t := by
  have hsplit : ∀ {u : String}, isIdentifier u → (snakeCase u).toList.splitOn '_' = foldedWords u := by
    intro u hu
    obtain ⟨c, w, ws, hw⟩ := foldedWords_eq_cons hu
    rw [toList_snakeCase]
    refine List.splitOn_intercalate '_' (fun v hv hmem => (mem_foldedWords hu v hv '_' hmem).2 rfl) ?_
    rw [hw]; exact List.cons_ne_nil _ _
  constructor
  · intro h
    rw [← hsplit hs, ← hsplit ht, h]
  · intro h
    apply String.toList_injective
    rw [toList_snakeCase, toList_snakeCase, h]

end SchemaClasses.Text
