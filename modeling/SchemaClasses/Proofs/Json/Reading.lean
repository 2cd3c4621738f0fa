import SchemaClasses.Proofs.Json.Literals

/-!
# The reader follows the grammar

Whatever a text spells is what `readValue` finds in it, and the reader stops where the phrase ends (`Spells.read`).
Conversely a tree without faults that is read off a text is spelled by it (`spelled_of_read_eq`). Decoding with a reader
that accepts no faults is therefore reading the tree that the text spells (`decode_eq_ok_iff`).
-/

namespace SchemaClasses.Json

/-! ## From the grammar to the reader -/

theorem KeyText.length_lt {ps : List Piece} {cs rest : List Char} (h : KeyText ps cs rest) :
    rest.length < cs.length := by
  obtain ⟨key, colon, -, hcs, hcolon⟩ := h
  have hlt := hcs.length_lt
  have hlt' := hcolon.length_lt
  simp only [List.length_append, List.length_cons] at hlt
  omega

theorem Spells.length_lt {cs rest : List Char} {p : Phrase} (h : Spells cs p rest) : rest.length < cs.length := by
  induction h with
  | blank _ _ ih => exact Nat.lt_succ_of_lt ih
  | null | true | false => simp only [List.length_cons]; omega
  | positive _ hn | negative _ hn =>
    obtain ⟨d, cs, rfl, -⟩ := hn.exists_digit
    simp only [List.length_cons, List.length_append]
    omega
  | string => simp only [List.length_cons, List.length_append]; omega
  | emptyArray hb | emptyObject hb => exact Nat.lt_succ_of_lt hb.length_le
  | array _ ih | object _ ih => exact Nat.lt_succ_of_lt ih
  | lastItem _ hclose ih => have := hclose.length_lt; omega
  | item _ hcomma _ ih ihts => have := hcomma.length_lt; omega
  | lastMember hkey _ hclose ih => have := hkey.length_lt; have := hclose.length_lt; omega
  | member hkey _ hcomma _ iht ihms => have := hkey.length_lt; have := hcomma.length_lt; omega

/-- The text opens, behind blanks, with something else than a closing bracket. -/
def Opens (cs : List Char) : Prop := ∃ c cs', skipBlanks cs = c :: cs' ∧ c ≠ ']' ∧ c ≠ '\x7d'

theorem opens_cons {c : Char} (hblank : isBlank c = false) (hc : c ≠ ']' ∧ c ≠ '\x7d') (cs : List Char) :
    Opens (c :: cs) := ⟨c, cs, skipBlanks_cons hblank cs, hc⟩

theorem Spells.opens {cs rest : List Char} {p : Phrase} (h : Spells cs p rest) : Opens cs := by
  induction h with
  | blank hb _ ih =>
    obtain ⟨c, cs', h, hc⟩ := ih
    exact ⟨c, cs', (skipBlanks_blank hb _).trans h, hc⟩
  | positive _ hn =>
    obtain ⟨d, cs, rfl, hd⟩ := hn.exists_digit
    exact opens_cons (isBlank_of_isDigit hd) ⟨ne_of_isDigit hd rfl, ne_of_isDigit hd rfl⟩ _
  | lastItem _ _ ih | item _ _ _ ih => exact ih
  | lastMember hkey | member hkey =>
    obtain ⟨key, colon, -, hcs, -⟩ := hkey
    exact ⟨'"', _, hcs.skipBlanks_eq_cons rfl, by decide, by decide⟩
  | _ => exact opens_cons rfl (by decide) _

section Steps

variable (steps : Nat)

theorem readValue_blank {b : Char} (hb : isBlank b = true) (cs : List Char) :
    readValue steps (b :: cs) = readValue steps cs := by
  cases steps with
  | zero => rfl
  | succ steps => rw [readValue, readValue, skipBlanks_blank hb]

theorem readValue_skipBlanks (cs : List Char) : readValue steps (skipBlanks cs) = readValue steps cs := by
  induction cs with
  | nil => rfl
  | cons c cs ih =>
    cases hc : isBlank c with
    | true => rw [skipBlanks_blank hc, ih, readValue_blank steps hc]
    | false => rw [skipBlanks_cons hc]

theorem readItems_skipBlanks (cs : List Char) : readItems steps (skipBlanks cs) = readItems steps cs := by
  cases steps with
  | zero => rfl
  | succ steps => rw [readItems, readItems, readValue_skipBlanks]

theorem readMembers_skipBlanks (cs : List Char) : readMembers steps (skipBlanks cs) = readMembers steps cs := by
  cases steps with
  | zero => rfl
  | succ steps => rw [readMembers, readMembers, skipBlanks_idem]

theorem readValue_digit {d : Char} (hd : d.isDigit = true) (cs : List Char) :
    readValue (steps + 1) (d :: cs) = readNumber false (d :: cs) := by
  rw [readValue, skipBlanks_cons (isBlank_of_isDigit hd)]
  split <;> rename_i heq <;> cases heq <;> first | cases hd | exact if_pos hd

theorem readValue_bracket (cs : List Char) :
    readValue (steps + 1) ('[' :: cs) =
      match skipBlanks cs with
      | ']' :: cs => (.array [] none, some cs)
      | [] => (.array [] (some .ended), none)
      | cs =>
        let (items, fault, rest) := readItems steps cs
        (.array items fault, rest) := by
  rw [readValue, skipBlanks_cons rfl]
  rfl

theorem readValue_brace (cs : List Char) :
    readValue (steps + 1) ('\x7b' :: cs) =
      match skipBlanks cs with
      | '\x7d' :: cs => (.object [] none, some cs)
      | [] => (.object [] (some .ended), none)
      | cs =>
        let (members, fault, rest) := readMembers steps cs
        (.object members fault, rest) := by
  rw [readValue, skipBlanks_cons rfl]
  rfl

variable {steps} {cs rest : List Char}

theorem readValue_items {ts : List Tree} (hcs : Opens cs) (h : readItems steps cs = (ts, none, some rest)) :
    readValue (steps + 1) ('[' :: cs) = (.array ts none, some rest) := by
  obtain ⟨c, cs', hskip, hc, -⟩ := hcs
  rw [← readItems_skipBlanks] at h
  rw [readValue_bracket]
  rw [hskip] at h ⊢
  split
  · rename_i heq; cases heq; exact absurd rfl hc
  · rename_i heq; cases heq
  · rw [h]

theorem readValue_members {ms : List (Tree × Tree)} (hcs : Opens cs)
    (h : readMembers steps cs = (ms, none, some rest)) :
    readValue (steps + 1) ('\x7b' :: cs) = (.object ms none, some rest) := by
  obtain ⟨c, cs', hskip, -, hc⟩ := hcs
  rw [← readMembers_skipBlanks] at h
  rw [readValue_brace]
  rw [hskip] at h ⊢
  split
  · rename_i heq; cases heq; exact absurd rfl hc
  · rename_i heq; cases heq
  · rw [h]

variable {behind close comma next : List Char}

theorem readItems_last {t : Tree} (ht : readValue steps cs = (t, some close)) (hclose : Blanks close (']' :: rest)) :
    readItems (steps + 1) cs = ([t], none, some rest) := by
  have hskip := hclose.skipBlanks_eq_cons rfl
  simp only [readItems, ht, hskip]

theorem readItems_cons {t : Tree} {ts : List Tree} (ht : readValue steps cs = (t, some comma))
    (hcomma : Blanks comma (',' :: next)) (hts : readItems steps next = (ts, none, some rest)) :
    readItems (steps + 1) cs = (t :: ts, none, some rest) := by
  have hskip := hcomma.skipBlanks_eq_cons rfl
  simp only [readItems, ht, hskip, hts]

theorem readMembers_last {ps : List Piece} {t : Tree} (hkey : KeyText ps cs behind)
    (ht : readValue steps behind = (t, some close)) (hclose : Blanks close ('\x7d' :: rest)) :
    readMembers (steps + 1) cs = ([(.string ⟨ps, none⟩, t)], none, some rest) := by
  obtain ⟨key, colon, hps, hcs, hcolon⟩ := hkey
  have hquote := hcs.skipBlanks_eq_cons rfl
  have hskip := hcolon.skipBlanks_eq_cons rfl
  have hskip' := hclose.skipBlanks_eq_cons rfl
  simp only [readMembers, hquote, readText_append hps, hskip, ht, hskip']

theorem readMembers_cons {ps : List Piece} {t : Tree} {ms : List (Tree × Tree)} (hkey : KeyText ps cs behind)
    (ht : readValue steps behind = (t, some comma)) (hcomma : Blanks comma (',' :: next))
    (hms : readMembers steps next = (ms, none, some rest)) :
    readMembers (steps + 1) cs = ((.string ⟨ps, none⟩, t) :: ms, none, some rest) := by
  obtain ⟨key, colon, hps, hcs, hcolon⟩ := hkey
  have hquote := hcs.skipBlanks_eq_cons rfl
  have hskip := hcolon.skipBlanks_eq_cons rfl
  have hskip' := hcomma.skipBlanks_eq_cons rfl
  simp only [readMembers, hquote, readText_append hps, hskip, ht, hskip', hms]

end Steps

/-- What the reader makes of a text that spells the phrase. -/
def Phrase.Read (steps : Nat) (cs rest : List Char) : Phrase → Prop
  | .value t => readValue steps cs = (t, some rest)
  | .items ts => readItems steps cs = (ts, none, some rest)
  | .members ms => readMembers steps cs = (ms, none, some rest)

/-- How many steps a phrase takes besides two for each character. -/
def Phrase.steps : Phrase → Nat
  | .value _ => 0
  | .items _ => 1
  | .members _ => 1

/-- The reader finds what a text spells, and stops behind it. -/
theorem Spells.read {cs rest : List Char} {p : Phrase} (h : Spells cs p rest) :
    ∀ {steps : Nat}, 2 * cs.length + p.steps ≤ steps → Stops rest → p.Read steps cs rest := by
  -- By induction on the spelling; a part is read in the steps that are left, for the text in front of it takes its own.
  induction h with
  | blank hb _ ih =>
    intro steps hsteps hrest
    simp only [List.length_cons, Phrase.steps] at hsteps ih
    exact (readValue_blank steps hb _).trans (ih (by omega) hrest)
  | null | true | false =>
    rintro (_ | steps) hsteps -
    · simp at hsteps
    · rfl
  | positive hn htext =>
    obtain ⟨d, cs, rfl, hd⟩ := htext.exists_digit
    rintro (_ | steps) hsteps hrest
    · simp at hsteps
    · exact (readValue_digit steps hd _).trans (readNumber_append hn htext hrest)
  | negative hn htext =>
    rintro (_ | steps) hsteps hrest
    · simp at hsteps
    · exact readNumber_append hn htext hrest
  | string htext =>
    rintro (_ | steps) hsteps -
    · simp at hsteps
    · exact readText_append htext _
  | emptyArray hclose =>
    rintro (_ | steps) hsteps -
    · simp at hsteps
    · have hskip := hclose.skipBlanks_eq_cons rfl
      simp only [Phrase.Read, readValue_bracket, hskip]
  | emptyObject hclose =>
    rintro (_ | steps) hsteps -
    · simp at hsteps
    · have hskip := hclose.skipBlanks_eq_cons rfl
      simp only [Phrase.Read, readValue_brace, hskip]
  | array hts ih =>
    rintro (_ | steps) hsteps hrest
    · simp at hsteps
    · simp only [List.length_cons, Phrase.steps] at hsteps ih
      exact readValue_items hts.opens (ih (by omega) hrest)
  | object hms ih =>
    rintro (_ | steps) hsteps hrest
    · simp at hsteps
    · simp only [List.length_cons, Phrase.steps] at hsteps ih
      exact readValue_members hms.opens (ih (by omega) hrest)
  | lastItem _ hclose ih =>
    rintro (_ | steps) hsteps hrest <;> simp only [Phrase.steps] at hsteps ih
    · omega
    · exact readItems_last (ih (by omega) (stops_of_blanks hclose (by decide))) hclose
  | item ht hcomma _ ih ihts =>
    have hlt := ht.length_lt
    have hlt' := hcomma.length_lt
    rintro (_ | steps) hsteps hrest <;> simp only [Phrase.steps] at hsteps ih ihts
    · omega
    · exact readItems_cons (ih (by omega) (stops_of_blanks hcomma (by decide))) hcomma (ihts (by omega) hrest)
  | lastMember hkey _ hclose ih =>
    have hlt := hkey.length_lt
    rintro (_ | steps) hsteps hrest <;> simp only [Phrase.steps] at hsteps ih
    · omega
    · exact readMembers_last hkey (ih (by omega) (stops_of_blanks hclose (by decide))) hclose
  | member hkey ht hcomma _ ih ihms =>
    have hlt := hkey.length_lt
    have hlt' := ht.length_lt
    have hlt'' := hcomma.length_lt
    rintro (_ | steps) hsteps hrest <;> simp only [Phrase.steps] at hsteps ih ihms
    · omega
    · exact readMembers_cons hkey (ih (by omega) (stops_of_blanks hcomma (by decide))) hcomma (ihms (by omega) hrest)

/-- The tree that a text spells is the tree that is read. -/
theorem Spelled.read_eq {text : String} {t : Tree} (h : Spelled text t) : Tree.read text.toList = (t, false) := by
  obtain ⟨rest, hspells, hrest⟩ := h
  have hread : readValue (2 * text.toList.length + 2) text.toList = (t, some rest) :=
    hspells.read (Nat.le_add_right _ 2) (hrest.stops fun _ hc => by cases hc)
  simp only [Tree.read, hread, hrest.skipBlanks_eq]
  rfl

/-- A text spells one tree. -/
theorem Spelled.unique {text : String} {t t' : Tree} (h : Spelled text t) (h' : Spelled text t') : t = t' :=
  congrArg Prod.fst (h.read_eq.symm.trans h'.read_eq)

/-! ## From the reader to the grammar -/

/-- Blanks may stand in front of a phrase. -/
theorem Spells.behind_blanks {cs cs' rest : List Char} {p : Phrase} (hb : Blanks cs cs') (h : Spells cs' p rest) :
    Spells cs p rest := by
  obtain ⟨bs, hbs, rfl⟩ := hb
  have hvalue : ∀ {t : Tree} {rest : List Char}, Spells cs' (.value t) rest → Spells (bs ++ cs') (.value t) rest := by
    intro t rest h
    induction bs with
    | nil => exact h
    | cons b bs ih =>
      obtain ⟨hb, hbs⟩ := List.forall_mem_cons.1 hbs
      exact .blank hb (ih hbs)
  have hkey : ∀ {ps : List Piece} {rest : List Char}, KeyText ps cs' rest → KeyText ps (bs ++ cs') rest := by
    rintro ps rest ⟨key, colon, hps, ⟨bs', hbs', rfl⟩, hcolon⟩
    refine ⟨key, colon, hps, ⟨bs ++ bs', fun b hb => ?_, (List.append_assoc ..).symm⟩, hcolon⟩
    exact (List.mem_append.1 hb).elim (hbs b) (hbs' b)
  cases p with
  | value t => exact hvalue h
  | items ts =>
    cases h with
    | lastItem ht hclose => exact .lastItem (hvalue ht) hclose
    | item ht hcomma hts => exact .item (hvalue ht) hcomma hts
  | members ms =>
    cases h with
    | lastMember hk ht hclose => exact .lastMember (hkey hk) ht hclose
    | member hk ht hcomma hms => exact .member (hkey hk) ht hcomma hms

theorem readWord_eq {t t' : Tree} {ws cs : List Char} {r : Option (List Char)} (h : readWord t ws cs = (t', r))
    (ht : t'.Whole) : ∃ rest, t' = t ∧ r = some rest ∧ cs = ws ++ rest := by
  induction ws generalizing cs with
  | nil => cases h; exact ⟨cs, rfl, rfl, rfl⟩
  | cons w ws ih =>
    cases cs with
    | nil => cases h; cases ht
    | cons c cs =>
      rw [readWord] at h
      split at h
      · rename_i hw
        obtain ⟨rest, rfl, rfl, rfl⟩ := ih h
        exact ⟨rest, rfl, rfl, hw ▸ rfl⟩
      · cases h; cases ht

theorem keyText_of_readText {cs cs' colon behind : List Char} {key : Tree} (hquote : skipBlanks cs = '"' :: cs')
    (hread : readText cs' = (key, some colon)) (hcolon : skipBlanks colon = ':' :: behind) (hkey : key.WholeKey) :
    ∃ ps, key = .string ⟨ps, none⟩ ∧ KeyText ps cs behind := by
  obtain ⟨s, rfl, hs⟩ := hkey
  obtain ⟨ps, text, rest, heq, hrest, hps, rfl⟩ := piecesText_of_readText hread (Tree.whole_string.2 hs)
  cases hrest
  exact ⟨ps, heq, text, _, hps, blanks_of_skipBlanks_eq hquote, blanks_of_skipBlanks_eq hcolon⟩

/-- What the reader finds without faults in so many steps is spelled. -/
structure SpelledWithin (steps : Nat) : Prop where
  value : ∀ {cs t r}, readValue steps cs = (t, r) → t.Whole → ∃ rest, r = some rest ∧ Spells cs (.value t) rest
  items : ∀ {cs ts r}, readItems steps cs = (ts, none, r) → (∀ t ∈ ts, t.Whole) →
    ∃ rest, r = some rest ∧ Spells cs (.items ts) rest
  members : ∀ {cs ms r}, readMembers steps cs = (ms, none, r) → (∀ m ∈ ms, m.1.WholeKey ∧ m.2.Whole) →
    ∃ rest, r = some rest ∧ Spells cs (.members ms) rest

namespace SpelledWithin

variable {steps : Nat} {cs : List Char} {t : Tree} {r : Option (List Char)}

theorem spells (ih : SpelledWithin steps) {rest : List Char} (h : readValue steps cs = (t, some rest))
    (ht : t.Whole) : Spells cs (.value t) rest := by
  obtain ⟨_, hr, hspells⟩ := ih.value h ht
  cases hr
  exact hspells

theorem not_whole (ih : SpelledWithin steps) (h : readValue steps cs = (t, none)) : ¬t.Whole := fun ht => by
  obtain ⟨_, hr, -⟩ := ih.value h ht
  cases hr

theorem items_succ (ih : SpelledWithin steps) {ts : List Tree} (h : readItems (steps + 1) cs = (ts, none, r))
    (hts : ∀ t ∈ ts, t.Whole) : ∃ rest, r = some rest ∧ Spells cs (.items ts) rest := by
  unfold readItems at h
  split at h
  · rename_i hread
    cases h
    exact absurd (hts _ List.mem_cons_self) (ih.not_whole hread)
  · rename_i t behind hread
    split at h
    · rename_i rest hskip
      cases h
      have ht := hts t List.mem_cons_self
      exact ⟨rest, rfl, .lastItem (ih.spells hread ht) (blanks_of_skipBlanks_eq hskip)⟩
    · rename_i next hskip
      generalize hnext : readItems steps next = result at h
      obtain ⟨ts, fault, r⟩ := result
      cases h
      obtain ⟨ht, hts⟩ := List.forall_mem_cons.1 hts
      obtain ⟨rest, rfl, hitems⟩ := ih.items hnext hts
      exact ⟨rest, rfl, .item (ih.spells hread ht) (blanks_of_skipBlanks_eq hskip) hitems⟩
    · cases h
    · cases h

theorem members_succ (ih : SpelledWithin steps) {ms : List (Tree × Tree)}
    (h : readMembers (steps + 1) cs = (ms, none, r)) (hms : ∀ m ∈ ms, m.1.WholeKey ∧ m.2.Whole) :
    ∃ rest, r = some rest ∧ Spells cs (.members ms) rest := by
  -- A member whose value is a fault is not whole.
  have hbroken : ∀ {k : Tree} {f : Fault}, ((k, Tree.broken f) : Tree × Tree) ∉ ms := fun hm => by
    cases (hms _ hm).2
  unfold readMembers at h
  split at h
  · rename_i cs' hquote
    split at h
    · cases h; exact absurd List.mem_cons_self hbroken
    · rename_i key colon hkey
      split at h
      · rename_i behind hcolon
        split at h
        · rename_i hread
          cases h
          exact absurd (hms _ List.mem_cons_self).2 (ih.not_whole hread)
        · rename_i t after hread
          split at h
          · rename_i rest hskip
            cases h
            obtain ⟨hk, ht⟩ := hms _ List.mem_cons_self
            obtain ⟨ps, rfl, htext⟩ := keyText_of_readText hquote hkey hcolon hk
            exact ⟨rest, rfl, .lastMember htext (ih.spells hread ht) (blanks_of_skipBlanks_eq hskip)⟩
          · rename_i next hskip
            generalize hnext : readMembers steps next = result at h
            obtain ⟨ms, fault, r⟩ := result
            cases h
            obtain ⟨⟨hk, ht⟩, hms'⟩ := List.forall_mem_cons.1 hms
            obtain ⟨rest, rfl, hmembers⟩ := ih.members hnext hms'
            obtain ⟨ps, rfl, htext⟩ := keyText_of_readText hquote hkey hcolon hk
            exact ⟨rest, rfl, .member htext (ih.spells hread ht) (blanks_of_skipBlanks_eq hskip) hmembers⟩
          · cases h
          · cases h
      · cases h; exact absurd List.mem_cons_self hbroken
      · cases h; exact absurd List.mem_cons_self hbroken
  · cases h; exact absurd List.mem_cons_self hbroken

theorem array_succ (ih : SpelledWithin steps) (h : readValue (steps + 1) ('[' :: cs) = (t, r)) (ht : t.Whole) :
    ∃ rest, r = some rest ∧ Spells ('[' :: cs) (.value t) rest := by
  rw [readValue_bracket] at h
  split at h
  · rename_i rest hskip
    cases h
    exact ⟨rest, rfl, .emptyArray (blanks_of_skipBlanks_eq hskip)⟩
  · cases h; cases ht
  · generalize hitems : readItems steps (skipBlanks cs) = result at h
    obtain ⟨ts, fault, r⟩ := result
    cases h
    obtain ⟨hts, rfl⟩ := Tree.whole_array.1 ht
    obtain ⟨rest, rfl, hspells⟩ := ih.items (by rw [← readItems_skipBlanks, hitems]) hts
    exact ⟨rest, rfl, .array hspells⟩

theorem object_succ (ih : SpelledWithin steps) (h : readValue (steps + 1) ('\x7b' :: cs) = (t, r)) (ht : t.Whole) :
    ∃ rest, r = some rest ∧ Spells ('\x7b' :: cs) (.value t) rest := by
  rw [readValue_brace] at h
  split at h
  · rename_i rest hskip
    cases h
    exact ⟨rest, rfl, .emptyObject (blanks_of_skipBlanks_eq hskip)⟩
  · cases h; cases ht
  · generalize hmembers : readMembers steps (skipBlanks cs) = result at h
    obtain ⟨ms, fault, r⟩ := result
    cases h
    obtain ⟨hms, rfl⟩ := Tree.whole_object.1 ht
    obtain ⟨rest, rfl, hspells⟩ := ih.members (by rw [← readMembers_skipBlanks, hmembers]) hms
    exact ⟨rest, rfl, .object hspells⟩

/-- One more step, behind the blanks in front of a value. -/
theorem value_succ (ih : SpelledWithin steps) (h : readValue (steps + 1) cs = (t, r)) (ht : t.Whole) :
    ∃ rest, r = some rest ∧ Spells cs (.value t) rest := by
  rw [← readValue_skipBlanks] at h
  suffices hskip : ∃ rest, r = some rest ∧ Spells (skipBlanks cs) (.value t) rest by
    obtain ⟨rest, rfl, hspells⟩ := hskip
    exact ⟨rest, rfl, hspells.behind_blanks (blanks_skipBlanks cs)⟩
  have hread := h
  unfold readValue at h
  rw [skipBlanks_idem] at h
  split at h <;> rename_i hskip <;> rw [hskip] at hread ⊢
  · cases h; cases ht
  · obtain ⟨ps, text, rest, rfl, rfl, hps, rfl⟩ := piecesText_of_readText h ht
    exact ⟨rest, rfl, .string hps⟩
  · exact ih.array_succ hread ht
  · exact ih.object_succ hread ht
  · obtain ⟨n, text, rest, rfl, rfl, hn, htext, rfl⟩ := numeralText_of_readNumber h ht
    exact ⟨rest, rfl, .negative hn htext⟩
  · obtain ⟨rest, rfl, rfl, rfl⟩ := readWord_eq h ht
    exact ⟨rest, rfl, .null⟩
  · obtain ⟨rest, rfl, rfl, rfl⟩ := readWord_eq h ht
    exact ⟨rest, rfl, .true⟩
  · obtain ⟨rest, rfl, rfl, rfl⟩ := readWord_eq h ht
    exact ⟨rest, rfl, .false⟩
  · split at h
    · obtain ⟨n, text, rest, rfl, rfl, hn, htext, hcs⟩ := numeralText_of_readNumber h ht
      rw [hcs]
      exact ⟨rest, rfl, .positive hn htext⟩
    · cases h; cases ht

end SpelledWithin

theorem spelledWithin (steps : Nat) : SpelledWithin steps := by
  induction steps with
  | zero =>
    refine ⟨fun h ht => ?_, fun h => ?_, fun h => ?_⟩
    · cases h; cases ht
    · cases h
    · cases h
  | succ steps ih => exact ⟨ih.value_succ, ih.items_succ, ih.members_succ⟩

/-- A tree without faults is spelled by the text it is read off. -/
theorem spelled_of_read_eq {text : String} {t : Tree} (h : Tree.read text.toList = (t, false)) (ht : t.Whole) :
    Spelled text t := by
  unfold Tree.read at h
  split at h
  · rename_i hread
    cases h
    exact absurd ht ((spelledWithin _).not_whole hread)
  · rename_i rest hread
    obtain ⟨rfl, hmore⟩ := Prod.mk.inj h
    refine ⟨rest, (spelledWithin _).spells hread ht, blanks_of_skipBlanks_eq ?_⟩
    exact List.isEmpty_iff.1 (by simpa using hmore)

/-- A reader that accepts no faults. -/
def Thorough {α : Type} (read : Reader α) : Prop := ∀ ⦃depth t a⦄, read depth t = .ok a → t.Whole

/-- Decoding is reading the tree that the text spells. -/
theorem decode_eq_ok_iff {α : Type} {read : Reader α} (hread : Thorough read) {text : String} {a : α} :
    decode read text = .ok a ↔ ∃ t, Spelled text t ∧ read 0 t = .ok a := by
  constructor
  · intro h
    unfold decode at h
    generalize hresult : Tree.read text.toList = result at h
    obtain ⟨t, more⟩ := result
    obtain ⟨a', ha, h⟩ := Outcome.bind_eq_ok_iff.1 h
    cases more with
    | true => cases h
    | false => cases h; exact ⟨t, spelled_of_read_eq hresult (hread ha), ha⟩
  · rintro ⟨t, ht, ha⟩
    unfold decode
    rw [ht.read_eq]
    exact Outcome.bind_eq_ok_iff.2 ⟨a, ha, rfl⟩

end SchemaClasses.Json
