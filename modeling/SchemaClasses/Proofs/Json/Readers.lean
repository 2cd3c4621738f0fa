import SchemaClasses.Json.Record
import SchemaClasses.Proofs.Json.Reading

/-!
# What readers accept

A list is read item by item and a dictionary member by member, so what they accept is told by their parts
(`sequence_eq_ok_iff`, `dictionary_eq_ok_iff`, `value_array_eq_ok_iff`, `value_object_eq_ok_iff`). No reader accepts a
tree with a fault, if those it is made of do not (`Thorough`).
-/

namespace SchemaClasses.Json

variable {α : Type}

/-! ## Items and members -/

/-- A member with what is read of its value. -/
def readMember (read : Tree → Except Error α) (m : Tree × Tree) : Except Error (String × α) := do
  let key ← memberKey m.1
  let a ← read m.2
  return (key, a)

theorem readMember_eq_ok_iff {read : Tree → Except Error α} {m : Tree × Tree} {e : String × α} :
    readMember read m = .ok e ↔ memberKey m.1 = .ok e.1 ∧ read m.2 = .ok e.2 := by
  unfold readMember
  rw [Outcome.bind_eq_ok_iff]
  constructor
  · rintro ⟨key, hkey, h⟩
    obtain ⟨a, ha, h⟩ := Outcome.bind_eq_ok_iff.1 h
    cases h
    exact ⟨hkey, ha⟩
  · rintro ⟨hkey, ha⟩
    exact ⟨e.1, hkey, Outcome.bind_eq_ok_iff.2 ⟨e.2, ha, rfl⟩⟩

theorem readEach_eq_mapM (read : Reader α) (depth : Nat) (ts : List Tree) :
    readEach read depth ts = ts.mapM (read depth) := by
  induction ts with
  | nil => rfl
  | cons t ts ih => rw [readEach, ih, List.mapM_cons]

theorem readMembersAs_eq_mapM (read : Reader α) (depth : Nat) (ms : List (Tree × Tree)) :
    readMembersAs read depth ms = ms.mapM (readMember (read depth)) := by
  induction ms with
  | nil => rfl
  | cons m ms ih => simp only [readMembersAs, ih, List.mapM_cons, readMember, bind_assoc, pure_bind]

theorem values_eq_mapM (depth : Nat) (ts : List Tree) : values depth ts = ts.mapM (value depth) := by
  induction ts with
  | nil => rw [values]; rfl
  | cons t ts ih => rw [values, ih, List.mapM_cons]

theorem memberValues_eq_mapM (depth : Nat) (ms : List (Tree × Tree)) :
    memberValues depth ms = ms.mapM (readMember (value depth)) := by
  induction ms with
  | nil => rw [memberValues]; rfl
  | cons m ms ih => simp only [memberValues, ih, List.mapM_cons, readMember, bind_assoc, pure_bind]

/-! ## Containers -/

theorem openContainer_eq_ok_iff {depth : Nat} : openContainer depth = .ok () ↔ depth < 127 := by
  unfold openContainer
  split <;> simp [*]

/-- A container is read where one more may be open, its parts can be read and nothing in it is a fault. -/
theorem container_eq_ok_iff {β : Type} {depth : Nat} {fault : Option Fault} {parts : Except Error α} {f : α → β}
    {b : β} : (do openContainer depth; let a ← parts; checkFault fault; return f a) = .ok b ↔
      depth < 127 ∧ fault = none ∧ ∃ a, parts = .ok a ∧ b = f a := by
  rw [Outcome.bind_eq_ok_iff, ← openContainer_eq_ok_iff, ← checkFault_eq_ok_iff]
  constructor
  · rintro ⟨_, hopen, h⟩
    obtain ⟨a, ha, h⟩ := Outcome.bind_eq_ok_iff.1 h
    obtain ⟨_, hfault, h⟩ := Outcome.bind_eq_ok_iff.1 h
    cases h
    exact ⟨hopen, hfault, a, ha, rfl⟩
  · rintro ⟨hopen, hfault, a, ha, rfl⟩
    rw [ha, hfault]
    exact ⟨(), hopen, rfl⟩

/-- The items of an array and what is read of them. -/
abbrev ItemsRead (read : Tree → Except Error α) (ts : List Tree) (as : List α) : Prop :=
  List.Forall₂ (fun t a => read t = .ok a) ts as

/-- The members of an object and what is read of them. -/
abbrev MembersRead (read : Tree → Except Error α) (ms : List (Tree × Tree)) (es : List (String × α)) : Prop :=
  List.Forall₂ (fun m e => memberKey m.1 = .ok e.1 ∧ read m.2 = .ok e.2) ms es

theorem refuse_ne_ok {wanted : String} {t : Tree} {a : α} : refuse wanted t ≠ .ok a := by
  intro h
  cases t with
  | number n =>
    obtain ⟨_, -, h⟩ := Outcome.bind_eq_ok_iff.1 h
    cases h
  | string s =>
    obtain ⟨_, -, h⟩ := Outcome.bind_eq_ok_iff.1 h
    cases h
  | _ => cases h

section Accepted

variable {read : Reader α} {depth : Nat} {t : Tree}

theorem textAs_eq_ok_iff {wanted text : String} :
    textAs wanted depth t = .ok text ↔ ∃ s, t = .string s ∧ literalText s = .ok text := by
  cases t <;> simp [textAs, refuse_ne_ok]

theorem flag_eq_ok_iff {b : Bool} : flag depth t = .ok b ↔ t = .bool b := by
  cases t <;> simp [flag, refuse_ne_ok]

theorem optional_eq_ok_iff {o : Option α} : optional read depth t = .ok o ↔
    (t = .null ∧ o = none) ∨ (t ≠ .null ∧ ∃ a, read depth t = .ok a ∧ o = some a) := by
  cases t with
  | null => simp [optional, eq_comm]
  | _ => simp [optional, Outcome.map_eq_ok_iff]

theorem sequence_eq_ok_iff {as : List α} : sequence read depth t = .ok as ↔
    ∃ ts, t = .array ts none ∧ depth < 127 ∧ ItemsRead (read (depth + 1)) ts as := by
  cases t with
  | array ts fault =>
    rw [sequence, readEach_eq_mapM]
    refine (container_eq_ok_iff (f := id)).trans ?_
    simp only [Outcome.mapM_eq_ok_iff, id, exists_eq_right']
    constructor
    · rintro ⟨hdepth, rfl, has⟩; exact ⟨ts, rfl, hdepth, has⟩
    · rintro ⟨ts, h, hdepth, has⟩; cases h; exact ⟨hdepth, rfl, has⟩
  | _ => simp [sequence, refuse_ne_ok]

theorem dictionary_eq_ok_iff {d : Dictionary α} : dictionary read depth t = .ok d ↔
    ∃ ms es, t = .object ms none ∧ depth < 127 ∧ MembersRead (read (depth + 1)) ms es ∧ d = Dictionary.ofList es := by
  cases t with
  | object ms fault =>
    rw [dictionary, readMembersAs_eq_mapM, container_eq_ok_iff]
    simp only [Outcome.mapM_eq_ok_iff, readMember_eq_ok_iff]
    constructor
    · rintro ⟨hdepth, rfl, es, hes, rfl⟩; exact ⟨ms, es, rfl, hdepth, hes, rfl⟩
    · rintro ⟨ms, es, h, hdepth, hes, rfl⟩; cases h; exact ⟨hdepth, rfl, es, hes, rfl⟩
  | _ => simp [dictionary, refuse_ne_ok]

variable {ts : List Tree} {ms : List (Tree × Tree)} {fault : Option Fault} {v : Value}

theorem value_array_eq_ok_iff : value depth (.array ts fault) = .ok v ↔
    depth < 127 ∧ fault = none ∧ ∃ vs, ItemsRead (value (depth + 1)) ts vs ∧ v = .array vs := by
  rw [value, values_eq_mapM, container_eq_ok_iff]
  simp only [Outcome.mapM_eq_ok_iff]

theorem value_object_eq_ok_iff : value depth (.object ms fault) = .ok v ↔
    depth < 127 ∧ fault = none ∧ ∃ vs, MembersRead (value (depth + 1)) ms vs ∧ v = .object vs := by
  rw [value, memberValues_eq_mapM, container_eq_ok_iff]
  simp only [Outcome.mapM_eq_ok_iff, readMember_eq_ok_iff]

theorem eq_null_of_value (h : value depth t = .ok .null) : t = .null := by
  cases t with
  | null => rfl
  | number n =>
    obtain ⟨_, -, hv⟩ := Outcome.map_eq_ok_iff.1 h
    cases hv
  | string s =>
    obtain ⟨_, -, hv⟩ := Outcome.map_eq_ok_iff.1 h
    cases hv
  | array ts fault =>
    obtain ⟨-, -, _, -, hv⟩ := value_array_eq_ok_iff.1 h
    cases hv
  | object ms fault =>
    obtain ⟨-, -, _, -, hv⟩ := value_object_eq_ok_iff.1 h
    cases hv
  | _ => cases h

end Accepted

/-! ## Readers that accept no faults -/

theorem fault_of_charactersOf {fault : Option Fault} {ps : List Piece} {cs : List Char}
    (h : charactersOf fault ps = .ok cs) : fault = none := by
  fun_induction charactersOf fault ps generalizing cs with
  | case2 hfault => exact hfault
  | case3 _ _ ih | case5 _ _ _ _ _ _ ih | case9 _ _ _ _ ih =>
    obtain ⟨_, hcs, -⟩ := Outcome.bind_eq_ok_iff.1 h
    exact ih hcs
  | _ => cases h

theorem fault_of_literalText {s : Spelling} {text : String} (h : literalText s = .ok text) : s.fault = none := by
  obtain ⟨cs, hcs, -⟩ := Outcome.map_eq_ok_iff.1 (Outcome.mapError_eq_ok_iff.1 h)
  exact fault_of_charactersOf hcs

theorem wholeKey_of_memberKey {k : Tree} {key : String} (h : memberKey k = .ok key) : k.WholeKey := by
  cases k with
  | string s => exact ⟨s, rfl, fault_of_literalText h⟩
  | _ => cases h

theorem thorough_textAs (wanted : String) : Thorough (textAs wanted) := by
  intro depth t text h
  obtain ⟨s, rfl, hs⟩ := textAs_eq_ok_iff.1 h
  exact Tree.whole_string.2 (fault_of_literalText hs)

theorem thorough_flag : Thorough flag := by
  intro depth t b h
  rw [flag_eq_ok_iff.1 h]
  rfl

theorem forall_mem_of_forall₂ {β γ : Type} {r : β → γ → Prop} {p : β → Prop} (hp : ∀ a b, r a b → p a)
    {l : List β} {l' : List γ} (h : List.Forall₂ r l l') : ∀ a ∈ l, p a :=
  ((List.forall₂_and_left l l').1 (h.imp fun a b hab => ⟨hp a b hab, hab⟩)).1

section Thorough

variable {read : Reader α} (hread : Thorough read)

include hread

theorem Thorough.optional : Thorough (optional read) := by
  intro depth t o h
  rcases optional_eq_ok_iff.1 h with ⟨rfl, -⟩ | ⟨-, a, ha, -⟩
  · rfl
  · exact hread ha

theorem Thorough.sequence : Thorough (sequence read) := by
  intro depth t as h
  obtain ⟨ts, rfl, -, has⟩ := sequence_eq_ok_iff.1 h
  exact Tree.whole_array.2 ⟨forall_mem_of_forall₂ (fun _ _ ha => hread ha) has, rfl⟩

theorem Thorough.dictionary : Thorough (dictionary read) := by
  intro depth t d h
  obtain ⟨ms, es, rfl, -, hes, -⟩ := dictionary_eq_ok_iff.1 h
  exact Tree.whole_object.2 ⟨forall_mem_of_forall₂ (fun _ _ h => ⟨wholeKey_of_memberKey h.1, hread h.2⟩) hes, rfl⟩

end Thorough

mutual

theorem whole_of_value : ∀ {depth : Nat} {t : Tree} {v : Value}, value depth t = .ok v → t.Whole
  | _, .null, _, _ => rfl
  | _, .bool _, _, _ => rfl
  | _, .number _, _, _ => rfl
  | _, .string s, _, h => by
    obtain ⟨_, htext, -⟩ := Outcome.bind_eq_ok_iff.1 h
    exact Tree.whole_string.2 (fault_of_literalText htext)
  | _, .array ts fault, _, h => by
    obtain ⟨-, rfl, vs, hvs, -⟩ := value_array_eq_ok_iff.1 h
    exact Tree.whole_array.2 ⟨whole_of_values hvs, rfl⟩
  | _, .object ms fault, _, h => by
    obtain ⟨-, rfl, vs, hvs, -⟩ := value_object_eq_ok_iff.1 h
    exact Tree.whole_object.2 ⟨whole_of_memberValues hvs, rfl⟩

theorem whole_of_values : ∀ {depth : Nat} {ts : List Tree} {vs : List Value}, ItemsRead (value depth) ts vs →
    ∀ t ∈ ts, t.Whole
  | _, [], _, _ => List.forall_mem_nil _
  | _, _ :: _, _, .cons h hs => List.forall_mem_cons.2 ⟨whole_of_value h, whole_of_values hs⟩

theorem whole_of_memberValues : ∀ {depth : Nat} {ms : List (Tree × Tree)} {vs : List (String × Value)},
    MembersRead (value depth) ms vs → ∀ m ∈ ms, m.1.WholeKey ∧ m.2.Whole
  | _, [], _, _ => List.forall_mem_nil _
  | _, (_, _) :: _, _, .cons h hs =>
    List.forall_mem_cons.2 ⟨⟨wholeKey_of_memberKey h.1, whole_of_value h.2⟩, whole_of_memberValues hs⟩

end

theorem thorough_value : Thorough value := fun _ _ _ => whole_of_value

end SchemaClasses.Json
