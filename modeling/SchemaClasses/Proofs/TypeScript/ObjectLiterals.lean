import Mathlib.Data.Finset.Card
import Mathlib.Data.List.Induction
import SchemaClasses.Proofs.Ordered.Lookup
import SchemaClasses.TypeScript.Decorator

/-!
# Object literals and their histories

An object literal is what its history has made of the empty one: each entry of the history gives a value to a key. A new
key comes behind all others, and an old one keeps its place (`Follows.concat`), so the keys stand in the order in which
the history first has them (`ObjectLiteral.follows_ofList`). A key holds the value that it was given last
(`ObjectLiteral.get?_ofList_eq_some_iff`). Entries, look-up, size and code all tell this
(`ObjectLiteral.ofList_ordered`).
-/

namespace SchemaClasses.TypeScript

/-! ## Keys in order -/

/-- Keys that are those of a history, in the order in which the history first has them. -/
structure Follows (keys history : List String) : Prop where
  mem_iff (k : String) : k ∈ keys ↔ k ∈ history
  ordered : keys.Pairwise fun j k => history.idxOf j < history.idxOf k

namespace Follows

variable {keys history : List String}

theorem nil : Follows [] [] := ⟨fun _ => Iff.rfl, .nil⟩

/-- Keys in order do not repeat. -/
theorem nodup (h : Follows keys history) : keys.Nodup := by
  refine h.ordered.imp fun hlt heq => ?_
  rw [heq] at hlt
  exact Nat.lt_irrefl _ hlt

/-- There are as many keys as the history has distinct ones. -/
theorem length_eq (h : Follows keys history) : keys.length = history.toFinset.card := by
  have hsame : keys.toFinset = history.toFinset := by
    ext k
    rw [List.mem_toFinset, List.mem_toFinset, h.mem_iff]
  rw [← hsame, List.toFinset_card_of_nodup h.nodup]

/-- One more key comes behind all others if it is new, and changes nothing if it is not. -/
theorem concat (h : Follows keys history) (k : String) :
    Follows (if k ∈ keys then keys else keys ++ [k]) (history ++ [k]) := by
  -- Where the history has a key first does not change.
  have hstays : ∀ {j}, j ∈ keys → (history ++ [k]).idxOf j = history.idxOf j := fun hj =>
    List.idxOf_append_of_mem ((h.mem_iff _).1 hj)
  have hordered : keys.Pairwise fun i j => (history ++ [k]).idxOf i < (history ++ [k]).idxOf j := by
    refine h.ordered.imp_of_mem fun hi hj hlt => ?_
    rw [hstays hi, hstays hj]
    exact hlt
  split
  case isTrue hk =>
    refine ⟨fun j => ?_, hordered⟩
    have hlast : j = k → j ∈ history := fun hj => (h.mem_iff j).1 (hj ▸ hk)
    rw [h.mem_iff, List.mem_append, List.mem_singleton, or_iff_left_of_imp hlast]
  case isFalse hk =>
    refine ⟨fun j => ?_, List.pairwise_append.2 ⟨hordered, List.pairwise_singleton _ _, fun j hj i hi => ?_⟩⟩
    · rw [List.mem_append, List.mem_append, h.mem_iff]
    · obtain rfl := List.mem_singleton.1 hi
      have hnew : i ∉ history := fun hmem => hk ((h.mem_iff i).2 hmem)
      calc (history ++ [i]).idxOf j
        _ = history.idxOf j := hstays hj
        _ < history.length := List.idxOf_lt_length_of_mem ((h.mem_iff j).1 hj)
        _ ≤ (history ++ [i]).idxOf i := by rw [List.idxOf_append_of_notMem hnew]; exact Nat.le_add_right _ _

end Follows

namespace ObjectLiteral

variable {history : List (String × Expression)} {k : String} {x : Expression}

/-! ## Histories -/

/-- The last entry of a history is set in what the others have made. -/
theorem ofList_concat (history : List (String × Expression)) (e : String × Expression) :
    ofList (history ++ [e]) = (ofList history).set e.1 e.2 := List.foldl_append

/-- A key that is set follows the history with it. -/
theorem follows_set {o : ObjectLiteral} {keys : List String} (h : Follows o.keys keys) (k : String) (x : Expression) :
    Follows (OrderedMap.set o k x).keys (keys ++ [k]) := by
  rw [OrderedMap.set, OrderedMap.keys_alter]
  exact h.concat k

/-- After any history the keys stand in the order in which it first has them. -/
theorem follows_ofList (history : List (String × Expression)) :
    Follows (ofList history).keys (history.map Prod.fst) := by
  -- By induction from the end, where each entry is one more step.
  induction history using List.reverseRecOn with
  | nil => exact .nil
  | append_singleton history e ih =>
    rw [ofList_concat, List.map_append]
    exact follows_set ih e.1 e.2

/-- What a key of an object literal holds was the last to be set. -/
theorem get?_ofList (history : List (String × Expression)) (k : String) :
    (ofList history).get? k = history.reverse.lookup k := by
  induction history using List.reverseRecOn with
  | nil => rfl
  | append_singleton history e ih =>
    rw [ofList_concat, OrderedMap.set, OrderedMap.get?_alter, ih, List.reverse_concat, List.lookup_cons]
    by_cases h : k = e.1
    · rw [if_pos h, h, beq_self_eq_true]
    · rw [if_neg h, beq_false_of_ne h]

/-- A history gives a value to a key, and none behind it. -/
def LastGiven (history : List (String × Expression)) (k : String) (x : Expression) : Prop :=
  ∃ before after, history = before ++ (k, x) :: after ∧ k ∉ after.map Prod.fst

theorem not_mem_keys_iff : k ∉ history.map Prod.fst ↔ ∀ e ∈ history, (k != e.1) = true := by
  simp only [bne_iff_ne, List.mem_map, not_exists, not_and]
  exact forall₂_congr fun e _ => ne_comm

/-- What a key holds is what the history gave it last. -/
theorem get?_ofList_eq_some_iff : (ofList history).get? k = some x ↔ LastGiven history k x := by
  rw [get?_ofList, List.lookup_eq_some_iff]
  constructor
  · rintro ⟨after, before, hhistory, hafter⟩
    rw [List.reverse_eq_append_iff, List.reverse_cons, List.append_assoc] at hhistory
    exact ⟨_, _, hhistory, not_mem_keys_iff.2 fun e he => hafter e (List.mem_reverse.1 he)⟩
  · rintro ⟨before, after, rfl, hafter⟩
    refine ⟨after.reverse, before.reverse, ?_, fun e he => not_mem_keys_iff.1 hafter e (List.mem_reverse.1 he)⟩
    rw [List.reverse_append, List.reverse_cons, List.append_assoc]
    rfl

/-- Just the keys of a history hold a value. -/
theorem get?_ofList_eq_none_iff : (ofList history).get? k = none ↔ k ∉ history.map Prod.fst := by
  rw [OrderedMap.get?, List.lookup_eq_none_iff, ← not_mem_keys_iff, ← (follows_ofList history).mem_iff]
  rfl

/-- An object literal holds an entry just where the history gave it last. -/
theorem mem_entries_ofList_iff : (k, x) ∈ (ofList history).entries ↔ LastGiven history k x := by
  rw [OrderedMap.mem_entries_iff, get?_ofList_eq_some_iff]

theorem entries_ofList_eq_nil_iff : (ofList history).entries = [] ↔ history = [] := by
  rw [← List.map_eq_nil_iff (f := Prod.fst), ← List.map_eq_nil_iff (f := Prod.fst) (l := history),
    List.eq_nil_iff_forall_not_mem, List.eq_nil_iff_forall_not_mem]
  exact forall_congr' fun k => not_congr ((follows_ofList history).mem_iff k)

/-- The code of an object literal lists its entries. -/
theorem render_eq (o : ObjectLiteral) : o.render = if o.entries = [] then "\x7b\x7d" else
    "\x7b " ++ ", ".intercalate (o.entries.map fun e => e.1 ++ ": " ++ e.2.render) ++ " \x7d" := by
  simp only [render, List.isEmpty_iff]
  rfl

/-- **Object literals keep their order**: after any history of the empty object literal its keys are those of the
history, each once and in the order in which they were first given; a key holds the value it was given last, or none if
it was given none; the size is the number of distinct keys; and the code lists each key once, in this order, with the
value it holds. -/
theorem ofList_ordered (history : List (String × Expression)) :
    (ofList history).keys.Nodup ∧
    (∀ k, k ∈ (ofList history).keys ↔ k ∈ history.map Prod.fst) ∧
    ((ofList history).keys.Pairwise fun j k => (history.map Prod.fst).idxOf j < (history.map Prod.fst).idxOf k) ∧
    (∀ k x, (ofList history).get? k = some x ↔ LastGiven history k x) ∧
    (∀ k, (ofList history).get? k = none ↔ k ∉ history.map Prod.fst) ∧
    (ofList history).size = (history.map Prod.fst).toFinset.card ∧
    ∃ es : List (String × Expression), es.map Prod.fst = (ofList history).keys ∧
      (∀ e ∈ es, LastGiven history e.1 e.2) ∧
      (ofList history).render = if history = [] then "\x7b\x7d" else
        "\x7b " ++ ", ".intercalate (es.map fun e => e.1 ++ ": " ++ e.2.render) ++ " \x7d" := by
  have hfollows := follows_ofList history
  have hsize : (ofList history).size = (ofList history).keys.length := (List.length_map ..).symm
  refine ⟨hfollows.nodup, hfollows.mem_iff, hfollows.ordered, fun k x => get?_ofList_eq_some_iff,
    fun k => get?_ofList_eq_none_iff, hsize.trans hfollows.length_eq, (ofList history).entries, rfl, fun e he => ?_, ?_⟩
  · exact mem_entries_ofList_iff.1 he
  · rw [render_eq, if_congr entries_ofList_eq_nil_iff rfl rfl]

/-- A key that is set again keeps its place. -/
example : (ofList [("type", .code "Number"), ("isArray", .flag true), ("type", .thunk "User")]).render =
    "\x7b type: () => User, isArray: true \x7d" := by decide

end ObjectLiteral
end SchemaClasses.TypeScript
