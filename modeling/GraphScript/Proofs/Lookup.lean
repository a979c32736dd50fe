import GraphScript.Attributes
import Mathlib.Data.List.Induction

/-!
# Names that stand for keys

A name stands for a key of a table if it is the key itself or its last parts.  Looking up a name and
asking for its key go through the keys each in their own way, and agree.  A key that comes later
stands behind all earlier ones, so it takes no name from them but its own.
-/

namespace GraphScript.Table

variable {table : Table α}

/-! ## Keys -/

/-- What a shortened name stands for depends on the keys only. -/
theorem resolve?_congr {second : Table β} (same : table.keys = second.keys) (name : String) :
    table.resolve? name = second.resolve? name := by
  simp only [resolve?, contains_eq, same]

theorem mem_keys_of_resolve? (found : table.resolve? name = some key) : key ∈ table.keys := by
  unfold resolve? at found
  split at found
  · next known =>
    cases found
    simpa [contains_eq] using known
  · exact List.mem_of_find?_eq_some found

theorem endsInName_iff : endsInName name key ↔ ∃ front : String, key = front ++ ("::" ++ name) := by
  rw [endsInName, List.isSuffixOf_iff_suffix]
  constructor
  · rintro ⟨front, same⟩
    exact ⟨String.ofList front, String.toList_injective (by simp [← same])⟩
  · rintro ⟨front, rfl⟩
    exact ⟨front.toList, by simp⟩

/-- A name can mean a key that is the name, or that ends in `::` and the name. -/
def Means (name key : String) : Prop := key = name ∨ ∃ front : String, key = front ++ ("::" ++ name)

theorem means_of_resolve? (found : table.resolve? name = some key) : Means name key := by
  unfold resolve? at found
  split at found
  · exact .inl (Option.some.inj found).symm
  · exact .inr (endsInName_iff.mp (List.find?_some found))

theorem not_means_of_resolve? (missing : table.resolve? name = none) (known : key ∈ table.keys) :
    ¬ Means name key := by
  unfold resolve? at missing
  split at missing
  · cases missing
  · next unknown =>
    rintro (rfl | ends)
    · exact unknown (by simpa [contains_eq] using known)
    · exact List.find?_eq_none.mp missing key known (endsInName_iff.mpr ends)

/-- A further key takes only its own name from the keys before it. -/
theorem resolve?_insert (found : table.resolve? name = some key) (other : name ≠ further)
    (new : α) : (table.insert further new).resolve? name = some key := by
  by_cases known : further ∈ table.keys
  · rw [← found]
    exact resolve?_congr (by rw [keys_insert, if_pos known]) name
  · rw [resolve?, contains_eq] at found ⊢
    rw [keys_insert, if_neg known]
    split at found
    · next first => rwa [if_pos (by simpa using .inl (by simpa using first))]
    · next last =>
      rw [if_neg (by simpa [other] using last), List.find?_append, found]
      rfl

/-! ## Values -/

theorem lookup?_eq (table : Table α) (name : String) :
    table.lookup? name = (table.resolve? name).bind table.get? := by
  unfold lookup? resolve?
  split <;> rfl

theorem lookup?_of_get? (found : table.get? name = some value) : table.lookup? name =
    some value := by
  have known : table.contains name = true := by
    simpa [contains_eq, found] using (isSome_get? table name).symm
  rw [lookup?, if_pos known, found]

/-- The value of a key is the one that was stored under it last. -/
theorem get?_ofList (inserted : List (String × α)) (key : String) :
    (ofList inserted).get? key = inserted.reverse.lookup key := by
  induction inserted using List.reverseRecOn with
  | nil => rfl
  | append_singleton earlier last ih =>
    have later : ofList (earlier ++ [last]) = (ofList earlier).insert last.1 last.2 := by
      simp [ofList, insertAll]
    rw [later, get?_insert, ih, List.reverse_concat, List.lookup_cons]
    by_cases same : key = last.1
    · simp [same]
    · rw [if_neg same, beq_eq_false_iff_ne.mpr same]

/-- The keys of a table are the names that were inserted. -/
theorem mem_keys_ofList (inserted : List (String × α)) (key : String) :
    key ∈ (ofList inserted).keys ↔ key ∈ inserted.map Prod.fst := by
  rw [← isSome_get?, get?_ofList, ← List.mem_reverse, ← List.map_reverse]
  exact isSome_get? ⟨inserted.reverse⟩ key

theorem demand_eq_ok_iff : table.demand name = .ok value ↔ table.lookup? name = some value := by
  unfold demand
  split <;> simp_all

/-- Whatever was inserted, a name is found exactly when it resolves to a key.  It does unless it can
mean none of them, and then the value is the one that was stored last under the key.  A further key
does not change what another name resolves to. -/
theorem demand_iff_resolves (inserted : List (String × α)) (name : String) :
    ((∃ value, (ofList inserted).demand name = .ok value) ↔ ∃ key, (ofList inserted).resolve? name =
      some key) ∧ (∀ key, (ofList inserted).resolve? name = some key → Means name key ∧
      ∃ value, (ofList inserted).demand name = .ok value ∧
        inserted.reverse.lookup key = some value) ∧
    ((ofList inserted).resolve? name = none → ∀ entry ∈ inserted, ¬ Means name entry.1) ∧
    ∀ key further new, (ofList inserted).resolve? name = some key → name ≠ further →
      ((ofList inserted).insert further new).resolve? name = some key := by
  have finds : ∀ key, (ofList inserted).resolve? name = some key → ∃ value,
      (ofList inserted).demand name = .ok value ∧ inserted.reverse.lookup key = some value := by
    intro key found
    obtain ⟨value, stored⟩ :=
      Option.isSome_iff_exists.mp ((isSome_get? ..).mpr (mem_keys_of_resolve? found))
    refine ⟨value, demand_eq_ok_iff.mpr ?_, get?_ofList inserted key ▸ stored⟩
    rw [lookup?_eq, found]
    exact stored
  refine ⟨⟨fun ⟨value, found⟩ => ?_, fun ⟨key, found⟩ => ?_⟩, fun key found => ?_,
    fun missing entry member => ?_, fun key further new found other =>
      resolve?_insert found other new⟩
  · rw [demand_eq_ok_iff, lookup?_eq] at found
    exact (Option.bind_eq_some_iff.mp found).imp fun _ => And.left
  · exact (finds key found).imp fun _ => And.left
  · exact ⟨means_of_resolve? found, finds key found⟩
  · exact not_means_of_resolve? missing ((mem_keys_ofList ..).mpr (List.mem_map_of_mem member))

theorem demand_iff_resolves_short :
    (ofList [("A::f", 1), ("B::f", 2), ("A::f", 3)]).demand "f" = .ok 3 ∧
      ((ofList [("A::f", 1), ("B::f", 2), ("A::f", 3)]).insert "C::f" 4).resolve? "f" =
        some "A::f" := by
  obtain ⟨-, finds, -, lasts⟩ := demand_iff_resolves [("A::f", 1), ("B::f", 2), ("A::f", 3)] "f"
  have found : (ofList [("A::f", 1), ("B::f", 2), ("A::f", 3)]).resolve? "f" = some "A::f" := by
    decide +kernel
  obtain ⟨-, value, demanded, stored⟩ := finds _ found
  obtain rfl : 3 = value := Option.some.inj (stored ▸ rfl)
  exact ⟨demanded, lasts _ _ _ found (by decide)⟩

end GraphScript.Table
