import LiveJson.Json.Document
import LiveJson.Json.Value

/-!
# What holds throughout a value

## What is here

* `Value.induct` — induction on values, in which a container may use the statement for each of its
  children.  `Value` is nested in lists, so its recursor speaks of lists and pairs as well.
* `Value.everywhere` — a test that a value and everything in it passes.  Three properties are such
  tests: `Value.FloatFree`, `Value.UniqueKeys` and `Value.ListsWithin`.
* `Value.height` — how deeply containers are nested.
* `Value.uniqueKeys_unique`, `Value.unique_eq_self` — leaving one member for each key gives a value
  with unique keys, and changes no value that has them already.  It neither nests deeper
  (`Value.height_unique_add_le`) nor lengthens lists (`Value.listsWithin_unique`).
-/

set_option autoImplicit false

namespace LiveJson.Json

/-! ## Induction -/

/-- Induction on values: a container may use what is claimed of its children. -/
@[elab_as_elim]
theorem Value.induct {motive : Value → Prop} (null : motive .null) (bool : ∀ b, motive (.bool b))
    (number : ∀ n, motive (.number n)) (string : ∀ s, motive (.string s))
    (list : ∀ items, (∀ v ∈ items, motive v) → motive (.list items))
    (map : ∀ members : Members, (∀ m ∈ members, motive m.2) → motive (.map members))
    (v : Value) : motive v :=
  @Value.rec motive (fun items => ∀ v ∈ items, motive v)
    (fun members => ∀ m ∈ members, motive m.2) (fun m => motive m.2)
    null bool number string list map
    (fun _ h => nomatch h)
    (fun _ _ hv hrest => List.forall_mem_cons.2 ⟨hv, hrest⟩)
    (fun _ h => nomatch h)
    (fun _ _ hm hrest => List.forall_mem_cons.2 ⟨hm, hrest⟩)
    (fun _ _ hv => hv) v

/-! ## Tests that hold everywhere -/

mutual
/-- Whether a value and everything in it passes a test. -/
def Value.everywhere (p : Value → Bool) : Value → Bool
  | .list items => p (.list items) && everywhereItems p items
  | .map members => p (.map members) && everywhereMembers p members
  | v => p v

/-- `Value.everywhere` of every item. -/
def everywhereItems (p : Value → Bool) : List Value → Bool
  | [] => true
  | v :: rest => v.everywhere p && everywhereItems p rest

/-- `Value.everywhere` of every member. -/
def everywhereMembers (p : Value → Bool) : List (String × Value) → Bool
  | [] => true
  | (_, v) :: rest => v.everywhere p && everywhereMembers p rest
end

section
variable {p q : Value → Bool}

theorem everywhereItems_iff {items : List Value} :
    everywhereItems p items = true ↔ ∀ v ∈ items, v.everywhere p = true := by
  induction items with
  | nil => simp [everywhereItems]
  | cons v rest ih => simp [everywhereItems, ih]

theorem everywhereMembers_iff {members : Members} :
    everywhereMembers p members = true ↔ ∀ m ∈ members, m.2.everywhere p = true := by
  induction members with
  | nil => simp [everywhereMembers]
  | cons m rest ih => simp [everywhereMembers, ih]

theorem Value.everywhere_list {items : List Value} :
    (Value.list items).everywhere p = true ↔
      p (.list items) = true ∧ ∀ v ∈ items, v.everywhere p = true := by
  rw [Value.everywhere, Bool.and_eq_true, everywhereItems_iff]

theorem Value.everywhere_map {members : Members} :
    (Value.map members).everywhere p = true ↔
      p (.map members) = true ∧ ∀ m ∈ members, m.2.everywhere p = true := by
  rw [Value.everywhere, Bool.and_eq_true, everywhereMembers_iff]

/-- A weaker test is passed everywhere as well. -/
theorem Value.everywhere_mono (hpq : ∀ v, p v = true → q v = true) {v : Value}
    (h : v.everywhere p = true) : v.everywhere q = true := by
  induction v using Value.induct with
  | list items ih =>
    obtain ⟨hp, hitems⟩ := everywhere_list.1 h
    exact everywhere_list.2 ⟨hpq _ hp, fun v hv => ih v hv (hitems v hv)⟩
  | map members ih =>
    obtain ⟨hp, hmembers⟩ := everywhere_map.1 h
    exact everywhere_map.2 ⟨hpq _ hp, fun m hm => ih m hm (hmembers m hm)⟩
  | _ => exact hpq _ h

end

/-- The value holds no double, at any depth. -/
def Value.FloatFree (v : Value) : Prop :=
  v.everywhere (fun | .number n => !n.isFloat | _ => true) = true

/-- In every map, at any depth, each key has one member. -/
def Value.UniqueKeys (v : Value) : Prop :=
  v.everywhere (fun | .map members => decide (members.map Prod.fst).Nodup | _ => true) = true

/-- No list, at any depth, has more than `n` items. -/
def Value.ListsWithin (n : Nat) (v : Value) : Prop :=
  v.everywhere (fun | .list items => decide (items.length ≤ n) | _ => true) = true

instance (v : Value) : Decidable v.FloatFree := inferInstanceAs (Decidable (_ = _))
instance (v : Value) : Decidable v.UniqueKeys := inferInstanceAs (Decidable (_ = _))
instance (n : Nat) (v : Value) : Decidable (v.ListsWithin n) := inferInstanceAs (Decidable (_ = _))

theorem Value.floatFree_list {items : List Value} :
    (Value.list items).FloatFree ↔ ∀ v ∈ items, v.FloatFree := by
  simp [FloatFree, everywhere_list]

theorem Value.floatFree_map {members : Members} :
    (Value.map members).FloatFree ↔ ∀ m ∈ members, m.2.FloatFree := by
  simp [FloatFree, everywhere_map]

theorem Value.uniqueKeys_list {items : List Value} :
    (Value.list items).UniqueKeys ↔ ∀ v ∈ items, v.UniqueKeys := by
  simp [UniqueKeys, everywhere_list]

theorem Value.uniqueKeys_map {members : Members} :
    (Value.map members).UniqueKeys ↔
      (members.map Prod.fst).Nodup ∧ ∀ m ∈ members, m.2.UniqueKeys := by
  simp [UniqueKeys, everywhere_map]

theorem Value.listsWithin_list {n : Nat} {items : List Value} :
    (Value.list items).ListsWithin n ↔ items.length ≤ n ∧ ∀ v ∈ items, v.ListsWithin n := by
  simp [ListsWithin, everywhere_list]

theorem Value.listsWithin_map {n : Nat} {members : Members} :
    (Value.map members).ListsWithin n ↔ ∀ m ∈ members, m.2.ListsWithin n := by
  simp [ListsWithin, everywhere_map]

theorem Value.ListsWithin.mono {m n : Nat} (hmn : m ≤ n) {v : Value} (h : v.ListsWithin m) :
    v.ListsWithin n := by
  refine everywhere_mono (fun v hv => ?_) h
  cases v with
  | list items => simpa using Nat.le_trans (by simpa using hv) hmn
  | _ => rfl

/-! ## Height -/

mutual
/-- How many containers are nested in one another. -/
def Value.height : Value → Nat
  | .list items => heightItems items + 1
  | .map members => heightMembers members + 1
  | _ => 0

/-- The greatest height of an item. -/
def heightItems : List Value → Nat
  | [] => 0
  | v :: rest => max v.height (heightItems rest)

/-- The greatest height of the value of a member. -/
def heightMembers : List (String × Value) → Nat
  | [] => 0
  | (_, v) :: rest => max v.height (heightMembers rest)
end

theorem heightItems_le_iff {items : List Value} {n : Nat} :
    heightItems items ≤ n ↔ ∀ v ∈ items, v.height ≤ n := by
  induction items with
  | nil => simp [heightItems]
  | cons v rest ih => rw [heightItems, Nat.max_le, ih, List.forall_mem_cons]

theorem heightMembers_le_iff {members : Members} {n : Nat} :
    heightMembers members ≤ n ↔ ∀ m ∈ members, m.2.height ≤ n := by
  induction members with
  | nil => simp [heightMembers]
  | cons m rest ih => rw [heightMembers, Nat.max_le, ih, List.forall_mem_cons]

/-- A list below `d` levels fits into `n` when there is a level for it and its items fit below. -/
theorem Value.height_list_add_le {items : List Value} {d n : Nat} :
    (Value.list items).height + d ≤ n ↔ d + 1 ≤ n ∧ ∀ v ∈ items, v.height + (d + 1) ≤ n := by
  rw [height, Nat.add_assoc, Nat.add_comm 1 d]
  constructor
  · intro h
    have hitems := heightItems_le_iff.1 (Nat.le_refl (heightItems items))
    exact ⟨by omega, fun v hv => Nat.le_trans (Nat.add_le_add_right (hitems v hv) _) h⟩
  · rintro ⟨hpos, h⟩
    have hitems : heightItems items ≤ n - (d + 1) :=
      heightItems_le_iff.2 fun v hv => Nat.le_sub_of_add_le (h v hv)
    omega

/-- A map below `d` levels fits into `n` when there is a level for it and its members fit below. -/
theorem Value.height_map_add_le {members : Members} {d n : Nat} :
    (Value.map members).height + d ≤ n ↔
      d + 1 ≤ n ∧ ∀ m ∈ members, m.2.height + (d + 1) ≤ n := by
  rw [height, Nat.add_assoc, Nat.add_comm 1 d]
  constructor
  · intro h
    have hmembers := heightMembers_le_iff.1 (Nat.le_refl (heightMembers members))
    exact ⟨by omega, fun m hm => Nat.le_trans (Nat.add_le_add_right (hmembers m hm) _) h⟩
  · rintro ⟨hpos, h⟩
    have hmembers : heightMembers members ≤ n - (d + 1) :=
      heightMembers_le_iff.2 fun m hm => Nat.le_sub_of_add_le (h m hm)
    omega

/-! ## Repeated keys -/

namespace Members

/-- Putting a value under a key adds the key at the end unless it is there. -/
theorem keys_put (members : Members) (key : String) (value : Value) :
    (members.put key value).map Prod.fst =
      if key ∈ members.map Prod.fst then members.map Prod.fst
      else members.map Prod.fst ++ [key] := by
  induction members with
  | nil => simp [put]
  | cons m rest ih =>
    obtain ⟨k, v⟩ := m
    by_cases hk : k = key
    · simp [put, hk]
    · by_cases hmem : key ∈ rest.map Prod.fst
      · simp only [put, if_neg hk, List.map_cons, ih, if_pos hmem, if_pos (List.mem_cons_of_mem k hmem)]
      · have hcons : key ∉ k :: rest.map Prod.fst := by
          simpa [Ne.symm hk] using hmem
        simp only [put, if_neg hk, List.map_cons, ih, if_neg hmem, if_neg hcons, List.cons_append]

theorem nodup_put {members : Members} (h : (members.map Prod.fst).Nodup) (key : String)
    (value : Value) : ((members.put key value).map Prod.fst).Nodup := by
  rw [keys_put]
  split
  · exact h
  · next hmem => exact List.nodup_append.2 ⟨h, by simp, by simpa using fun a ha => ne_of_mem_of_not_mem ha hmem⟩

/-- A new key goes to the end. -/
theorem put_of_notMem {members : Members} {key : String} (h : key ∉ members.map Prod.fst)
    (value : Value) : members.put key value = members ++ [(key, value)] := by
  induction members with
  | nil => rfl
  | cons m rest ih =>
    rw [List.map_cons, List.mem_cons, not_or] at h
    rw [put, if_neg (Ne.symm h.1), ih h.2, List.cons_append]

theorem mem_of_mem_put {members : Members} {key : String} {value : Value} {m : String × Value}
    (h : m ∈ members.put key value) : m ∈ members ∨ m = (key, value) := by
  induction members with
  | nil => simpa [put] using h
  | cons l rest ih =>
    rw [put] at h
    split at h
    · next hk =>
      subst hk
      rcases List.mem_cons.1 h with rfl | h
      · exact .inr rfl
      · exact .inl (List.mem_cons_of_mem _ h)
    · rcases List.mem_cons.1 h with rfl | h
      · exact .inl List.mem_cons_self
      · exact (ih h).imp_left (List.mem_cons_of_mem _)

/-- Members with a list of further ones put among them, as `unique` does from the left. -/
theorem nodup_foldl_put {acc : Members} (h : (acc.map Prod.fst).Nodup) (members : Members) :
    ((members.foldl (fun ms m => ms.put m.1 m.2) acc).map Prod.fst).Nodup := by
  induction members generalizing acc with
  | nil => exact h
  | cons m rest ih => exact ih (nodup_put h m.1 m.2)

theorem mem_of_mem_foldl_put {acc members : Members} {m : String × Value}
    (h : m ∈ members.foldl (fun ms m => ms.put m.1 m.2) acc) : m ∈ acc ∨ m ∈ members := by
  induction members generalizing acc with
  | nil => exact .inl h
  | cons l rest ih =>
    rcases ih h with h | h
    · exact (mem_of_mem_put h).imp_right fun (hl : m = l) => hl ▸ List.mem_cons_self
    · exact .inr (List.mem_cons_of_mem _ h)

theorem foldl_put_eq_append {acc members : Members} (h : ((acc ++ members).map Prod.fst).Nodup) :
    members.foldl (fun ms m => ms.put m.1 m.2) acc = acc ++ members := by
  induction members generalizing acc with
  | nil => exact (List.append_nil acc).symm
  | cons m rest ih =>
    have hm : m.1 ∉ acc.map Prod.fst := by
      rw [List.map_append, List.nodup_append] at h
      exact fun hmem => h.2.2 _ hmem _ List.mem_cons_self rfl
    rw [List.foldl_cons, put_of_notMem hm, ih (by simpa using h), List.append_assoc]
    rfl

/-- **Each key has one member left.** -/
theorem nodup_unique (members : Members) : (members.unique.map Prod.fst).Nodup :=
  nodup_foldl_put (by simp) members

/-- No member is made up: a value that is left was written under its key. -/
theorem mem_of_mem_unique {members : Members} {m : String × Value} (h : m ∈ members.unique) :
    m ∈ members :=
  (mem_of_mem_foldl_put h).resolve_left List.not_mem_nil

theorem unique_eq_self {members : Members} (h : (members.map Prod.fst).Nodup) :
    members.unique = members :=
  foldl_put_eq_append (by simpa using h)

end Members

theorem uniqueItems_eq_map (items : List Value) : uniqueItems items = items.map Value.unique := by
  induction items with
  | nil => rfl
  | cons v rest ih => rw [uniqueItems, ih, List.map_cons]

theorem uniqueMembers_eq_map (members : Members) :
    uniqueMembers members = members.map fun m => (m.1, m.2.unique) := by
  induction members with
  | nil => rfl
  | cons m rest ih => rw [uniqueMembers, ih, List.map_cons]

/-- A member that is left holds what some written member holds, made unique. -/
theorem exists_of_mem_unique_members {members : Members} {m : String × Value}
    (h : m ∈ Members.unique (uniqueMembers members)) : ∃ l ∈ members, m = (l.1, l.2.unique) := by
  rw [uniqueMembers_eq_map] at h
  obtain ⟨l, hl, rfl⟩ := List.mem_map.1 (Members.mem_of_mem_unique h)
  exact ⟨l, hl, rfl⟩

namespace Value

/-- **One member is left for each key of every map.** -/
theorem uniqueKeys_unique (v : Value) : v.unique.UniqueKeys := by
  induction v using Value.induct with
  | list items ih =>
    rw [unique, uniqueItems_eq_map, uniqueKeys_list]
    simpa using ih
  | map members ih =>
    rw [unique, uniqueKeys_map]
    refine ⟨Members.nodup_unique _, fun m hm => ?_⟩
    obtain ⟨l, hl, rfl⟩ := exists_of_mem_unique_members hm
    exact ih l hl
  | _ => rfl

/-- A value with unique keys stays as it is. -/
theorem unique_eq_self {v : Value} (h : v.UniqueKeys) : v.unique = v := by
  induction v using Value.induct with
  | list items ih =>
    rw [uniqueKeys_list] at h
    have hmap : items.map unique = items :=
      (List.map_congr_left fun v hv => ih v hv (h v hv)).trans (List.map_id items)
    rw [unique, uniqueItems_eq_map, hmap]
  | map members ih =>
    obtain ⟨hkeys, hmembers⟩ := uniqueKeys_map.1 h
    have hmap : members.map (fun m => (m.1, m.2.unique)) = members :=
      (List.map_congr_left fun m hm => by rw [ih m hm (hmembers m hm), id]).trans
        (List.map_id members)
    rw [unique, uniqueMembers_eq_map, hmap, Members.unique_eq_self hkeys]
  | _ => rfl

/-- Leaving out members does not nest deeper. -/
theorem height_unique_add_le {v : Value} {d n : Nat} (h : v.height + d ≤ n) :
    v.unique.height + d ≤ n := by
  induction v using Value.induct generalizing d with
  | list items ih =>
    obtain ⟨hpos, hitems⟩ := height_list_add_le.1 h
    rw [unique, uniqueItems_eq_map, height_list_add_le, List.forall_mem_map]
    exact ⟨hpos, fun v hv => ih v hv (hitems v hv)⟩
  | map members ih =>
    obtain ⟨hpos, hmembers⟩ := height_map_add_le.1 h
    rw [unique, height_map_add_le]
    refine ⟨hpos, fun m hm => ?_⟩
    obtain ⟨l, hl, rfl⟩ := exists_of_mem_unique_members hm
    exact ih l hl (hmembers l hl)
  | _ => exact h

/-- Leaving out members lengthens no list. -/
theorem listsWithin_unique {n : Nat} {v : Value} (h : v.ListsWithin n) :
    v.unique.ListsWithin n := by
  induction v using Value.induct with
  | list items ih =>
    obtain ⟨hlen, hitems⟩ := listsWithin_list.1 h
    rw [unique, uniqueItems_eq_map, listsWithin_list, List.length_map, List.forall_mem_map]
    exact ⟨hlen, fun v hv => ih v hv (hitems v hv)⟩
  | map members ih =>
    rw [listsWithin_map] at h
    rw [unique, listsWithin_map]
    intro m hm
    obtain ⟨l, hl, rfl⟩ := exists_of_mem_unique_members hm
    exact ih l hl (h l hl)
  | _ => exact h

end Value

end LiveJson.Json
