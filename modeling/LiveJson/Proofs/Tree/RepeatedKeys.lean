import LiveJson.Proofs.Json.Bounds
import LiveJson.Proofs.Json.Faults
import LiveJson.Proofs.Json.Unambiguity
import LiveJson.Proofs.Tree.Nodes
import Mathlib.Data.List.Induction

/-!
# Repeated keys

A map may be written with several members under one key, and keys that are written differently may be
one key when their escapes are resolved.  In the document that is read, each key has one member: it
stands where the key came first, and holds what was written last.

## What is here

* `FirstPlaces`, `LastUnder` — the places that keys came first, and the value written last under a key.
* `Settles` — what is left of a written document when this is done to every map in it.
* `Members.firstPlaces_unique`, `Members.get?_unique_of_lastUnder` — `Members.unique` does it to one map,
  taking in one member after another.
* `check_settles` — **what is read from a text is what the written document settles to,** and there every
  path leads to its node.
-/

set_option autoImplicit false

namespace LiveJson.Json

/-! ## What is to be left -/

/-- The keys that are left are those that were written, each once, in the order in which they came
first. -/
structure FirstPlaces (written left : List String) : Prop where
  nodup : left.Nodup
  mem_iff : ∀ key, key ∈ left ↔ key ∈ written
  pairwise : left.Pairwise fun k l => written.idxOf k < written.idxOf l

/-- The value was written under the key, and none behind it. -/
def LastUnder (members : Members) (key : String) (w : Value) : Prop :=
  ∃ before after, members = before ++ (key, w) :: after ∧ key ∉ after.map Prod.fst

/-- **What a written document settles to:** scalars stay, lists settle item by item, and in a map the
keys keep their first places and have their last values, which settle in turn. -/
inductive Settles : Value → Value → Prop
  | scalar (v : Scalar) : Settles v.toValue v.toValue
  | list {items items' : List Value} : items.length = items'.length →
    (∀ (i : Nat) (w v : Value), items[i]? = some w → items'[i]? = some v → Settles w v) →
    Settles (.list items) (.list items')
  | map {members members' : Members} :
    FirstPlaces (members.map Prod.fst) (members'.map Prod.fst) →
    (∀ m w, m ∈ members' → LastUnder members m.1 w → Settles w m.2) →
    Settles (.map members) (.map members')

/-! ## One map -/

/-- One more key is left at the end, unless it came before. -/
theorem FirstPlaces.append_singleton {written left : List String} (h : FirstPlaces written left)
    (key : String) :
    FirstPlaces (written ++ [key]) (if key ∈ left then left else left ++ [key]) := by
  have hidx : ∀ k ∈ left, (written ++ [key]).idxOf k = written.idxOf k :=
    fun k hk => List.idxOf_append_of_mem ((h.mem_iff k).1 hk)
  have hpairwise : left.Pairwise fun k l =>
      (written ++ [key]).idxOf k < (written ++ [key]).idxOf l :=
    h.pairwise.imp_of_mem fun hk hl hlt => by rwa [hidx _ hk, hidx _ hl]
  split
  · next hmem =>
    refine ⟨h.nodup, fun k => ?_, hpairwise⟩
    rw [h.mem_iff, List.mem_append, List.mem_singleton]
    exact ⟨.inl, fun hk => hk.elim id fun heq => heq ▸ (h.mem_iff key).1 hmem⟩
  · next hmem =>
    have hwritten : key ∉ written := fun hkey => hmem ((h.mem_iff key).2 hkey)
    refine ⟨List.nodup_append.2 ⟨h.nodup, List.nodup_singleton key, ?_⟩, fun k => ?_,
      List.pairwise_append.2 ⟨hpairwise, List.pairwise_singleton .., ?_⟩⟩
    · intro k hk l hl
      rw [List.mem_singleton.1 hl]
      exact ne_of_mem_of_not_mem hk hmem
    · rw [List.mem_append, List.mem_append, h.mem_iff]
    · intro k hk l hl
      obtain rfl := List.mem_singleton.1 hl
      rw [hidx k hk, List.idxOf_append_of_notMem hwritten]
      exact Nat.lt_of_lt_of_le (List.idxOf_lt_length_of_mem ((h.mem_iff k).1 hk))
        (Nat.le_add_right ..)

namespace Members

/-- One more member is put among those that are left. -/
theorem unique_append_singleton (members : Members) (m : String × Value) :
    Members.unique (members ++ [m]) = members.unique.put m.1 m.2 := by
  rw [unique, List.foldl_append]
  rfl

/-- **The keys that are left have their first places.** -/
theorem firstPlaces_unique (members : Members) :
    FirstPlaces (members.map Prod.fst) (members.unique.map Prod.fst) := by
  induction members using List.reverseRecOn with
  | nil => exact ⟨.nil, fun _ => .rfl, .nil⟩
  | append_singleton front m ih =>
    rw [unique_append_singleton, keys_put, List.map_append]
    exact ih.append_singleton m.1

/-- Members under other keys leave the value under a key as it is. -/
theorem get?_foldl_put_of_notMem {acc members : Members} {key : String}
    (h : key ∉ members.map Prod.fst) :
    Members.get? key (members.foldl (fun ms m => Members.put ms m.1 m.2) acc) =
      Members.get? key acc := by
  induction members generalizing acc with
  | nil => rfl
  | cons m rest ih =>
    rw [List.map_cons, List.mem_cons, not_or] at h
    rw [List.foldl_cons, ih h.2, get?_put, if_neg h.1]

/-- **The value that is left under a key is the last one.** -/
theorem get?_unique_of_lastUnder {members : Members} {key : String} {w : Value}
    (h : LastUnder members key w) : members.unique.get? key = some w := by
  obtain ⟨before, after, rfl, hafter⟩ := h
  rw [unique, List.foldl_append, List.foldl_cons, get?_foldl_put_of_notMem hafter, get?_put,
    if_pos rfl]

end Members

/-! ## Documents -/

theorem LastUnder.map {members : Members} {key : String} {w : Value} (h : LastUnder members key w)
    (f : Value → Value) : LastUnder (members.map fun m => (m.1, f m.2)) key (f w) := by
  obtain ⟨before, after, rfl, hafter⟩ := h
  refine ⟨before.map fun m => (m.1, f m.2), after.map fun m => (m.1, f m.2), by simp, ?_⟩
  rwa [List.map_map]

theorem LastUnder.mem {members : Members} {key : String} {w : Value} (h : LastUnder members key w) :
    (key, w) ∈ members := by
  obtain ⟨before, after, rfl, -⟩ := h
  exact List.mem_append_right before List.mem_cons_self

/-- **`Value.unique` settles a document.** -/
theorem settles_unique (w : Value) : Settles w w.unique := by
  induction w using Value.induct with
  | null => exact .scalar .null
  | bool b => exact .scalar (.bool b)
  | number n => exact .scalar (.number n)
  | string s => exact .scalar (.string s)
  | list items ih =>
    rw [Value.unique, uniqueItems_eq_map]
    refine .list (List.length_map ..).symm fun i w v hw hv => ?_
    rw [List.getElem?_map, hw] at hv
    cases hv
    exact ih w (List.mem_of_getElem? hw)
  | map members ih =>
    rw [Value.unique, uniqueMembers_eq_map]
    have hplaces := Members.firstPlaces_unique (members.map fun m => (m.1, m.2.unique))
    refine .map (by rwa [List.map_map] at hplaces) fun m w hm hlast => ?_
    have hvalue := Members.get?_unique_of_lastUnder (hlast.map Value.unique)
    rw [Tree.get?_of_mem hplaces.nodup hm] at hvalue
    rw [Option.some.inj hvalue]
    exact ih (m.1, w) hlast.mem

end LiveJson.Json

namespace LiveJson.Tree

open Json

/-- **Repeated keys.**  A text that is read is a way to write one document, with every member that is
written; and what is read is what that document settles to.  In every map of it, at any depth, each key
stands where it came first and holds what was written last, and has no second member.  So every node is
found at its path, as far as positions fit into 64 bits. -/
theorem check_settles {text : String} {v : Value} (h : check text = .ok v) :
    ∃ w, ElementText text.toList w ∧ (∀ w', ElementText text.toList w' → w' = w) ∧
      Settles w v ∧ v.UniqueKeys ∧
      (text.length < UInt64.size → ∀ p u, Node v p u → p.resolve? v = some u) := by
  have hread := check_eq_ok_iff.1 h
  obtain ⟨hfits, hkeys⟩ := readDocument_fits hread
  rw [readDocument] at hread
  cases hmembers : readMembers text.toList with
  | error fault => rw [hmembers] at hread; cases hread
  | ok w =>
    rw [hmembers] at hread
    cases hread
    refine ⟨w, elementText_of_readMembers hmembers, fun w' hw' => eq_of_elementText hmembers hw',
      settles_unique w, hkeys, fun hlength p u hnode => ?_⟩
    exact hnode.resolve?_eq hkeys hfits.lists (Nat.le_of_lt hlength)

/-- Two keys of two maps are repeated, each time with an escape in one of the spellings. -/
theorem check_settles_escaped_key :
    ∃ v w, check ("\x7b\"a\":1,\"b\":[\x7b\"x\":1,\"y\":[],\"\\u0078\":null\x7d]," ++
        "\"\\u0061\":\"é\"\x7d") = .ok v ∧
      (v == .map [("a", .string "é"), ("b", .list [.map [("x", .null), ("y", .list [])]])]) = true ∧
      Settles w v ∧ ∀ p u, Node v p u → p.resolve? v = some u := by
  have htest : (check ("\x7b\"a\":1,\"b\":[\x7b\"x\":1,\"y\":[],\"\\u0078\":null\x7d]," ++
      "\"\\u0061\":\"é\"\x7d")).toOption.any (fun v =>
        v == .map [("a", .string "é"), ("b", .list [.map [("x", .null), ("y", .list [])]])]) = true := by
    decide +kernel
  obtain ⟨v, hread, hvalue⟩ := exists_check_eq_ok htest
  obtain ⟨w, -, -, hsettles, -, hresolve⟩ := check_settles hread
  exact ⟨v, w, hread, hvalue, hsettles, hresolve (by decide)⟩

end LiveJson.Tree
