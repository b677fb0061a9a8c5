import Mathlib

/-!
# `Lib.OrdMap` — ordered maps that compute

Operations on `Std.ExtTreeMap` that the standard library defines by well-founded recursion, given here by
structural recursion over the entries so that closed terms evaluate, with their lookup lemmas.
-/

namespace OrdMap

open Std (ExtTreeMap)

variable {α β γ : Type} {cmp : α → α → Ordering} [Std.TransCmp cmp] [Std.LawfulEqCmp cmp]

omit [Std.LawfulEqCmp cmp] in
/-- The values are those of the entries, in key order. -/
theorem values_eq_map_toList (m : ExtTreeMap α β cmp) : m.values = m.toList.map Prod.snd := by
  obtain ⟨⟨q⟩⟩ := m
  induction q using Quot.ind with
  | mk t =>
      show t.inner.values = (Std.DTreeMap.Internal.Impl.Const.toList t.inner).map Prod.snd
      rw [Std.DTreeMap.Internal.Impl.values_eq_map_snd,
        Std.DTreeMap.Internal.Impl.Const.toList_eq_toListModel_map, List.map_map]
      rfl

theorem mem_values {m : ExtTreeMap α β cmp} {v : β} : v ∈ m.values ↔ ∃ k : α, m[k]? = some v := by
  simp [values_eq_map_toList, ExtTreeMap.mem_toList_iff_getElem?_eq_some]

/-- `map[k] = v` when there is a value, nothing otherwise. -/
def put (m : ExtTreeMap α γ cmp) (k : α) : Option γ → ExtTreeMap α γ cmp
  | none => m
  | some v => m.insert k v

theorem getElem?_put [DecidableEq α] (m : ExtTreeMap α γ cmp) (k : α) (o : Option γ) (k' : α) :
    (put m k o)[k']? = if k = k' then o.or m[k']? else m[k']? := by
  cases o with
  | none => simp [put]
  | some v => by_cases h : k = k' <;> simp [put, ExtTreeMap.getElem?_insert, h]

/-- Enter the values that `f` gives for a list of entries. -/
def putAll (f : α → β → Option γ) : List (α × β) → ExtTreeMap α γ cmp → ExtTreeMap α γ cmp
  | [], acc => acc
  | (k, v) :: rest, acc => putAll f rest (put acc k (f k v))

theorem getElem?_putAll [DecidableEq α] (f : α → β → Option γ) (entries : List (α × β))
    (acc : ExtTreeMap α γ cmp) (hnd : (entries.map Prod.fst).Nodup) (k : α) :
    (putAll f entries acc)[k]? =
      ((entries.find? fun e => e.1 = k).bind fun e => f k e.2).or acc[k]? := by
  induction entries generalizing acc with
  | nil => simp [putAll]
  | cons e rest ih =>
      obtain ⟨k₀, v⟩ := e
      rw [List.map_cons, List.nodup_cons] at hnd
      rw [putAll, ih _ hnd.2, getElem?_put]
      by_cases h : k₀ = k
      · -- the key is entered here and, the keys being distinct, in no later round
        subst h
        have hnone : (rest.find? fun e => e.1 = k₀) = none := by
          rw [List.find?_eq_none]
          intro e he hk
          exact hnd.1 (List.mem_map.mpr ⟨e, he, by simpa using hk⟩)
        simp [hnone]
      · simp [h]

/-- Looking a key up in the list of entries is looking it up in the map. -/
theorem find?_toList [DecidableEq α] (m : ExtTreeMap α β cmp) (k : α) :
    (m.toList.find? fun e => e.1 = k) = m[k]?.map fun v => (k, v) := by
  cases hfind : m.toList.find? fun e => e.1 = k with
  | some e =>
      have hk : e.1 = k := by simpa using List.find?_some hfind
      have hmem : (k, e.2) ∈ m.toList := by
        have := List.mem_of_find?_eq_some hfind
        rwa [← hk]
      rw [ExtTreeMap.mem_toList_iff_getElem?_eq_some] at hmem
      rw [hmem, Option.map_some, ← hk]
  | none =>
      have hnone : m[k]? = none := by
        by_contra hne
        obtain ⟨v, hv⟩ := Option.ne_none_iff_exists'.mp hne
        rw [← ExtTreeMap.mem_toList_iff_getElem?_eq_some] at hv
        have := List.find?_eq_none.mp hfind _ hv
        simp at this
      rw [hnone, Option.map_none]

omit [Std.LawfulEqCmp cmp] in
theorem nodup_toList_keys (m : ExtTreeMap α β cmp) : (m.toList.map Prod.fst).Nodup := by
  rw [ExtTreeMap.map_fst_toList_eq_keys]
  exact ExtTreeMap.nodup_keys

/-- Keep the entries on which `f` is defined, with the value it gives. -/
def mapMaybe (f : α → β → Option γ) (m : ExtTreeMap α β cmp) : ExtTreeMap α γ cmp :=
  putAll f m.toList ∅

theorem getElem?_mapMaybe [DecidableEq α] (f : α → β → Option γ) (m : ExtTreeMap α β cmp) (k : α) :
    (mapMaybe f m)[k]? = m[k]?.bind (f k) := by
  rw [mapMaybe, getElem?_putAll f m.toList ∅ (nodup_toList_keys m), find?_toList]
  cases m[k]? <;> simp

/-! ## Maps from entries -/

/-- Insert entries one after the other: of two entries with one key the later one stays. -/
def ofEntries (entries : List (α × β)) : ExtTreeMap α β cmp :=
  entries.foldl (fun m e => m.insert e.1 e.2) ∅

omit [Std.LawfulEqCmp cmp] in
theorem foldl_insert_eq_putAll (entries : List (α × β)) (acc : ExtTreeMap α β cmp) :
    entries.foldl (fun m e => m.insert e.1 e.2) acc = putAll (fun _ v => some v) entries acc := by
  induction entries generalizing acc with
  | nil => rfl
  | cons e rest ih => exact ih (acc.insert e.1 e.2)

/-- A map is rebuilt from its entries. -/
theorem ofEntries_toList [DecidableEq α] (m : ExtTreeMap α β cmp) : ofEntries m.toList = m := by
  rw [ofEntries, foldl_insert_eq_putAll]
  refine ExtTreeMap.ext_getElem? fun k => ?_
  have h := getElem?_mapMaybe (fun _ v => some v) m k
  rwa [Option.bind_fun_some, mapMaybe] at h

omit [Std.LawfulEqCmp cmp] in
theorem size_ofEntries_le (entries : List (α × β)) :
    (ofEntries entries : ExtTreeMap α β cmp).size ≤ entries.length := by
  suffices h : ∀ acc : ExtTreeMap α β cmp,
      (entries.foldl (fun m e => m.insert e.1 e.2) acc).size ≤ acc.size + entries.length by
    have hempty : (∅ : ExtTreeMap α β cmp).size = 0 := ExtTreeMap.size_empty
    have hsize := h ∅
    rwa [hempty, Nat.zero_add] at hsize
  induction entries with
  | nil => exact fun acc => Nat.le_refl _
  | cons e rest ih =>
      intro acc
      have hone : (acc.insert e.1 e.2).size ≤ acc.size + 1 := ExtTreeMap.size_insert_le
      have hrest := ih (acc.insert e.1 e.2)
      rw [List.foldl_cons, List.length_cons]
      omega

/-- Every entry of the map is one of the entries it was built from. -/
theorem mem_of_mem_ofEntries [DecidableEq α] {entries : List (α × β)} {e : α × β}
    (h : e ∈ (ofEntries entries : ExtTreeMap α β cmp).toList) : e ∈ entries := by
  suffices hfold : ∀ acc : ExtTreeMap α β cmp,
      e ∈ (entries.foldl (fun m e => m.insert e.1 e.2) acc).toList → e ∈ acc.toList ∨ e ∈ entries by
    refine (hfold ∅ h).resolve_left fun hmem => ?_
    have hnil : (∅ : ExtTreeMap α β cmp).toList = [] := ExtTreeMap.toList_eq_nil_iff.mpr rfl
    rw [hnil] at hmem
    exact List.not_mem_nil hmem
  clear h
  induction entries with
  | nil => exact fun acc h => .inl h
  | cons x rest ih =>
      intro acc h
      rcases ih _ h with hacc | hrest
      · rw [ExtTreeMap.mem_toList_iff_getElem?_eq_some, ExtTreeMap.getElem?_insert] at hacc
        by_cases hk : cmp x.1 e.1 = .eq
        · rw [if_pos hk] at hacc
          have hx : x = e := Prod.ext (Std.LawfulEqCmp.eq_of_compare hk) (Option.some.inj hacc)
          exact .inr (hx ▸ List.mem_cons_self)
        · rw [if_neg hk, ← ExtTreeMap.mem_toList_iff_getElem?_eq_some] at hacc
          exact .inl hacc
      · exact .inr (List.mem_cons_of_mem x hrest)

/-! ## Weights -/

/-- The sum of the weights of the values. -/
def weight (w : β → Nat) (m : ExtTreeMap α β cmp) : Nat := ((m.toList.map Prod.snd).map w).sum

omit [Std.LawfulEqCmp cmp] in
theorem weight_mono {w w' : β → Nat} (h : ∀ v, w v ≤ w' v) (m : ExtTreeMap α β cmp) :
    weight w m ≤ weight w' m :=
  List.sum_le_sum fun v _ => h v

omit [Std.LawfulEqCmp cmp] in
@[simp] theorem weight_empty (w : β → Nat) : weight w (∅ : ExtTreeMap α β cmp) = 0 := by
  have hnil : (∅ : ExtTreeMap α β cmp).toList = [] := ExtTreeMap.toList_eq_nil_iff.mpr rfl
  rw [weight, hnil]
  rfl

/-- The weight at one key. -/
def weightAt (w : β → Nat) (m : ExtTreeMap α β cmp) (k : α) : Nat := (m[k]?.map w).getD 0

/-- The weight of a map is a sum over any set of keys that holds all of its own. -/
theorem weight_eq_sum [DecidableEq α] (w : β → Nat) (m : ExtTreeMap α β cmp) (S : Finset α)
    (hS : ∀ k, m[k]?.isSome = true → k ∈ S) : weight w m = ∑ k ∈ S, weightAt w m k := by
  have hkeys : weight w m = ∑ k ∈ (m.toList.map Prod.fst).toFinset, weightAt w m k := by
    rw [List.sum_toFinset _ (nodup_toList_keys m), weight, List.map_map, List.map_map]
    refine congrArg List.sum (List.map_congr_left ?_)
    intro e he
    rw [ExtTreeMap.mem_toList_iff_getElem?_eq_some] at he
    simp [weightAt, he]
  rw [hkeys]
  refine Finset.sum_subset ?_ ?_
  · intro k hk
    obtain ⟨e, he, rfl⟩ := List.mem_map.mp (List.mem_toFinset.mp hk)
    rw [ExtTreeMap.mem_toList_iff_getElem?_eq_some] at he
    exact hS e.1 (by rw [he]; rfl)
  · intro k _ hk
    have hnone : m[k]? = none := by
      by_contra hne
      obtain ⟨v, hv⟩ := Option.ne_none_iff_exists'.mp hne
      rw [← ExtTreeMap.mem_toList_iff_getElem?_eq_some] at hv
      exact hk (List.mem_toFinset.mpr (List.mem_map.mpr ⟨(k, v), hv, rfl⟩))
    simp [weightAt, hnone]

/-- Two maps have a common set of keys to sum over, with any further key in it. -/
theorem exists_common_keys [DecidableEq α] (w : β → Nat) (m m' : ExtTreeMap α β cmp) (T : Finset α) :
    ∃ S : Finset α, T ⊆ S ∧ weight w m = ∑ k ∈ S, weightAt w m k ∧ weight w m' = ∑ k ∈ S, weightAt w m' k := by
  have hmem : ∀ (x : ExtTreeMap α β cmp) (k : α), x[k]?.isSome = true → k ∈ (x.toList.map Prod.fst).toFinset := by
    intro x k hk
    obtain ⟨v, hv⟩ := Option.isSome_iff_exists.mp hk
    rw [← ExtTreeMap.mem_toList_iff_getElem?_eq_some] at hv
    exact List.mem_toFinset.mpr (List.mem_map.mpr ⟨(k, v), hv, rfl⟩)
  refine ⟨T ∪ ((m.toList.map Prod.fst).toFinset ∪ (m'.toList.map Prod.fst).toFinset), Finset.subset_union_left,
    weight_eq_sum w m _ ?_, weight_eq_sum w m' _ ?_⟩
  · intro k hk
    exact Finset.mem_union_right _ (Finset.mem_union_left _ (hmem m k hk))
  · intro k hk
    exact Finset.mem_union_right _ (Finset.mem_union_right _ (hmem m' k hk))

/-- An inserted value adds at most its weight. -/
theorem weight_insert_le [DecidableEq α] (w : β → Nat) (m : ExtTreeMap α β cmp) (k : α) (v : β) :
    weight w (m.insert k v) ≤ weight w m + w v := by
  obtain ⟨S, hk, hm, hm'⟩ := exists_common_keys w m (m.insert k v) {k}
  have hat : ∀ j, weightAt w (m.insert k v) j ≤ weightAt w m j + if j = k then w v else 0 := by
    intro j
    by_cases hj : j = k
    · subst hj
      simp [weightAt]
    · have hne : k ≠ j := fun h => hj h.symm
      simp [weightAt, ExtTreeMap.getElem?_insert, hj, hne]
  calc weight w (m.insert k v) = ∑ j ∈ S, weightAt w (m.insert k v) j := hm'
    _ ≤ ∑ j ∈ S, (weightAt w m j + if j = k then w v else 0) := Finset.sum_le_sum fun j _ => hat j
    _ = weight w m + w v := by
        rw [Finset.sum_add_distrib, ← hm, Finset.sum_ite_eq' S k, if_pos (Finset.singleton_subset_iff.mp hk)]

/-- Rewriting values so that none gets heavier does not make the map heavier. -/
theorem weight_le_of_map [DecidableEq α] {w : β → Nat} {m m' : ExtTreeMap α β cmp} {f : α → β → β}
    (hf : ∀ k v, w (f k v) ≤ w v) (h : ∀ k : α, m'[k]? = m[k]?.map (f k)) : weight w m' ≤ weight w m := by
  obtain ⟨S, -, hm, hm'⟩ := exists_common_keys w m m' ∅
  rw [hm, hm']
  refine Finset.sum_le_sum fun k _ => ?_
  rw [weightAt, h k, weightAt]
  cases m[k]? with
  | none => simp
  | some v => simpa using hf k v

end OrdMap
