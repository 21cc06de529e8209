import Mathlib.Data.List.Nodup

/-!
# Python dictionaries

The namespace code builds its maps with `d[k] = v`, in loops and in comprehensions, reads them with
`d[k]` and `d.get(k)`, and iterates `d.items()`. Which of several entries for one key survives, and
in which order the keys come back, is decided by two rules of Python's `dict`: an assignment to a key
already present overwrites its value in place, and a new key goes to the end.

* `PyDict K V` : the entries in insertion order, no key twice (a field);
* `insert` : `d[k] = v`; `get?` : `d.get(k)`, `none` exactly where `d[k]` raises `KeyError`;
  `get?_eq_some_iff` : a lookup finds an entry; `get?_insert`, `keys_insert`;
* `ofList l` : `{k: v for k, v in l}`; `get?_ofList` : the last entry of each key wins;
  `get?_ofList_of_unique` : a key whose entries all carry one value gets it, `get?_ofList_map` : so
  does each key of a comprehension with an injective key; `items_ofList` : without repeated keys the
  comprehension keeps `l`;
* `invert` : `{v: k for k, v in d.items()}`, read back by `get?_invert` and, for a `d` without
  repeated values, `get?_invert_of_nodup`; `get?_invert_eq` : it keeps the last key of each value;
* `LastWith` : the key `invert` picks for a value, followed through assignments (`LastWith.insert`);
  `get?_invert_ofList` : which key a comprehension's inversion picks when values repeat.
-/

namespace Sdc11073

set_option autoImplicit false

/-- A Python `dict`: its entries in insertion order, no key twice. -/
structure PyDict (K V : Type) where
  items : List (K × V)
  nodup : (items.map Prod.fst).Nodup

namespace PyDict

variable {K V : Type}

/-- `d.keys()`. -/
def keys (d : PyDict K V) : List K := d.items.map Prod.fst

/-- `d.values()`. -/
def values (d : PyDict K V) : List V := d.items.map Prod.snd

/-- `{}`. -/
def empty : PyDict K V := ⟨[], List.nodup_nil⟩

theorem mem_keys {d : PyDict K V} {k : K} : k ∈ d.keys ↔ ∃ v, (k, v) ∈ d.items := by
  simp [keys]

variable [DecidableEq K]

/-- `d.get(k)`; `none` is where `d[k]` raises `KeyError`. -/
def get? (d : PyDict K V) (k : K) : Option V :=
  (d.items.find? fun e => decide (e.1 = k)).map Prod.snd

theorem map_fst_overwrite (l : List (K × V)) (k : K) (v : V) :
    (l.map fun e => if e.1 = k then (k, v) else e).map Prod.fst = l.map Prod.fst := by
  simp only [List.map_map]
  exact List.map_congr_left fun e _ => by by_cases h : e.1 = k <;> simp [h]

/-- `d[k] = v`: a key already present keeps its place, a new one goes last. -/
def insert (d : PyDict K V) (k : K) (v : V) : PyDict K V :=
  if h : k ∈ d.keys then
    ⟨d.items.map (fun e => if e.1 = k then (k, v) else e), by rw [map_fst_overwrite]; exact d.nodup⟩
  else
    ⟨d.items ++ [(k, v)], by
      rw [List.map_append]
      exact d.nodup.append (List.nodup_singleton _) (by simpa [keys] using h)⟩

/-- `{k: v for k, v in l}`: the entries of `l` assigned one after the other. -/
def ofList (l : List (K × V)) : PyDict K V := l.foldl (fun d e => d.insert e.1 e.2) empty

/-- `{v: k for k, v in d.items()}`. -/
def invert [DecidableEq V] (d : PyDict K V) : PyDict V K := ofList (d.items.map Prod.swap)

/-! ## Lookups -/

theorem get?_eq_some_iff {d : PyDict K V} {k : K} {v : V} : d.get? k = some v ↔ (k, v) ∈ d.items := by
  constructor
  · intro h
    obtain ⟨e, he, rfl⟩ := Option.map_eq_some'.mp h
    have hk : e.1 = k := by simpa using List.find?_some he
    exact hk ▸ List.mem_of_find?_eq_some he
  · intro h
    obtain ⟨e, he⟩ := Option.isSome_iff_exists.mp
      (List.find?_isSome.mpr ⟨(k, v), h, by simp⟩ : (d.items.find? fun e => decide (e.1 = k)).isSome)
    have hk : e.1 = k := by simpa using List.find?_some he
    have : e = (k, v) := List.inj_on_of_nodup_map d.nodup (List.mem_of_find?_eq_some he) h hk
    simp [get?, he, this]

theorem get?_eq_none_iff {d : PyDict K V} {k : K} : d.get? k = none ↔ k ∉ d.keys := by
  rw [mem_keys, ← Option.not_isSome_iff_eq_none, Option.isSome_iff_exists]
  simp [get?_eq_some_iff]

@[simp] theorem get?_empty (k : K) : (empty : PyDict K V).get? k = none := rfl

theorem items_eq_nil_iff {d : PyDict K V} : d.items = [] ↔ ∀ k, d.get? k = none := by
  refine ⟨fun h k => by simp [get?, h], fun h => ?_⟩
  cases he : d.items with
  | nil => rfl
  | cons e _ => simpa [get?_eq_some_iff.mpr (he ▸ List.mem_cons_self e _)] using h e.1

theorem insert_of_mem {d : PyDict K V} {k : K} (v : V) (h : k ∈ d.keys) :
    (d.insert k v).items = d.items.map (fun e => if e.1 = k then (k, v) else e) := by
  simp [insert, h]

theorem insert_of_not_mem {d : PyDict K V} {k : K} (v : V) (h : k ∉ d.keys) :
    (d.insert k v).items = d.items ++ [(k, v)] := by
  simp [insert, h]

theorem keys_insert (d : PyDict K V) (k : K) (v : V) :
    (d.insert k v).keys = if k ∈ d.keys then d.keys else d.keys ++ [k] := by
  by_cases h : k ∈ d.keys
  · rw [if_pos h, keys, insert_of_mem v h, map_fst_overwrite, keys]
  · rw [if_neg h, keys, insert_of_not_mem v h, List.map_append, keys]; rfl

theorem mem_items_insert {d : PyDict K V} {k : K} {v : V} {e : K × V} :
    e ∈ (d.insert k v).items ↔ e = (k, v) ∨ (e ∈ d.items ∧ e.1 ≠ k) := by
  by_cases h : k ∈ d.keys
  · obtain ⟨w, hw⟩ := mem_keys.mp h
    rw [insert_of_mem v h, List.mem_map]
    constructor
    · rintro ⟨e', he', rfl⟩
      by_cases hk : e'.1 = k <;> simp [hk, he']
    · rintro (rfl | ⟨he, hk⟩)
      · exact ⟨(k, w), hw, by simp⟩
      · exact ⟨e, he, by simp [hk]⟩
  · have hk : ∀ e ∈ d.items, e.1 ≠ k := fun e he hek => h (mem_keys.mpr ⟨e.2, hek ▸ he⟩)
    rw [insert_of_not_mem v h, List.mem_append, List.mem_singleton, or_comm]
    exact or_congr_right ⟨fun he => ⟨he, hk e he⟩, And.left⟩

@[simp] theorem get?_insert (d : PyDict K V) (k k' : K) (v : V) :
    (d.insert k v).get? k' = if k' = k then some v else d.get? k' := by
  refine Option.ext fun w => ?_
  rw [Option.mem_def, get?_eq_some_iff, mem_items_insert]
  split_ifs with h
  · subst h; simp [eq_comm]
  · simp [h, Option.mem_def, get?_eq_some_iff]

/-! ## Comprehensions -/

theorem ofList_append_singleton (l : List (K × V)) (e : K × V) :
    ofList (l ++ [e]) = (ofList l).insert e.1 e.2 := by
  simp [ofList, List.foldl_append]

/-- The comprehension keeps, for each key, the last entry of `l` with that key. -/
theorem get?_ofList (l : List (K × V)) (k : K) :
    (ofList l).get? k = (l.reverse.find? fun e => decide (e.1 = k)).map Prod.snd := by
  induction l using List.reverseRecOn with
  | nil => rfl
  | append_singleton l e ih =>
    rw [ofList_append_singleton, get?_insert, ih, List.reverse_append]
    by_cases h : k = e.1 <;> simp [h, eq_comm]

theorem mem_of_get?_ofList {l : List (K × V)} {k : K} {v : V} (h : (ofList l).get? k = some v) :
    (k, v) ∈ l := by
  rw [get?_ofList] at h
  obtain ⟨e, he, rfl⟩ := Option.map_eq_some'.mp h
  have hk : e.1 = k := by simpa using List.find?_some he
  exact hk ▸ List.mem_reverse.mp (List.mem_of_find?_eq_some he)

theorem get?_ofList_isSome {l : List (K × V)} {k : K} {v : V} (h : (k, v) ∈ l) :
    ∃ w, (ofList l).get? k = some w := by
  rw [← Option.isSome_iff_exists, get?_ofList, Option.isSome_map']
  exact List.find?_isSome.mpr ⟨(k, v), List.mem_reverse.mpr h, by simp⟩

/-- A key all of whose entries in `l` carry `v` is read back as `v`. -/
theorem get?_ofList_of_unique {l : List (K × V)} {k : K} {v : V} (h : (k, v) ∈ l)
    (hu : ∀ w, (k, w) ∈ l → w = v) : (ofList l).get? k = some v := by
  obtain ⟨w, hw⟩ := get?_ofList_isSome h
  rw [hw, hu w (mem_of_get?_ofList hw)]

/-- A comprehension `{f(x): g(x) for x in l}` with `f` injective on `l` reads back `g(x)` at `f(x)`. -/
theorem get?_ofList_map {α : Type} {l : List α} {f : α → K} {g : α → V}
    (hf : ∀ y ∈ l, ∀ x ∈ l, f y = f x → y = x) {x : α} (hx : x ∈ l) :
    (ofList (l.map fun y => (f y, g y))).get? (f x) = some (g x) := by
  refine get?_ofList_of_unique (List.mem_map_of_mem _ hx) fun w hw => ?_
  obtain ⟨y, hy, hyx⟩ := List.mem_map.mp hw
  simp only [Prod.mk.injEq] at hyx
  rw [← hyx.2, hf y hy x hx hyx.1]

theorem items_ofList {l : List (K × V)} (h : (l.map Prod.fst).Nodup) : (ofList l).items = l := by
  induction l using List.reverseRecOn with
  | nil => rfl
  | append_singleton l e ih =>
    rw [List.map_append, List.nodup_append] at h
    have hl := ih h.1
    have he : e.1 ∉ (ofList l).keys := by
      rw [keys, hl]; exact fun hx => h.2.2 hx (List.mem_singleton_self _)
    rw [ofList_append_singleton, insert_of_not_mem _ he, hl]

/-! ## Inversion -/

theorem get?_invert [DecidableEq V] {d : PyDict K V} {v : V} {k : K} (h : d.invert.get? v = some k) :
    d.get? k = some v :=
  get?_eq_some_iff.mpr ((List.mem_map_swap _ _ _).mp (mem_of_get?_ofList h))

omit [DecidableEq K] in
theorem get?_invert_isSome [DecidableEq V] {d : PyDict K V} {v : V} (h : v ∈ d.values) :
    ∃ k, d.invert.get? v = some k := by
  obtain ⟨e, he, rfl⟩ := List.mem_map.mp h
  exact get?_ofList_isSome ((List.mem_map_swap _ _ _).mpr he)

omit [DecidableEq K] in
/-- The inversion keeps, for each value, the last key holding it. -/
theorem get?_invert_eq [DecidableEq V] (d : PyDict K V) (v : V) :
    d.invert.get? v = (d.items.reverse.find? fun e => decide (e.2 = v)).map Prod.fst := by
  rw [invert, get?_ofList, ← List.map_reverse, List.find?_map, Option.map_map]
  rfl

/-- Without repeated values the inversion is exact. -/
theorem get?_invert_of_nodup [DecidableEq V] {d : PyDict K V} (hd : d.values.Nodup) {k : K} {v : V}
    (h : d.get? k = some v) : d.invert.get? v = some k := by
  refine get?_ofList_of_unique ((List.mem_map_swap _ _ _).mpr (get?_eq_some_iff.mp h)) fun k' hk' => ?_
  have := List.inj_on_of_nodup_map hd ((List.mem_map_swap _ _ _).mp hk') (get?_eq_some_iff.mp h) rfl
  exact congrArg Prod.fst this

/-! ## Key order

A key keeps the place of its first assignment: `d[k] = v` on a present key moves nothing, and a new
key goes last. `LastWith` follows the key that `invert` picks for a value through a loop of
assignments.
-/

theorem mem_keys_ofList {l : List (K × V)} {k : K} : k ∈ (ofList l).keys ↔ k ∈ l.map Prod.fst := by
  rw [← not_iff_not, ← get?_eq_none_iff, get?_ofList]
  simpa using ⟨fun h w hw => h k w hw rfl, fun h a w hw hak => h w (hak ▸ hw)⟩

/-- `d`'s keys are `before ++ k :: after`, `k` holds `v`, and no key after it does. -/
structure LastWith (d : PyDict K V) (k : K) (v : V) (before after : List K) : Prop where
  /-- `k` sits between `before` and `after`. -/
  keys_eq : d.keys = before ++ k :: after
  /-- `k` holds `v`. -/
  get?_key : d.get? k = some v
  /-- No key after `k` holds `v`. -/
  get?_after : ∀ k' ∈ after, d.get? k' ≠ some v

theorem lastWith_insert {d : PyDict K V} {k : K} (h : k ∉ d.keys) (v : V) :
    (d.insert k v).LastWith k v d.keys [] where
  keys_eq := by rw [keys_insert, if_neg h]
  get?_key := by simp
  get?_after := by simp

/-- An assignment keeps `k` the last key holding `v` unless it gives `k` another value, or `v` to a
key after `k`. -/
theorem LastWith.insert {d : PyDict K V} {k : K} {v : V} {before after : List K}
    (h : d.LastWith k v before after) {k' : K} {v' : V} (hk : k' = k → v' = v)
    (hv : v' = v → k' = k ∨ k' ∈ before) : ∃ after', (d.insert k' v').LastWith k v before after' := by
  have hnd : (before ++ k :: after).Nodup := h.keys_eq ▸ d.nodup
  rw [List.nodup_append, List.nodup_cons] at hnd
  have hsep : ∀ x ∈ after, ¬(x = k ∨ x ∈ before) := by
    rintro x hx (rfl | hb)
    · exact hnd.2.1.1 hx
    · exact hnd.2.2 hb (List.mem_cons_of_mem _ hx)
  have hkeys : ∀ x, x = k ∨ x ∈ before → x ∈ d.keys := by
    rw [h.keys_eq]; rintro x (rfl | hb) <;> simp [*]
  refine ⟨if k' ∈ d.keys then after else after ++ [k'], ?_, ?_, ?_⟩
  · rw [keys_insert, h.keys_eq]; split_ifs <;> simp
  · rw [get?_insert]
    split_ifs with he
    · rw [hk he.symm]
    · exact h.get?_key
  · intro x hx
    rw [get?_insert]
    split_ifs at hx ⊢ with hx' hmem hmem
    · subst hx'; exact fun he => hsep x hx (hv (Option.some.inj he))
    · subst hx'; exact fun he => hmem (hkeys x (hv (Option.some.inj he)))
    · exact h.get?_after x hx
    · exact h.get?_after x ((List.mem_append.mp hx).resolve_right (by simpa using hx'))

theorem LastWith.get?_invert [DecidableEq V] {d : PyDict K V} {k : K} {v : V} {before after : List K}
    (h : d.LastWith k v before after) : d.invert.get? v = some k := by
  obtain ⟨ib, ia', hitems, -, hia'⟩ := List.map_eq_append_iff.mp h.keys_eq
  obtain ⟨e, ia, rfl, rfl, rfl⟩ := List.map_eq_cons_iff.mp hia'
  have hmem : ∀ e' ∈ d.items, d.get? e'.1 = some e'.2 := fun e' he' => get?_eq_some_iff.mpr he'
  have he : e.2 = v := Option.some.inj ((hmem e (by simp [hitems])).symm.trans h.get?_key)
  have hrev : d.items.reverse = ia.reverse ++ e :: ib.reverse := by simp [hitems]
  rw [get?_invert_eq, hrev, List.find?_eq_some.mpr ⟨by simpa using he, _, _, rfl, fun a ha => ?_⟩]
  · rfl
  · have ha' : a ∈ d.items := by simp [hitems, List.mem_reverse.mp ha]
    have := h.get?_after a.1 (List.mem_map_of_mem _ (List.mem_reverse.mp ha))
    rw [hmem a ha'] at this
    simpa using this

/-- Inverting `{k: v for k, v in l₁ + [(k, v)] + l₂}` gives `v` back to `k` when `k` is new at that
assignment, every later assignment to `k` is of `v`, and every later assignment of `v` is to `k` or to
a key of `l₁`, which sits before it. -/
theorem get?_invert_ofList [DecidableEq V] {l₁ l₂ : List (K × V)} {k : K} {v : V}
    (hk : k ∉ l₁.map Prod.fst) (hkey : ∀ e ∈ l₂, e.1 = k → e.2 = v)
    (hval : ∀ e ∈ l₂, e.2 = v → e.1 = k ∨ e.1 ∈ l₁.map Prod.fst) :
    (ofList (l₁ ++ (k, v) :: l₂)).invert.get? v = some k := by
  suffices ∃ after, (ofList (l₁ ++ (k, v) :: l₂)).LastWith k v (ofList l₁).keys after from
    this.elim fun _ h => h.get?_invert
  induction l₂ using List.reverseRecOn with
  | nil =>
    rw [ofList_append_singleton]
    exact ⟨[], lastWith_insert (mt mem_keys_ofList.mp hk) v⟩
  | append_singleton l₂ e ih =>
    obtain ⟨after, h⟩ := ih (fun e' he' => hkey e' (by simp [he'])) (fun e' he' => hval e' (by simp [he']))
    rw [show l₁ ++ (k, v) :: (l₂ ++ [e]) = l₁ ++ (k, v) :: l₂ ++ [e] by simp, ofList_append_singleton]
    exact h.insert (hkey e (by simp)) fun hv => (hval e (by simp) hv).imp_right mem_keys_ofList.mpr

end PyDict

end Sdc11073
