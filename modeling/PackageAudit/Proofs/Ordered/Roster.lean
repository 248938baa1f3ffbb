import Mathlib.Data.List.Induction
import Mathlib.Data.List.Nodup
import PackageAudit.Ordered.Roster

/-!
# What a roster holds

- a definition that is put in is new, or was there before (`mem_putItems`);
- definitions with new names are appended in their order (`items_foldl_put`);
- the number of a definition is the number of its name (`id?_of_get?`), and the other way round (`map_get?_of_id?`);
- a name finds the one definition that has it (`find?_eq_some_iff`), also after one more was put in (`find?_put`);
- a name has a number once a definition with it was put in (`isSome_id?_put`), and keeps that number whatever is put
  in later (`id?_put_of_id?`);
- of definitions put in one after the other it holds the last one for each name, in the order in which the names
  first appeared (`items_foldl_put_nil`).
-/

namespace PackageAudit.Roster

variable {α κ : Type} {name : α → κ}

theorem eq_of_items {r s : Roster α name} (h : r.items = s.items) : r = s := by
  cases r
  cases s
  cases h
  rfl

variable [DecidableEq κ]

theorem mem_putItems {items : List α} {a b : α} (h : b ∈ putItems name items a) : b ∈ items ∨ b = a := by
  unfold putItems at h
  split at h
  · exact List.mem_or_eq_of_mem_set h
  · simpa using h

theorem putItems_of_notMem {items : List α} {a : α} (h : name a ∉ items.map name) :
    putItems name items a = items ++ [a] := by
  have absent : items.findIdx? (name · == name a) = none := by
    rw [List.findIdx?_eq_none_iff]
    intro b hb
    rw [beq_eq_false_iff_ne]
    intro he
    exact h (he ▸ List.mem_map_of_mem hb)
  rw [putItems, absent]

/-- Definitions with new names come last in their order. -/
theorem items_foldl_put (todo : List α) : ∀ r : Roster α name, ((r.items ++ todo).map name).Nodup →
    (todo.foldl put r).items = r.items ++ todo := by
  induction todo with
  | nil =>
    intro r _
    exact (List.append_nil _).symm
  | cons a todo ih =>
    intro r h
    have fresh : name a ∉ r.items.map name := by
      intro hm
      rw [List.map_append, List.nodup_append] at h
      exact h.2.2 _ hm _ (by simp) rfl
    have put_items : (r.put a).items = r.items ++ [a] := putItems_of_notMem fresh
    have h' : (((r.put a).items ++ todo).map name).Nodup := by
      rw [put_items, List.append_assoc]
      exact h
    rw [List.foldl_cons, ih (r.put a) h', put_items, List.append_assoc]
    rfl

theorem id?_of_get? {r : Roster α name} {id : Nat} {a : α} (h : r.get? id = some a) : r.id? (name a) = some id := by
  obtain ⟨hlt, rfl⟩ := List.getElem?_eq_some_iff.mp h
  refine List.findIdx?_eq_some_iff_getElem.mpr ⟨hlt, by simp, fun j hj => ?_⟩
  have distinct := List.pairwise_iff_getElem.mp r.nodup j id (by simp; omega) (by simpa using hlt) hj
  simpa using distinct

theorem map_get?_of_id? {r : Roster α name} {n : κ} {id : Nat} (h : r.id? n = some id) :
    (r.get? id).map name = some n := by
  obtain ⟨hlt, hn, -⟩ := List.findIdx?_eq_some_iff_getElem.mp h
  rw [get?, List.getElem?_eq_getElem hlt]
  exact congrArg some (eq_of_beq hn)

theorem isSome_id?_iff {r : Roster α name} {n : κ} : (r.id? n).isSome ↔ n ∈ r.items.map name := by
  rw [id?, List.findIdx?_isSome, List.any_eq_true, List.mem_map]
  simp only [beq_iff_eq]

/-- Putting a definition in gives its name a number, and no other that had none. -/
theorem isSome_id?_put (r : Roster α name) (a : α) (n : κ) :
    ((r.put a).id? n).isSome = ((r.id? n).isSome || name a == n) := by
  rw [Bool.eq_iff_iff, Bool.or_eq_true, isSome_id?_iff, isSome_id?_iff, beq_iff_eq]
  show n ∈ (putItems name r.items a).map name ↔ _
  rw [map_putItems]
  split
  next known =>
    refine ⟨Or.inl, ?_⟩
    rintro (hm | rfl)
    · exact hm
    · exact known
  next => rw [List.mem_append, List.mem_singleton, @eq_comm _ n]

/-- A name and a number belong together if the definition with the number has the name. -/
theorem id?_eq_some_iff {r : Roster α name} {n : κ} {id : Nat} :
    r.id? n = some id ↔ ∃ a, r.get? id = some a ∧ name a = n := by
  constructor
  · intro h
    exact Option.map_eq_some_iff.mp (map_get?_of_id? h)
  · rintro ⟨a, ha, rfl⟩
    exact id?_of_get? ha

theorem names_prefix_put (r : Roster α name) (a : α) : r.items.map name <+: (r.put a).items.map name := by
  show _ <+: (putItems name r.items a).map name
  rw [map_putItems]
  split
  · exact List.prefix_refl _
  · exact List.prefix_append _ _

theorem map_get?_put {r : Roster α name} (a : α) {id : Nat} {n : κ} (h : (r.get? id).map name = some n) :
    ((r.put a).get? id).map name = some n := by
  rw [get?, ← List.getElem?_map] at h ⊢
  obtain ⟨rest, hrest⟩ := r.names_prefix_put a
  rw [← hrest, List.getElem?_append_left (List.getElem?_eq_some_iff.mp h).1]
  exact h

/-- **A name keeps its number.** -/
theorem id?_put_of_id? {r : Roster α name} (a : α) {n : κ} {id : Nat} (h : r.id? n = some id) :
    (r.put a).id? n = some id :=
  id?_eq_some_iff.mpr (Option.map_eq_some_iff.mp (map_get?_put a (map_get?_of_id? h)))

/-- Only a new name changes the numbers, and it has the first free one. -/
theorem id?_put (r : Roster α name) (a : α) (n : κ) :
    (r.put a).id? n = if name a = n ∧ r.id? n = none then some r.size else r.id? n := by
  have by_name (items : List α) : items.findIdx? (name · == n) = (items.map name).findIdx? (· == n) := by
    rw [List.findIdx?_map]
    rfl
  have known : r.id? n = none ↔ n ∉ r.items.map name := by
    rw [← isSome_id?_iff, Bool.not_eq_true, Option.isSome_eq_false_iff, Option.isNone_iff_eq_none]
  show (putItems name r.items a).findIdx? (name · == n) = _
  rw [by_name, map_putItems]
  split
  next hm =>
    rw [if_neg, ← by_name]
    · rfl
    · rintro ⟨rfl, hn⟩
      exact known.mp hn hm
  next hm =>
    rw [List.findIdx?_append, ← by_name, List.length_map]
    show (r.id? n).or _ = _
    cases hn : r.id? n <;> by_cases h : name a = n <;> simp [h, size]

/-- The definition with a name is the one definition that has it. -/
theorem find?_eq_some_iff {r : Roster α name} {n : κ} {a : α} : r.find? n = some a ↔ a ∈ r.items ∧ name a = n := by
  unfold find?
  constructor
  · intro h
    exact ⟨List.mem_of_find?_eq_some h, by simpa using List.find?_some h⟩
  · rintro ⟨ha, rfl⟩
    have found : (r.items.find? (name · == name a)).isSome :=
      List.find?_isSome.mpr ⟨a, ha, beq_self_eq_true (name a)⟩
    obtain ⟨b, hb⟩ := Option.isSome_iff_exists.mp found
    have same : name b = name a := by simpa using List.find?_some hb
    obtain rfl : b = a := List.inj_on_of_nodup_map r.nodup (List.mem_of_find?_eq_some hb) ha same
    exact hb

/-- A definition with a known name replaces the one that has it. -/
theorem putItems_of_mem {items : List α} {a : α} (nodup : (items.map name).Nodup) (h : name a ∈ items.map name) :
    putItems name items a = items.map fun b => if name b = name a then a else b := by
  unfold putItems
  split
  next id hid =>
    obtain ⟨hlt, hname, -⟩ := List.findIdx?_eq_some_iff_getElem.mp hid
    have own : name items[id] = name a := eq_of_beq hname
    refine List.ext_getElem (by simp) fun i hi _ => ?_
    rw [List.length_set] at hi
    rw [List.getElem_set, List.getElem_map]
    by_cases h : id = i
    · subst h
      rw [if_pos rfl, if_pos own]
    · have other : name items[i] ≠ name a := by
        intro he
        have same : (items.map name)[id]? = (items.map name)[i]? := by simp [hlt, hi, own, he]
        exact h ((List.getElem?_inj (by simpa using hlt) nodup).mp same)
      rw [if_neg h, if_neg other]
  next hnone =>
    obtain ⟨b, hb, hn⟩ := List.mem_map.mp h
    have absent := List.findIdx?_eq_none_iff.mp hnone b hb
    simp [hn] at absent

/-- After a definition was put in, it stands there with those of other names. -/
theorem mem_put_iff {r : Roster α name} {a b : α} : b ∈ (r.put a).items ↔ b = a ∨ b ∈ r.items ∧ name b ≠ name a := by
  show b ∈ putItems name r.items a ↔ _
  by_cases known : name a ∈ r.items.map name
  · rw [putItems_of_mem r.nodup known, List.mem_map]
    constructor
    · rintro ⟨c, hc, rfl⟩
      by_cases same : name c = name a
      · rw [if_pos same]
        exact Or.inl rfl
      · rw [if_neg same]
        exact Or.inr ⟨hc, same⟩
    · rintro (rfl | ⟨hb, other⟩)
      · obtain ⟨c, hc, same⟩ := List.mem_map.mp known
        exact ⟨c, hc, if_pos same⟩
      · exact ⟨b, hb, if_neg other⟩
  · have fresh : b ∈ r.items → name b ≠ name a := fun hb same => known (same ▸ List.mem_map_of_mem hb)
    rw [putItems_of_notMem known, List.mem_append, List.mem_singleton, or_comm]
    exact or_congr_right (and_iff_left_of_imp fresh).symm

/-- Putting a definition in that is there already changes nothing. -/
theorem put_of_mem {r : Roster α name} {a : α} (h : a ∈ r.items) : r.put a = r := by
  refine eq_of_items ((putItems_of_mem r.nodup (List.mem_map_of_mem h)).trans ?_)
  refine (List.map_congr_left fun b hb => ?_).trans (List.map_id _)
  split
  next same => exact (List.inj_on_of_nodup_map r.nodup hb h same).symm
  next => rfl

/-- Only the own name finds a definition that is put in; all others find what they found. -/
theorem find?_put (r : Roster α name) (a : α) (n : κ) :
    (r.put a).find? n = if name a = n then some a else r.find? n := by
  refine Option.ext fun b => ?_
  rw [find?_eq_some_iff, mem_put_iff]
  by_cases own : name a = n
  · subst own
    simp only [if_pos, Option.some.injEq]
    exact ⟨fun ⟨hb, same⟩ => hb.elim Eq.symm fun h => absurd same h.2, fun hb => ⟨Or.inl hb.symm, hb ▸ rfl⟩⟩
  · rw [if_neg own, find?_eq_some_iff]
    constructor
    · rintro ⟨rfl | hb, rfl⟩
      · exact absurd rfl own
      · exact ⟨hb.1, rfl⟩
    · rintro ⟨hb, rfl⟩
      exact ⟨Or.inr ⟨hb, Ne.symm own⟩, rfl⟩

/-! ## Definitions put in one after the other -/

/-- The last of the definitions with a name. -/
def last? (name : α → κ) (added : List α) (n : κ) : Option α :=
  (added.filter (name · == n)).getLast?

/-- For each name, in the order in which the names first appeared, the last definition with it. -/
def lastOfEach (name : α → κ) (added : List α) : List α :=
  (added.map name).eraseDups.filterMap (last? name added)

theorem last?_append_singleton (added : List α) (a : α) (n : κ) :
    last? name (added ++ [a]) n = if name a = n then some a else last? name added n := by
  unfold last?
  rw [List.filter_append]
  by_cases h : name a = n
  · rw [if_pos h, List.filter_singleton, beq_iff_eq.mpr h, cond_true, List.getLast?_concat]
  · rw [if_neg h, List.filter_singleton, beq_eq_false_iff_ne.mpr h, cond_false, List.append_nil]

theorem name_of_last? {added : List α} {n : κ} {a : α} (h : last? name added n = some a) : name a = n :=
  eq_of_beq (List.mem_filter.mp (List.mem_of_getLast? h)).2

theorem last?_eq_none_iff {added : List α} {n : κ} : last? name added n = none ↔ n ∉ added.map name := by
  simp [last?]

/-- The names of the last definitions are all names, in the order in which they first appeared. -/
theorem map_lastOfEach (added : List α) : (lastOfEach name added).map name = (added.map name).eraseDups := by
  have all : ∀ {ns : List κ}, (∀ n ∈ ns, n ∈ added.map name) → (ns.filterMap (last? name added)).map name = ns := by
    intro ns h
    induction ns with
    | nil => rfl
    | cons n ns ih =>
      cases hn : last? name added n with
      | none => exact absurd (h n List.mem_cons_self) (last?_eq_none_iff.mp hn)
      | some a =>
        rw [List.filterMap_cons_some hn, List.map_cons, name_of_last? hn,
          ih fun m hm => h m (List.mem_cons_of_mem n hm)]
  exact all fun n hn => List.mem_eraseDups.mp hn

/-- One more definition replaces the last one with its name, or comes last. -/
theorem items_put_lastOfEach {r : Roster α name} {added : List α} (h : r.items = lastOfEach name added) (a : α) :
    (r.put a).items = lastOfEach name (added ++ [a]) := by
  have known : name a ∈ r.items.map name ↔ name a ∈ added.map name := by
    rw [h, map_lastOfEach, List.mem_eraseDups]
  have names : ((added ++ [a]).map name).eraseDups
      = (added.map name).eraseDups ++ (if name a ∈ added.map name then [] else [name a]) := by
    rw [List.map_append, List.eraseDups_append]
    split <;> simp_all [List.removeAll, List.eraseDups_cons]
  show putItems name r.items a = _
  by_cases hm : name a ∈ added.map name
  -- the order of the names stays, and only the definition with this name changes
  · have replaced (n : κ) (hn : n ∈ (added.map name).eraseDups) : last? name (added ++ [a]) n
        = (last? name added n).map fun b => if name b = name a then a else b := by
      rw [last?_append_singleton]
      cases hl : last? name added n with
      | none => exact absurd (List.mem_eraseDups.mp hn) (last?_eq_none_iff.mp hl)
      | some b =>
        rw [Option.map_some, name_of_last? hl, apply_ite some]
        exact ite_congr (propext eq_comm) (fun _ => rfl) fun _ => rfl
    rw [putItems_of_mem r.nodup (known.mpr hm), h, lastOfEach, lastOfEach, names, if_pos hm, List.append_nil,
      List.map_filterMap]
    exact (List.filterMap_congr replaced).symm
  -- the name comes last, and the other names have the definitions that they had
  · have kept (n : κ) (hn : n ∈ (added.map name).eraseDups) : last? name (added ++ [a]) n = last? name added n := by
      rw [last?_append_singleton, if_neg]
      rintro rfl
      exact hm (List.mem_eraseDups.mp hn)
    have own : last? name (added ++ [a]) (name a) = some a := by rw [last?_append_singleton, if_pos rfl]
    rw [putItems_of_notMem (mt known.mp hm), h, lastOfEach, lastOfEach, names, if_neg hm, List.filterMap_append,
      List.filterMap_congr kept, List.filterMap_cons_some own, List.filterMap_nil]

/-- What may be one more definition replaces the last one with its name, or comes last. -/
theorem items_elim_put {r : Roster α name} {added : List α} (h : r.items = lastOfEach name added) (a? : Option α) :
    (a?.elim r r.put).items = lastOfEach name (added ++ a?.toList) := by
  cases a? with
  | none => rw [Option.elim_none, Option.toList_none, List.append_nil, h]
  | some a => exact items_put_lastOfEach h a

/-- **A roster holds the last definition for each name**, in the order in which the names first appeared. -/
theorem items_foldl_put_nil (added : List α) :
    (added.foldl put ({} : Roster α name)).items = lastOfEach name added := by
  induction added using List.reverseRecOn with
  | nil => rfl
  | append_singleton added a ih => rw [List.foldl_concat, items_put_lastOfEach ih]

/-- The second definition of a name stands in the place of the first one. -/
example : lastOfEach Prod.fst [(1, 'a'), (2, 'b'), (1, 'c')] = [(1, 'c'), (2, 'b')] := by decide

end PackageAudit.Roster
