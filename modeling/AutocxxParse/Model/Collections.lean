import Mathlib.Data.List.Nodup

/-! # Insertion-ordered sets and maps

`parse_bindgen.rs` imports `IndexSet` and `IndexMap` under the names `HashSet` and `HashMap`, so
its collections iterate in insertion order. Collecting an iterator inserts each element in turn:
a key seen before keeps its first position and takes the newer value. The key list of a collected
map is therefore `List.eraseDups` of the keys, and each key's value is its last one.
-/
namespace AutocxxParse
variable {K V : Type} [DecidableEq K]

def appendIfAbsent (acc : List K) (k : K) : List K := if k ∈ acc then acc else acc ++ [k]

theorem eraseDups_loop_eq_foldl (l acc : List K) :
    List.eraseDups.loop l acc = l.foldl appendIfAbsent acc.reverse := by
  induction l generalizing acc with
  | nil => rfl
  | cons a l ih => by_cases h : a ∈ acc <;> simp [List.eraseDups.loop, h, ih, appendIfAbsent]

theorem eraseDups_eq_foldl (l : List K) : l.eraseDups = l.foldl appendIfAbsent [] :=
  eraseDups_loop_eq_foldl l []

theorem mem_foldl_appendIfAbsent (l acc : List K) (a : K) :
    a ∈ l.foldl appendIfAbsent acc ↔ a ∈ acc ∨ a ∈ l := by
  induction l generalizing acc with
  | nil => simp
  | cons b l ih =>
    rw [List.foldl_cons, ih, List.mem_cons]
    unfold appendIfAbsent
    split
    · by_cases hab : a = b <;> simp_all
    · simp [or_assoc]

theorem mem_eraseDups (l : List K) (a : K) : a ∈ l.eraseDups ↔ a ∈ l := by
  simp [eraseDups_eq_foldl, mem_foldl_appendIfAbsent]

/-- An insertion-ordered set (`indexmap::IndexSet`). -/
structure IndexSet (K : Type) where
  items : List K
  nodup : items.Nodup

def IndexSet.empty : IndexSet K := ⟨[], List.nodup_nil⟩

def IndexSet.insert (s : IndexSet K) (k : K) : IndexSet K :=
  if h : k ∈ s.items then s else ⟨s.items ++ [k], s.nodup.append (List.nodup_singleton k) (by simpa)⟩

/-- Models `FromIterator for IndexSet`. -/
def IndexSet.collect (xs : List K) : IndexSet K := xs.foldl IndexSet.insert IndexSet.empty

theorem IndexSet.insert_items (s : IndexSet K) (k : K) :
    (s.insert k).items = appendIfAbsent s.items k := by
  unfold insert appendIfAbsent; split <;> simp_all

theorem IndexSet.collect_items (xs : List K) : (IndexSet.collect xs).items = xs.eraseDups := by
  suffices ∀ s : IndexSet K, (xs.foldl insert s).items = xs.foldl appendIfAbsent s.items from
    (this _).trans (eraseDups_eq_foldl xs).symm
  induction xs with
  | nil => exact fun _ => rfl
  | cons k xs ih => exact fun s => (ih _).trans (by rw [insert_items]; rfl)

theorem IndexSet.mem_collect (xs : List K) (k : K) : k ∈ (IndexSet.collect xs).items ↔ k ∈ xs := by
  rw [collect_items, mem_eraseDups]

/-- An insertion-ordered map with unique keys (`indexmap::IndexMap`), by its entries. -/
structure IndexMap (K V : Type) where
  entries : List (K × V)
  nodup : (entries.map Prod.fst).Nodup

namespace IndexMap

def empty : IndexMap K V := ⟨[], List.nodup_nil⟩

def keys (m : IndexMap K V) : List K := m.entries.map Prod.fst

def values (m : IndexMap K V) : List V := m.entries.map Prod.snd

def containsKey (m : IndexMap K V) (k : K) : Bool := decide (k ∈ m.keys)

def overwrite (k : K) (v : V) (p : K × V) : K × V := if p.1 = k then (k, v) else p

@[simp] theorem overwrite_fst (k : K) (v : V) (p : K × V) : (overwrite k v p).1 = p.1 := by
  unfold overwrite; split <;> simp_all

/-- Models `IndexMap::insert`: a present key keeps its place and takes the new value, a new key goes
last. -/
def insert (m : IndexMap K V) (k : K) (v : V) : IndexMap K V :=
  if h : k ∈ m.keys then ⟨m.entries.map (overwrite k v), by simpa [Function.comp_def] using m.nodup⟩
  else ⟨m.entries ++ [(k, v)], by
    rw [List.map_append]; exact m.nodup.append (List.nodup_singleton k) (by simpa [keys] using h)⟩

/-- Models `FromIterator for IndexMap`. -/
def collect (xs : List (K × V)) : IndexMap K V := xs.foldl (fun m p => m.insert p.1 p.2) empty

theorem insert_keys (m : IndexMap K V) (k : K) (v : V) :
    (m.insert k v).keys = appendIfAbsent m.keys k := by
  unfold insert appendIfAbsent keys; split <;> simp_all [Function.comp_def]

theorem collect_keys (xs : List (K × V)) : (collect xs).keys = (xs.map Prod.fst).eraseDups := by
  suffices ∀ m : IndexMap K V, (xs.foldl (fun m p => m.insert p.1 p.2) m).keys =
      (xs.map Prod.fst).foldl appendIfAbsent m.keys from
    (this _).trans (eraseDups_eq_foldl _).symm
  induction xs with
  | nil => exact fun _ => rfl
  | cons p xs ih => exact fun m => (ih _).trans (by rw [insert_keys]; rfl)

theorem containsKey_collect (xs : List (K × V)) (k : K) :
    (collect xs).containsKey k = decide (k ∈ xs.map Prod.fst) := by
  simp [containsKey, collect_keys, mem_eraseDups]

theorem mem_insert_entries (m : IndexMap K V) (k : K) (v : V) (p : K × V) :
    p ∈ (m.insert k v).entries ↔ p = (k, v) ∨ (p ∈ m.entries ∧ p.1 ≠ k) := by
  unfold insert
  split
  case isTrue h =>
    obtain ⟨q, hq, hqk⟩ := List.mem_map.mp h
    simp only [List.mem_map, overwrite]
    constructor
    · rintro ⟨r, hr, rfl⟩
      split <;> simp_all
    · rintro (rfl | ⟨hp, hpk⟩)
      · exact ⟨q, hq, by simp [hqk]⟩
      · exact ⟨p, hp, by simp [hpk]⟩
  case isFalse h =>
    have fresh : ∀ q ∈ m.entries, q.1 ≠ k := fun q hq hqk => h (List.mem_map.mpr ⟨q, hq, hqk⟩)
    simp only [List.mem_append, List.mem_singleton]
    exact ⟨fun hp => hp.elim (fun hp => .inr ⟨hp, fresh p hp⟩) .inl, fun hp => hp.elim .inr (.inl ·.1)⟩

theorem mem_collect_entries (xs : List (K × V)) (p : K × V) :
    p ∈ (collect xs).entries ↔ xs.reverse.find? (·.1 = p.1) = some p := by
  induction xs using List.reverseRecOn with
  | nil => simp [collect, empty]
  | append_singleton xs x ih =>
    rw [collect, List.foldl_append, ← collect, List.foldl_cons, List.foldl_nil, mem_insert_entries,
      ih, List.reverse_append, List.reverse_singleton, List.singleton_append, List.find?_cons]
    obtain ⟨k, v⟩ := x
    by_cases hx : k = p.1
    · subst hx
      simp only [ne_eq, not_true_eq_false, and_false, or_false, decide_True, Option.some.injEq]
      exact ⟨fun h => h.symm, fun h => h.symm⟩
    · simp [hx, Ne.symm hx]
      exact fun h => absurd (congrArg Prod.fst h) (Ne.symm hx)

theorem filter_fst_eq_of_mem {l : List (K × V)} (hl : (l.map Prod.fst).Nodup) {p : K × V}
    (hp : p ∈ l) : l.filter (·.1 = p.1) = [p] := by
  induction l with
  | nil => cases hp
  | cons q l ih =>
    rw [List.map_cons, List.nodup_cons] at hl
    rcases List.mem_cons.mp hp with rfl | hp
    · have : ∀ r ∈ l, ¬ r.1 = p.1 := fun r hr h => hl.1 (h ▸ List.mem_map_of_mem _ hr)
      simpa using fun a b (h : (a, b) ∈ l) => this _ h
    · have : q.1 ≠ p.1 := fun h => hl.1 (h ▸ List.mem_map_of_mem _ hp)
      simp [this, ih hl.2 hp]

end IndexMap
end AutocxxParse
