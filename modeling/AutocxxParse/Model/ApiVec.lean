import AutocxxParse.Model.Types
import Mathlib.Data.List.Nodup

/-! # `ApiVec`

`self.apis` and each scope's `more_apis` are `ApiVec`s (`apivec.rs`): a `Vec<Api>` beside the
set of the names it holds, so that no two entries share a qualified name. `push` drops an
`IgnoredItem` whose name is already there; any other entry whose name is there retires every
entry of that name and leaves one `IgnoredItem`, with the error `DuplicateItemsFoundInParsing`,
last. `extend` and `append` push entry by entry, and `retain` filters. The model keeps the list
alone, since the name set is the list's names; that the names are distinct is the predicate
`NamesNodup`, which every operation keeps.
-/
namespace AutocxxParse

/-- Models `Api::discard_duplicates`. -/
def Api.discardDuplicates : Api → Bool
  | .ignoredItem .. => true
  | _ => false

/-- The entry `ApiVec::push` leaves for a name pushed twice. -/
def Api.duplicateOf (name : QualifiedName) : Api :=
  .ignoredItem (ApiName.newFromQualifiedName name) .duplicateItemsFoundInParsing (some (.item name.id))

@[simp] theorem Api.duplicateOf_name (n : QualifiedName) : (Api.duplicateOf n).name = n := rfl

@[simp] theorem Api.duplicateOf_functionOrIgnored (n : QualifiedName) :
    (Api.duplicateOf n).isFunctionOrIgnored := rfl

namespace ApiVec

/-- Models `ApiVec::push`. -/
def push (apis : List Api) (api : Api) : List Api :=
  if api.name ∈ apis.map Api.name then
    if api.discardDuplicates then apis
    else apis.filter (fun a => a.name != api.name) ++ [Api.duplicateOf api.name]
  else apis ++ [api]

/-- Models `ApiVec::extend` and `ApiVec::append`. -/
def extend (apis more : List Api) : List Api := more.foldl push apis

def NamesNodup (apis : List Api) : Prop := (apis.map Api.name).Nodup

theorem namesNodup_nil : NamesNodup [] := List.nodup_nil

variable {apis more : List Api} {api a : Api}

theorem push_of_not_mem (h : api.name ∉ apis.map Api.name) : push apis api = apis ++ [api] := if_neg h

@[simp] theorem push_nil (api : Api) : push [] api = [api] := push_of_not_mem (List.not_mem_nil _)

@[simp] theorem extend_nil (apis : List Api) : extend apis [] = apis := rfl

@[simp] theorem extend_cons (apis : List Api) (x : Api) (more : List Api) :
    extend apis (x :: more) = extend (push apis x) more := rfl

theorem extend_append (apis xs ys : List Api) : extend apis (xs ++ ys) = extend (extend apis xs) ys :=
  List.foldl_append _ _ _ _

theorem extend_singleton (apis : List Api) (x : Api) : extend apis [x] = push apis x := rfl

/-- The three things `push` can do: append, drop an ignored item, or collapse a name. -/
theorem push_cases (apis : List Api) (api : Api) :
    (api.name ∉ apis.map Api.name ∧ push apis api = apis ++ [api]) ∨
    (api.name ∈ apis.map Api.name ∧ api.discardDuplicates = true ∧ push apis api = apis) ∨
    (api.name ∈ apis.map Api.name ∧ api.discardDuplicates = false ∧
      push apis api = apis.filter (fun a => a.name != api.name) ++ [Api.duplicateOf api.name]) := by
  unfold push
  by_cases h : api.name ∈ apis.map Api.name
  · cases hd : api.discardDuplicates <;> simp [h, hd]
  · simp [h]

theorem mem_names_push {n : QualifiedName} :
    n ∈ (push apis api).map Api.name ↔ n ∈ apis.map Api.name ∨ n = api.name := by
  rcases push_cases apis api with ⟨-, e⟩ | ⟨h, -, e⟩ | ⟨h, -, e⟩ <;> rw [e]
  · simp
  · exact ⟨.inl, fun h' => h'.elim id (· ▸ h)⟩
  · by_cases hn : n = api.name
    · simp [hn]
    · simp only [List.map_append, List.mem_append, List.mem_map, List.mem_filter, bne_iff_ne, ne_eq,
        List.map_cons, List.map_nil, List.mem_singleton, Api.duplicateOf_name, hn, or_false]
      exact ⟨fun ⟨a, ⟨ha, _⟩, h⟩ => ⟨a, ha, h⟩, fun ⟨a, ha, h⟩ => ⟨a, ⟨ha, fun h' => hn (h ▸ h')⟩, h⟩⟩

theorem mem_names_extend {n : QualifiedName} :
    ∀ {apis : List Api} {more : List Api},
      n ∈ (extend apis more).map Api.name ↔ n ∈ apis.map Api.name ∨ n ∈ more.map Api.name
  | _, [] => by simp
  | apis, x :: more => by
    rw [extend_cons, mem_names_extend, mem_names_push, List.map_cons, List.mem_cons]
    tauto

theorem namesNodup_push (h : NamesNodup apis) (api : Api) : NamesNodup (push apis api) := by
  rcases push_cases apis api with ⟨fresh, e⟩ | ⟨-, -, e⟩ | ⟨-, -, e⟩ <;> rw [NamesNodup, e]
  · rw [List.map_append]
    exact h.append (List.nodup_singleton _) (by simpa using fresh)
  · exact h
  · rw [List.map_append]
    exact (h.sublist ((List.filter_sublist apis).map _)).append (List.nodup_singleton _) (by simp)

theorem namesNodup_extend : ∀ {apis : List Api}, NamesNodup apis → ∀ more, NamesNodup (extend apis more)
  | _, h, [] => h
  | _, h, x :: more => namesNodup_extend (namesNodup_push h x) more

theorem extend_of_fresh : ∀ {apis more : List Api}, (more.map Api.name).Nodup →
    (∀ a ∈ more, a.name ∉ apis.map Api.name) → extend apis more = apis ++ more
  | _, [], _, _ => (List.append_nil _).symm
  | apis, x :: more, hnd, hfresh => by
    rw [List.map_cons, List.nodup_cons] at hnd
    have fresh : ∀ a ∈ more, a.name ∉ (apis ++ [x]).map Api.name := fun a ha h => by
      rcases List.mem_append.mp (List.map_append _ _ _ ▸ h) with h | h
      · exact hfresh a (.tail _ ha) h
      · exact hnd.1 (List.mem_singleton.mp h ▸ List.mem_map_of_mem _ ha)
    rw [extend_cons, push_of_not_mem (hfresh x (.head _)), extend_of_fresh hnd.2 fresh,
      List.append_assoc, List.singleton_append]

theorem extend_of_namesNodup (h : NamesNodup (apis ++ more)) : extend apis more = apis ++ more := by
  rw [NamesNodup, List.map_append, List.nodup_append] at h
  exact extend_of_fresh h.2.1 fun a ha hmem => h.2.2 hmem (List.mem_map_of_mem _ ha)

theorem mem_push (h : a ∈ push apis api) : a ∈ apis ∨ a = api ∨ a = Api.duplicateOf api.name := by
  rcases push_cases apis api with ⟨-, e⟩ | ⟨-, -, e⟩ | ⟨-, -, e⟩ <;> rw [e] at h
  · exact (List.mem_append.mp h).imp_right (.inl ∘ List.mem_singleton.mp)
  · exact .inl h
  · exact (List.mem_append.mp h).imp List.mem_of_mem_filter (.inr ∘ List.mem_singleton.mp)

theorem mem_extend : ∀ {apis more : List Api} {a : Api}, a ∈ extend apis more →
    a ∈ apis ∨ a ∈ more ∨ ∃ n, a = Api.duplicateOf n
  | _, [], _, h => .inl h
  | _, x :: more, _, h => by
    rw [extend_cons] at h
    rcases mem_extend h with h | h | h
    · rcases mem_push h with h | rfl | rfl
      · exact .inl h
      · exact .inr (.inl (.head _))
      · exact .inr (.inr ⟨_, rfl⟩)
    · exact .inr (.inl (.tail _ h))
    · exact .inr (.inr h)

theorem forall_mem_extend {P : Api → Prop} (hdup : ∀ n, P (Api.duplicateOf n))
    (hapis : ∀ a ∈ apis, P a) (hmore : ∀ a ∈ more, P a) : ∀ a ∈ extend apis more, P a := fun a ha =>
  (mem_extend ha).elim (hapis a) fun h => h.elim (hmore a) fun ⟨n, hn⟩ => hn ▸ hdup n

theorem extend_split (apis more : List Api) : ∃ (keep : Api → Bool) (added : List Api),
    extend apis more = apis.filter keep ++ added ∧ ∀ a ∈ added, a ∈ more ∨ ∃ n, a = Api.duplicateOf n := by
  induction more using List.reverseRecOn with
  | nil => exact ⟨fun _ => true, [], by simp, by simp⟩
  | append_singleton more x ih =>
    obtain ⟨keep, added, he, hadded⟩ := ih
    have old : ∀ a ∈ added, a ∈ more ++ [x] ∨ ∃ n, a = Api.duplicateOf n :=
      fun a ha => (hadded a ha).imp_left (List.mem_append_left _)
    rw [extend_append, he, extend_singleton]
    rcases push_cases (apis.filter keep ++ added) x with ⟨-, e⟩ | ⟨-, -, e⟩ | ⟨-, -, e⟩ <;> rw [e]
    · refine ⟨keep, added ++ [x], List.append_assoc _ _ _, fun a ha => ?_⟩
      rcases List.mem_append.mp ha with ha | ha
      · exact old a ha
      · exact .inl (List.mem_append_right _ ha)
    · exact ⟨keep, added, rfl, old⟩
    · refine ⟨fun a => a.name != x.name && keep a, added.filter (·.name != x.name) ++ [Api.duplicateOf x.name],
        by simp [List.filter_append, List.filter_filter], fun a ha => ?_⟩
      rcases List.mem_append.mp ha with ha | ha
      · exact old a (List.mem_of_mem_filter ha)
      · exact .inr ⟨_, List.mem_singleton.mp ha⟩

theorem mem_of_extend_eq_append {m : List Api} (h : extend apis more = apis ++ m) (ha : a ∈ m) :
    a ∈ more ∨ ∃ n, a = Api.duplicateOf n := by
  obtain ⟨keep, added, he, hadded⟩ := extend_split apis more
  rw [he] at h
  rcases List.append_eq_append_iff.mp h with ⟨c, -, rfl⟩ | ⟨c, hc, rfl⟩
  · exact hadded a (List.mem_append_right _ ha)
  · have hlen := congrArg List.length hc
    rw [List.length_append] at hlen
    obtain rfl : c = [] := List.eq_nil_of_length_eq_zero (by have := List.length_filter_le keep apis; omega)
    exact hadded a ha

section
variable {n : QualifiedName}

theorem filter_name_push_of_ne (hn : api.name ≠ n) :
    (push apis api).filter (·.name = n) = apis.filter (·.name = n) := by
  rcases push_cases apis api with ⟨-, e⟩ | ⟨-, -, e⟩ | ⟨-, -, e⟩ <;> simp only [e]
  · simp [List.filter_append, hn]
  · rw [List.filter_append, List.filter_filter]
    simp only [List.filter_singleton, Api.duplicateOf_name, hn, decide_False, cond_false, List.append_nil]
    exact List.filter_congr fun a _ => by by_cases h : a.name = n <;> simp [h, Ne.symm hn]

theorem filter_name_push_dup (h : api.name ∈ apis.map Api.name) (hd : api.discardDuplicates = false) :
    (push apis api).filter (·.name = api.name) = [Api.duplicateOf api.name] := by
  rcases push_cases apis api with ⟨hn, -⟩ | ⟨-, hd', -⟩ | ⟨-, -, e⟩
  · exact absurd h hn
  · simp [hd] at hd'
  · simp [e, List.filter_append, List.filter_filter]

theorem filter_name_push_collapsed (h : apis.filter (·.name = n) = [Api.duplicateOf n]) (api : Api) :
    (push apis api).filter (·.name = n) = [Api.duplicateOf n] := by
  by_cases hn : api.name = n
  · subst hn
    have hmem : api.name ∈ apis.map Api.name :=
      List.mem_map.mpr ⟨Api.duplicateOf api.name, List.mem_of_mem_filter (h ▸ List.mem_singleton_self _), rfl⟩
    cases hd : api.discardDuplicates
    · exact filter_name_push_dup hmem hd
    · rcases push_cases apis api with ⟨hn, -⟩ | ⟨-, -, e⟩ | ⟨-, hd', -⟩
      · exact absurd hmem hn
      · rw [e, h]
      · simp [hd] at hd'
  · rw [filter_name_push_of_ne hn, h]

theorem filter_name_extend_collapsed : ∀ {apis : List Api}, apis.filter (·.name = n) = [Api.duplicateOf n] →
    ∀ more, (extend apis more).filter (·.name = n) = [Api.duplicateOf n]
  | _, h, [] => h
  | _, h, x :: more => filter_name_extend_collapsed (filter_name_push_collapsed h x) more

end

end ApiVec
end AutocxxParse
