import AutocxxParse.Walk.Context
import AutocxxParse.Pass.ParseItems

/-! # When the pass aborts

The pass panics in two places only: the `assert!` of `find_items_in_root` on the name of the
first `mod` it meets, and the `assert!`s (with their `Vec::remove`s) of the `Item::Use` arm on the
path before a rename. So `parse_items` aborts exactly when that `mod` is not `root`, or when, the
configuration merged, some `use` at any depth of the root renames along a path that does not
start with `self::super`.
-/
namespace AutocxxParse

def panics {α : Type} : Except Panic α → Bool
  | .error _ => true
  | .ok _ => false

@[simp] theorem panics_ok {α : Type} (a : α) : panics (.ok a : Except Panic α) = false := rfl

@[simp] theorem panics_error {α : Type} (p : Panic) : panics (.error p : Except Panic α) = true := rfl

@[simp] theorem except_error_bind {ε α β : Type} (e : ε) (f : α → Except ε β) :
    (Except.error e : Except ε α) >>= f = .error e := rfl

@[simp] theorem panics_pure {α : Type} (a : α) : panics (pure a : Except Panic α) = false := rfl

@[simp] theorem panics_map {α β : Type} (f : α → β) (x : Except Panic α) :
    panics (f <$> x) = panics x := by
  cases x <;> rfl

theorem panics_bind {α β : Type} (x : Except Panic α) (f : α → Except Panic β) :
    panics (x >>= f) = true ↔ panics x = true ∨ ∃ a, x = .ok a ∧ panics (f a) = true := by
  cases x <;> simp

/-- Whether the loop of the `Item::Use` arm stops at a rename, other than to `bindgen_cchar16_t`,
after a path that does not start with `self::super`: there its `assert!`s fail. -/
def UseTree.breaksAssertion : List String → UseTree → Bool
  | segs, .path ident tree => breaksAssertion (segs ++ [ident]) tree
  | segs, .rename _ newId =>
    decide (newId ≠ "bindgen_cchar16_t") && decide (segs.take 2 ≠ ["self", "super"])
  | _, _ => false

/-- The items `find_items_in_root` walks past: any item but a `mod`, and a `mod root` without
content. -/
def Item.skippedByRootSearch : Item → Bool
  | .mod ident none => decide (ident = "root")
  | .mod _ (some _) => false
  | _ => true

namespace ParseBindgen
variable {σ : Type} (self : ParseBindgen σ)

theorem parseUseTree_panics (ns : Namespace) (apis : List Api) : ∀ (segs : List String) (t : UseTree),
    panics (self.parseUseTree ns apis segs t) = t.breaksAssertion segs
  | segs, .path ident tree => parseUseTree_panics ns apis (segs ++ [ident]) tree
  | segs, .rename oldId newId => by
    simp only [parseUseTree, UseTree.breaksAssertion]
    by_cases hn : newId = "bindgen_cchar16_t"
    · simp [hn]
    · rcases segs with _ | ⟨s₁, _ | ⟨s₂, rest⟩⟩
      · simp [hn, removeFirstAsserting]
      · by_cases h₁ : s₁ = "self" <;> simp [hn, h₁, removeFirstAsserting]
      · by_cases h₁ : s₁ = "self" <;> by_cases h₂ : s₂ = "super" <;>
          simp [hn, h₁, h₂, removeFirstAsserting, apply_ite panics]
  | _, .name _ | _, .glob | _, .group _ => rfl

mutual
theorem itemBlock_panics (ns : Namespace) : ∀ item : Item, panics (self.itemBlock ns item) = true →
    ∀ xs ys, ∃ path pre t post, Frame.fill path (pre ++ .use t :: post) = xs ++ item :: ys ∧
      t.breaksAssertion [] = true
  | .mod ident (some items), h, xs, ys => by
    obtain ⟨path, pre, t, post, hfill, ht⟩ :=
      scopeBlocks_panics (ns.push ident) items (by simpa [itemBlock] using h) []
    exact ⟨⟨xs, ident, ys⟩ :: path, pre, t, post, by simp [Frame.fill, hfill], ht⟩
  | .use t, h, xs, ys =>
    ⟨[], xs, t, ys, rfl, by simpa [itemBlock, leafEffect, parseUseTree_panics] using h⟩
  | .mod _ none, h, _, _ | .foreignMod _, h, _, _ | .struct _, h, _, _ | .enum _, h, _, _
  | .impl _, h, _, _ | .const _, h, _, _ | .type _, h, _, _ | .other _, h, _, _ => by
    simp [itemBlock, leafEffect] at h

theorem scopeBlocks_panics (ns : Namespace) : ∀ items : List Item,
    panics (self.scopeBlocks ns items) = true →
    ∀ xs, ∃ path pre t post, Frame.fill path (pre ++ .use t :: post) = xs ++ items ∧
      t.breaksAssertion [] = true
  | [], h, _ => by simp [scopeBlocks] at h
  | item :: items, h, xs => by
    simp only [scopeBlocks] at h
    rcases (panics_bind _ _).mp h with h | ⟨_, -, h⟩
    · exact itemBlock_panics ns item h xs items
    · rcases (panics_bind _ _).mp h with h | ⟨_, -, h⟩
      · obtain ⟨path, pre, t, post, hfill, ht⟩ := scopeBlocks_panics ns items h (xs ++ [item])
        exact ⟨path, pre, t, post, by simp [hfill], ht⟩
      · simp at h
end

theorem scopeBlocks_append_panics (ns : Namespace) (pre : List Item) {rest : List Item}
    (h : panics (self.scopeBlocks ns rest) = true) : panics (self.scopeBlocks ns (pre ++ rest)) = true := by
  rw [scopeBlocks_append, panics_bind]
  cases self.scopeBlocks ns pre with
  | error => exact .inl rfl
  | ok b => exact .inr ⟨b, rfl, (panics_bind _ _).mpr (.inl h)⟩

theorem runCtx_panics (base : Namespace) (path : List Frame) {inner : Except Panic (List Api)}
    (h : panics inner = true) : panics (self.runCtx base path inner) = true := by
  induction path generalizing base with
  | nil => exact h
  | cons f path ih =>
    simp only [runCtx, panics_bind]
    cases self.scopeBlocks base f.before with
    | error => exact .inl rfl
    | ok b => exact .inr ⟨b, rfl, .inl (ih _)⟩

/-- The walk of a scope panics exactly when some `use` at some depth below it renames along a
path that does not start with `self::super`. -/
theorem walk_panics_iff (ns : Namespace) (items : List Item) :
    panics (self.walk ns items) = true ↔
      ∃ path pre t post, Frame.fill path (pre ++ .use t :: post) = items ∧ t.breaksAssertion [] = true := by
  refine ⟨fun h => self.scopeBlocks_panics ns items (by simpa [walk] using h) [], ?_⟩
  rintro ⟨path, pre, t, post, rfl, ht⟩
  rw [walk_fill]
  refine self.runCtx_panics ns path ?_
  simp only [walk, panics_map]
  refine self.scopeBlocks_append_panics _ pre ?_
  simp only [scopeBlocks, panics_bind]
  exact .inl (by simpa [itemBlock, leafEffect, parseUseTree_panics] using ht)

/-- The pass panics exactly when `find_items_in_root` does, or when, the configuration merged,
some `use` at some depth of the root renames along a path not starting with `self::super`. -/
theorem parseItems_panics_iff (items : List Item) (sourceFileContents : String) :
    panics (self.parseItems items sourceFileContents) = true ↔
      panics (findItemsInRoot items) = true ∨
      ∃ root apis, findItemsInRoot items = .ok (.ok root) ∧
        self.addApisFromConfig self.utilityEntries sourceFileContents = .ok apis ∧
        ∃ path pre t post, Frame.fill path (pre ++ .use t :: post) = root.getD [] ∧
          t.breaksAssertion [] = true := by
  rw [parseItems_eq]
  cases findItemsInRoot items with
  | error => simp
  | ok found =>
    cases found with
    | error => simp
    | ok root =>
      simp only [except_ok_bind]
      cases self.addApisFromConfig self.utilityEntries sourceFileContents with
      | error => simp
      | ok apis => simp [parseModItems_walk, walk_panics_iff]

example : panics ((ParseBindgen.plain IncludeCppConfig.empty).parseItems
    [.mod "root" (some [.mod "a" (some [.use (.path "crate" (.rename "A" "B"))])])] "") = true := rfl

theorem findItemsInRoot_skipped {pre : List Item} (h : ∀ i ∈ pre, i.skippedByRootSearch)
    (rest : List Item) : findItemsInRoot (pre ++ rest) = findItemsInRoot rest := by
  induction pre with
  | nil => rfl
  | cons i pre ih =>
    rw [List.cons_append, ← ih fun j hj => h j (.tail _ hj)]
    have hi := h i (.head _)
    cases i with
    | mod ident content =>
      cases content with
      | none => simp_all [Item.skippedByRootSearch, findItemsInRoot]
      | some => cases hi
    | _ => rfl

theorem rootSearch_stop (items : List Item) :
    (∀ i ∈ items, i.skippedByRootSearch) ∨ ∃ pre d post, items = pre ++ d :: post ∧
      (∀ i ∈ pre, i.skippedByRootSearch) ∧ d.skippedByRootSearch = false := by
  cases h : items.dropWhile Item.skippedByRootSearch with
  | nil => exact .inl (List.dropWhile_eq_nil_iff.mp h)
  | cons d post =>
    refine .inr ⟨items.takeWhile Item.skippedByRootSearch, d, post,
      by rw [← h, List.takeWhile_append_dropWhile], fun i hi => List.mem_takeWhile_imp hi, ?_⟩
    simpa [h] using List.head_dropWhile_not Item.skippedByRootSearch items (by simp [h])

theorem findItemsInRoot_stop {d : Item} (hd : d.skippedByRootSearch = false) (post : List Item) :
    (∃ c, d = .mod "root" (some c) ∧ findItemsInRoot (d :: post) = .ok (.ok (some c))) ∨
    ∃ ident content, d = .mod ident content ∧ ident ≠ "root" ∧
      panics (findItemsInRoot (d :: post)) = true := by
  cases d with
  | mod ident content =>
    by_cases hr : ident = "root"
    · subst hr
      cases content with
      | none => cases hd
      | some c => exact .inl ⟨c, rfl, rfl⟩
    · exact .inr ⟨ident, content, rfl, hr, by simp [findItemsInRoot, hr]⟩
  | _ => cases hd

theorem findItemsInRoot_cases (items : List Item) :
    (findItemsInRoot items = .ok (.ok none) ∧ ∀ i ∈ items, i.skippedByRootSearch) ∨
    (∃ pre c post, items = pre ++ .mod "root" (some c) :: post ∧ (∀ i ∈ pre, i.skippedByRootSearch) ∧
      findItemsInRoot items = .ok (.ok (some c))) ∨
    ∃ pre ident content post, items = pre ++ .mod ident content :: post ∧ ident ≠ "root" ∧
      (∀ i ∈ pre, i.skippedByRootSearch) ∧ panics (findItemsInRoot items) = true := by
  rcases rootSearch_stop items with hall | ⟨pre, d, post, rfl, hpre, hd⟩
  · exact .inl ⟨by simpa using findItemsInRoot_skipped hall [], hall⟩
  · rw [findItemsInRoot_skipped hpre]
    rcases findItemsInRoot_stop hd post with ⟨c, rfl, hc⟩ | ⟨ident, content, rfl, hr, hp⟩
    · exact .inr (.inl ⟨pre, c, post, rfl, hpre, hc⟩)
    · exact .inr (.inr ⟨pre, ident, content, post, rfl, hr, hpre, hp⟩)

/-- What `find_items_in_root` returns, for every list of items; it never returns an error. -/
theorem findItemsInRoot_spec (items : List Item) :
    (∀ c, findItemsInRoot items = .ok (.ok (some c)) ↔ ∃ pre post,
      items = pre ++ .mod "root" (some c) :: post ∧ ∀ i ∈ pre, i.skippedByRootSearch) ∧
    (findItemsInRoot items = .ok (.ok none) ↔ ∀ i ∈ items, i.skippedByRootSearch) ∧
    (panics (findItemsInRoot items) = true ↔ ∃ pre ident content post,
      items = pre ++ .mod ident content :: post ∧ ident ≠ "root" ∧ ∀ i ∈ pre, i.skippedByRootSearch) ∧
    ∀ e, findItemsInRoot items ≠ .ok (.error e) := by
  refine ⟨fun c => ⟨fun h => ?_, ?_⟩, ⟨fun h => ?_, fun h => ?_⟩, ⟨fun h => ?_, ?_⟩, fun e h => ?_⟩
  · rcases findItemsInRoot_cases items with
      ⟨hf, -⟩ | ⟨pre, c', post, rfl, hpre, hf⟩ | ⟨_, _, _, _, _, _, _, hp⟩
    · simp [hf] at h
    · obtain rfl : c' = c := by simpa [hf] using h
      exact ⟨pre, post, rfl, hpre⟩
    · simp [h] at hp
  · rintro ⟨pre, post, rfl, hpre⟩
    rw [findItemsInRoot_skipped hpre]
    rfl
  · rcases findItemsInRoot_cases items with
      ⟨-, hall⟩ | ⟨_, _, _, _, _, hf⟩ | ⟨_, _, _, _, _, _, _, hp⟩
    · exact hall
    · simp [hf] at h
    · simp [h] at hp
  · simpa using findItemsInRoot_skipped h []
  · rcases findItemsInRoot_cases items with
      ⟨hf, -⟩ | ⟨_, _, _, _, _, hf⟩ | ⟨pre, ident, content, post, rfl, hr, hpre, -⟩
    · simp [hf] at h
    · simp [hf] at h
    · exact ⟨pre, ident, content, post, rfl, hr, hpre⟩
  · rintro ⟨pre, ident, content, post, rfl, hr, hpre⟩
    rw [findItemsInRoot_skipped hpre]
    simp [findItemsInRoot, hr]
  · rcases findItemsInRoot_cases items with
      ⟨hf, -⟩ | ⟨_, _, _, _, _, hf⟩ | ⟨_, _, _, _, _, _, _, hp⟩
    · simp [hf] at h
    · simp [hf] at h
    · simp [h] at hp

end ParseBindgen
end AutocxxParse
