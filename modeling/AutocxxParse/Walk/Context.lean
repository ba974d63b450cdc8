import AutocxxParse.Walk.Scope

/-! # Scopes inside the tree

A scope of the root wrapper is reached through a path of inline `mod` items, outermost first;
each step records the siblings before and after the `mod`. The walk of the whole tree runs the
walk of that scope as one contiguous block, in the namespace made of the path's idents, and
what surrounds the block does not depend on the scope's content (`walk_fill`).
-/
namespace AutocxxParse

/-- One enclosing inline `mod`, between its siblings. -/
structure Frame where
  before : List Item
  ident : String
  after : List Item

namespace Frame

/-- The items of the root wrapper, with `items` as the content of the scope at the end of
`path`. -/
def fill : List Frame → List Item → List Item
  | [], items => items
  | f :: path, items => f.before ++ .mod f.ident (some (fill path items)) :: f.after

def pathNs (base : Namespace) (path : List Frame) : Namespace :=
  ⟨base.segments ++ path.map Frame.ident⟩

@[simp] theorem pathNs_nil (base : Namespace) : pathNs base [] = base := by simp [pathNs]

@[simp] theorem pathNs_cons (base : Namespace) (f : Frame) (path : List Frame) :
    pathNs base (f :: path) = pathNs (base.push f.ident) path := by simp [pathNs]

end Frame

namespace ParseBindgen
variable {σ : Type} (self : ParseBindgen σ)

theorem scopeBlocks_append (ns : Namespace) (l₁ l₂ : List Item) :
    self.scopeBlocks ns (l₁ ++ l₂) = (do
      let b₁ ← self.scopeBlocks ns l₁
      let b₂ ← self.scopeBlocks ns l₂
      pure (b₁.1 ++ b₂.1, b₁.2 ++ b₂.2)) := by
  induction l₁ with
  | nil => simp [scopeBlocks]
  | cons item l₁ ih => simp [scopeBlocks, ih]

theorem feedItems_of_no_input (s : σ) {item : Item} (h : item.collectorInput = none)
    (l₁ l₂ : List Item) :
    self.foreignMod.feedItems s (l₁ ++ item :: l₂) = self.foreignMod.feedItems s (l₁ ++ l₂) := by
  simp [ParseForeignMod.feedItems, List.filterMap_append, List.filterMap_cons, h]

/-- The walk of a scope at the end of `path`, given the walk `inner` of its content: each
enclosing scope walks its items before the `mod`, then the block, then its items after it. -/
def runCtx (base : Namespace) : List Frame → Except Panic (List Api) → Except Panic (List Api)
  | [], inner => inner
  | f :: path, inner => do
    let b₁ ← self.scopeBlocks base f.before
    let w ← runCtx (base.push f.ident) path inner
    let b₂ ← self.scopeBlocks base f.after
    pure (self.scopeOutput base (f.before ++ f.after) (b₁.1 ++ w ++ b₂.1) (b₁.2 ++ b₂.2))

theorem walk_cons_scope (base : Namespace) (before after : List Item) (ident : String)
    (items : List Item) :
    self.walk base (before ++ .mod ident (some items) :: after) = (do
      let b₁ ← self.scopeBlocks base before
      let w ← self.walk (base.push ident) items
      let b₂ ← self.scopeBlocks base after
      pure (self.scopeOutput base (before ++ after) (b₁.1 ++ w ++ b₂.1) (b₁.2 ++ b₂.2))) := by
  simp only [walk, scopeBlocks_append, scopeBlocks, itemBlock, scopeOutput,
    self.feedItems_of_no_input _ (rfl : (Item.mod ident (some items)).collectorInput = none)]
  simp [List.append_assoc]

/-- The walk of the tree runs the walk of any scope as one block, in the scope's namespace. -/
theorem walk_fill (base : Namespace) (path : List Frame) (items : List Item) :
    self.walk base (Frame.fill path items) = self.runCtx base path (self.walk (Frame.pathNs base path) items) := by
  induction path generalizing base with
  | nil => simp [Frame.fill, runCtx]
  | cons f path ih => simp [Frame.fill, runCtx, walk_cons_scope, ih]

end ParseBindgen
end AutocxxParse
