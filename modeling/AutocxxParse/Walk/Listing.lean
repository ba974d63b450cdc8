import AutocxxParse.Walk.Origin

/-! # The declarations of a tree, in document order

The walk interleaves three kinds of entry: what `parse_item` appends for a declaration, as it
reaches it; a scope's deferred error placeholders, once its items are done; and the entries of the
scope's collector, last. A nested scope appends to the same `self.apis`, so its entries land where
its `mod` item stands. Kept to the Struct, Enum, ForwardDeclaration, Typedef and Const entries,
the walk is the listing of the tree's declarations in document order (a pre-order traversal of
the inline `mod`s), each declaration contributing what `parse_item` appends for it in the
namespace of its scope. Error placeholders and collector entries never show up in that listing,
and no declaration's entry is lost, duplicated or moved.
-/
namespace AutocxxParse

theorem Api.isParsedDecl_of_producesKind {d : Item} {a : Api} (h : d.producesKind a) : a.isParsedDecl := by
  cases d <;> cases a <;> first | rfl | cases h

namespace ParseBindgen
variable {σ : Type} (self : ParseBindgen σ)

mutual
/-- The entries `parse_item` appends for the declarations of an item, in document order: a
declaration's own entries, or the listing of a nested scope in the pushed namespace. -/
def itemDecls (ns : Namespace) : Item → Except Panic (List Api)
  | .mod ident (some items) => scopeDecls (ns.push ident) items
  | item => (·.2) <$> self.leafEffect ns item

def scopeDecls (ns : Namespace) : List Item → Except Panic (List Api)
  | [] => pure []
  | item :: items => do
    let a ← itemDecls ns item
    let b ← scopeDecls ns items
    pure (a ++ b)
end

theorem leafEffect_filter_parsedDecl {ns : Namespace} {d : Item} {r : ArmResult}
    (h : self.leafEffect ns d = .ok r) : r.2.filter Api.isParsedDecl = r.2 :=
  List.filter_eq_self.mpr fun _ ha => Api.isParsedDecl_of_producesKind (self.leafEffect_entry h ha).1

theorem scopeOutput_filter_parsedDecl (ns : Namespace) (items : List Item) (entries : List Api)
    {errs : List Api} (herrs : ∀ a ∈ errs, a.isFunctionOrIgnored) :
    (self.scopeOutput ns items entries errs).filter Api.isParsedDecl = entries.filter Api.isParsedDecl := by
  have hnone : ∀ l : List Api, (∀ a ∈ l, a.isFunctionOrIgnored) → l.filter Api.isParsedDecl = [] :=
    fun l hl => List.filter_eq_nil_iff.mpr fun a ha => by
      simp [Api.not_parsedDecl_of_functionOrIgnored (hl a ha)]
  rw [scopeOutput, List.filter_append, List.filter_append,
    hnone _ (ApiVec.forall_mem_extend Api.duplicateOf_functionOrIgnored (List.forall_mem_nil _) herrs),
    hnone _ (self.foreignMod.finished_functions _), List.append_nil, List.append_nil]

theorem scopeOutput_decls (ns : Namespace) (items : List Item) :
    (fun b => (self.scopeOutput ns items b.1 b.2).filter Api.isParsedDecl) <$> self.scopeBlocks ns items =
      (fun b => b.1.filter Api.isParsedDecl) <$> self.scopeBlocks ns items := by
  cases h : self.scopeBlocks ns items with
  | error => rfl
  | ok b => exact congrArg Except.ok (self.scopeOutput_filter_parsedDecl _ _ _ (self.scopeBlocks_errs h))

theorem itemBlock_decls_leaf (ns : Namespace) {item : Item} (hs : item.isScope = false) :
    (fun b => b.1.filter Api.isParsedDecl) <$> self.itemBlock ns item = self.itemDecls ns item := by
  have hd : self.itemDecls ns item = (·.2) <$> self.leafEffect ns item := by
    cases item with
    | mod ident content => cases content with
      | none => rfl
      | some => cases hs
    | _ => rfl
  rw [itemBlock_leaf _ _ hs, hd, Functor.map_map]
  cases h : self.leafEffect ns item with
  | error => rfl
  | ok r => exact congrArg Except.ok (self.leafEffect_filter_parsedDecl h)

mutual
theorem itemBlock_decls (ns : Namespace) : ∀ item : Item,
    (fun b => b.1.filter Api.isParsedDecl) <$> self.itemBlock ns item = self.itemDecls ns item
  | .mod ident (some items) => by
    rw [itemBlock, itemDecls, ← scopeBlocks_decls (ns.push ident) items, Functor.map_map]
    exact self.scopeOutput_decls _ _
  | .mod _ none | .foreignMod _ | .struct _ | .enum _ | .impl _ | .use _ | .const _ | .type _
  | .other _ => self.itemBlock_decls_leaf ns (by rfl)

theorem scopeBlocks_decls (ns : Namespace) : ∀ items : List Item,
    (fun b => b.1.filter Api.isParsedDecl) <$> self.scopeBlocks ns items = self.scopeDecls ns items
  | [] => rfl
  | item :: items => by
    simp only [scopeBlocks, scopeDecls, ← itemBlock_decls ns item, ← scopeBlocks_decls ns items,
      map_bind, bind_map_left, map_pure, List.filter_append]
end

theorem walk_decls (ns : Namespace) (items : List Item) :
    (·.filter Api.isParsedDecl) <$> self.walk ns items = self.scopeDecls ns items := by
  rw [walk, ← scopeBlocks_decls, Functor.map_map, scopeOutput_decls]

/-- What `parse_mod_items` pushes, kept to declaration entries, is the tree's declarations in
document order; when no two names collide it is appended to `self.apis` whole. -/
theorem parseModItems_decls (items : List Item) (ns : Namespace) (apis : List Api) :
    self.parseModItems (some items) ns apis = ApiVec.extend apis <$> self.walk ns items ∧
    (·.filter Api.isParsedDecl) <$> self.walk ns items = self.scopeDecls ns items ∧
    ∀ w, self.walk ns items = .ok w → ApiVec.NamesNodup (apis ++ w) →
      self.parseModItems (some items) ns apis = .ok (apis ++ w) := by
  have hm := self.parseModItems_walk (some items) ns apis
  refine ⟨hm, self.walk_decls ns items, fun w hw hnd => ?_⟩
  rw [hm, Option.getD_some, hw, ← ApiVec.extend_of_namesNodup hnd]
  rfl

end ParseBindgen
end AutocxxParse
