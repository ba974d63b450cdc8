import AutocxxParse.Walk.Context
import AutocxxParse.Walk.Entries

/-! # Where an entry comes from

Every Struct, Enum, ForwardDeclaration, Typedef or Const entry of the walk was pushed by
`parse_item` for one declaration of the tree, run in the namespace of the declaration's scope:
the idents of the inline `mod`s around it, outermost first. Error placeholders, the placeholders
`ApiVec::push` leaves for duplicates and collector entries are of other kinds, so none of them is
mistaken for a declaration's entry.
-/
namespace AutocxxParse

theorem Item.isScope_of_producesKind {d : Item} {a : Api} (h : d.producesKind a) : d.isScope = false := by
  cases d with
  | mod _ _ => cases a <;> cases h
  | _ => rfl

namespace ParseBindgen
variable {σ : Type} (self : ParseBindgen σ)

theorem mem_scopeOutput_parsedDecl {ns : Namespace} {items : List Item} {entries errs : List Api}
    {a : Api} (herrs : ∀ x ∈ errs, x.isFunctionOrIgnored) (ha : a ∈ self.scopeOutput ns items entries errs)
    (hd : a.isParsedDecl) : a ∈ entries := by
  have notPlaceholder : ¬ a.isFunctionOrIgnored := fun h => by
    simp [Api.not_parsedDecl_of_functionOrIgnored h] at hd
  rcases List.mem_append.mp ha with ha | ha
  · rcases List.mem_append.mp ha with ha | ha
    · exact ha
    · exact absurd (ApiVec.forall_mem_extend Api.duplicateOf_functionOrIgnored (List.forall_mem_nil _) herrs a ha)
        notPlaceholder
  · exact absurd (self.foreignMod.finished_functions _ a ha) notPlaceholder

def ProducedAt (ns : Namespace) (a : Api) (path : List Frame) (d : Item) : Prop :=
  ∃ r, self.leafEffect (Frame.pathNs ns path) d = .ok r ∧ a ∈ r.2

theorem itemBlock_leaf_origin {ns : Namespace} {item : Item} {b : List Api × List Api} {a : Api}
    (hs : item.isScope = false) (h : self.itemBlock ns item = .ok b) (ha : a ∈ b.1) (xs ys : List Item) :
    ∃ path pre d post, Frame.fill path (pre ++ d :: post) = xs ++ item :: ys ∧
      self.ProducedAt ns a path d := by
  obtain ⟨r, hr, rfl⟩ := except_map_ok.mp ((self.itemBlock_leaf ns hs).symm.trans h)
  exact ⟨[], xs, _, ys, rfl, r, by rw [Frame.pathNs_nil]; exact hr, ha⟩

mutual
theorem itemBlock_origin (ns : Namespace) : ∀ (item : Item) {b : List Api × List Api} {a : Api},
    self.itemBlock ns item = .ok b → a ∈ b.1 → a.isParsedDecl → ∀ xs ys,
      ∃ path pre d post, Frame.fill path (pre ++ d :: post) = xs ++ item :: ys ∧
        self.ProducedAt ns a path d
  | .mod ident (some items), b, a, h, ha, hd, xs, ys => by
    obtain ⟨b', h', rfl⟩ := except_map_ok.mp h
    obtain ⟨path, pre, d, post, hfill, hp⟩ := scopeBlocks_origin (ns.push ident) items h'
      (self.mem_scopeOutput_parsedDecl (self.scopeBlocks_errs h') ha hd) hd []
    exact ⟨⟨xs, ident, ys⟩ :: path, pre, d, post, by simp [Frame.fill, hfill],
      by rw [ProducedAt, Frame.pathNs_cons]; exact hp⟩
  | .mod _ none, b, a, h, ha, _, xs, ys | .foreignMod _, b, a, h, ha, _, xs, ys
  | .struct _, b, a, h, ha, _, xs, ys | .enum _, b, a, h, ha, _, xs, ys
  | .impl _, b, a, h, ha, _, xs, ys | .use _, b, a, h, ha, _, xs, ys
  | .const _, b, a, h, ha, _, xs, ys | .type _, b, a, h, ha, _, xs, ys
  | .other _, b, a, h, ha, _, xs, ys => self.itemBlock_leaf_origin (by rfl) h ha xs ys

theorem scopeBlocks_origin (ns : Namespace) : ∀ (items : List Item) {b : List Api × List Api} {a : Api},
    self.scopeBlocks ns items = .ok b → a ∈ b.1 → a.isParsedDecl → ∀ xs,
      ∃ path pre d post, Frame.fill path (pre ++ d :: post) = xs ++ items ∧
        self.ProducedAt ns a path d
  | [], _, _, h, ha, _, _ => by cases h; cases ha
  | item :: items, _, a, h, ha, hd, xs => by
    obtain ⟨b₁, h₁, h⟩ := except_bind_ok.mp h
    obtain ⟨b₂, h₂, h⟩ := except_bind_ok.mp h
    cases h
    rcases List.mem_append.mp ha with ha | ha
    · exact itemBlock_origin ns item h₁ ha hd xs items
    · obtain ⟨path, pre, d, post, hfill, hp⟩ := scopeBlocks_origin ns items h₂ ha hd (xs ++ [item])
      exact ⟨path, pre, d, post, by simp [hfill], hp⟩
end

theorem walk_origin {ns : Namespace} {items : List Item} {m : List Api} {a : Api}
    (h : self.walk ns items = .ok m) (ha : a ∈ m) (hd : a.isParsedDecl) :
    ∃ path pre d post, Frame.fill path (pre ++ d :: post) = items ∧ self.ProducedAt ns a path d := by
  obtain ⟨b, hb, rfl⟩ := except_map_ok.mp h
  exact self.scopeBlocks_origin ns items hb
    (self.mem_scopeOutput_parsedDecl (self.scopeBlocks_errs hb) ha hd) hd []

theorem mem_walk_of_parseModItems {items : Option (List Item)} {ns : Namespace} {apis m : List Api}
    {a : Api} (h : self.parseModItems items ns apis = .ok (apis ++ m)) (ha : a ∈ m) (hd : a.isParsedDecl) :
    ∃ w, self.walk ns (items.getD []) = .ok w ∧ a ∈ w := by
  rw [parseModItems_walk] at h
  obtain ⟨w, hw, hm⟩ := except_map_ok.mp h
  refine ⟨w, hw, (ApiVec.mem_of_extend_eq_append hm ha).resolve_right fun ⟨n, hn⟩ => ?_⟩
  simp [hn, Api.duplicateOf, Api.isParsedDecl] at hd

/-- Each declaration entry `parse_mod_items` adds was pushed by `parse_item` for a declaration of
its kind, named in the namespace of its scope, where that scope's walk runs. -/
theorem parseModItems_entry_origin (items : List Item) (apis m : List Api)
    (h : self.parseModItems (some items) Namespace.new apis = .ok (apis ++ m)) :
    (∀ a ∈ m, a.isParsedDecl → ∃ path pre d post r,
      Frame.fill path (pre ++ d :: post) = items ∧
      self.leafEffect (Frame.pathNs Namespace.new path) d = .ok r ∧ a ∈ r.2 ∧
      (∀ st, self.parseItem (Frame.pathNs Namespace.new path) d st = .ok (self.leafState st d r)) ∧
      d.producesKind a ∧
      ∃ id, d.declIdent = some id ∧ a.name = QualifiedName.new (Frame.pathNs Namespace.new path) id) ∧
    ∀ path inner, Frame.fill path inner = items →
      self.parseModItems (some items) Namespace.new apis =
        ApiVec.extend apis <$> self.runCtx Namespace.new path (self.walk (Frame.pathNs Namespace.new path) inner) := by
  refine ⟨fun a ha hd => ?_, fun path inner hfill => ?_⟩
  · obtain ⟨w, hw, haw⟩ := self.mem_walk_of_parseModItems h ha hd
    obtain ⟨path, pre, d, post, hfill, r, hr, har⟩ := self.walk_origin hw haw hd
    obtain ⟨hk, hid⟩ := self.leafEffect_entry hr har
    refine ⟨path, pre, d, post, r, hfill, hr, har, fun st => ?_, hk, hid⟩
    rw [self.parseItem_leaf _ (Item.isScope_of_producesKind hk), hr]
    rfl
  · rw [parseModItems_walk, Option.getD_some, ← hfill, walk_fill]

def nestedFoo : List Item := [.mod "a" (some [.struct ⟨"Foo", []⟩])]

def nestedFooEntry : Api := .struct ⟨⟨⟨["a"]⟩, "Foo"⟩, none⟩ ⟨⟨"Foo", []⟩, false⟩

theorem parseModItems_entry_origin_nestedFoo :
    (ParseBindgen.plain IncludeCppConfig.empty).parseModItems (some nestedFoo) Namespace.new [] =
      .ok ([] ++ [nestedFooEntry]) ∧
    ((∀ a ∈ [nestedFooEntry], a.isParsedDecl → ∃ path pre d post r,
      Frame.fill path (pre ++ d :: post) = nestedFoo ∧
      (ParseBindgen.plain IncludeCppConfig.empty).leafEffect (Frame.pathNs Namespace.new path) d = .ok r ∧
      a ∈ r.2 ∧
      (∀ st, (ParseBindgen.plain IncludeCppConfig.empty).parseItem (Frame.pathNs Namespace.new path) d st =
        .ok ((ParseBindgen.plain IncludeCppConfig.empty).leafState st d r)) ∧
      d.producesKind a ∧
      ∃ id, d.declIdent = some id ∧ a.name = QualifiedName.new (Frame.pathNs Namespace.new path) id) ∧
    ∀ path inner, Frame.fill path inner = nestedFoo →
      (ParseBindgen.plain IncludeCppConfig.empty).parseModItems (some nestedFoo) Namespace.new [] =
        ApiVec.extend [] <$> (ParseBindgen.plain IncludeCppConfig.empty).runCtx Namespace.new path
          ((ParseBindgen.plain IncludeCppConfig.empty).walk (Frame.pathNs Namespace.new path) inner)) :=
  ⟨rfl, ParseBindgen.parseModItems_entry_origin (.plain IncludeCppConfig.empty) nestedFoo [] [nestedFooEntry] rfl⟩

end ParseBindgen
end AutocxxParse
