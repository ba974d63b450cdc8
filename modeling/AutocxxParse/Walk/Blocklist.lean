import AutocxxParse.Walk.Entries

/-! # The block list

Only the Struct and Enum arms of `parse_item` consult the block list, each at its single
`push`, and only for the Struct, ForwardDeclaration or Enum entry it is about to push. So
growing the block list removes exactly those entries from what the walk pushes and nothing else:
no error placeholder, no collector entry, no other entry and no order changes, in every scope.
The model is what `ApiVec::push` makes of that sequence, so it can change by more: an entry that
collided with a blocked one now stays.
-/
namespace AutocxxParse
namespace ParseBindgen
variable {σ : Type} (self : ParseBindgen σ)

def withBlocklist (B : List String) : ParseBindgen σ :=
  { self with config := { self.config with blocklist := B } }

/-- The entries the block list `B` removes: Structs, Enums and ForwardDeclarations whose C++
name is on it. -/
def blockedBy (B : List String) (a : Api) : Bool :=
  a.isBlockable && decide (self.env.toCppName a.name ∈ B)

/-- The entries that remain when the block list `B` applies, in their order. -/
def removeBlocked (B : List String) (apis : List Api) : List Api :=
  apis.filter fun a => !self.blockedBy B a

section
variable (B : List String)

@[simp] theorem withBlocklist_env : (self.withBlocklist B).env = self.env := rfl
@[simp] theorem withBlocklist_foreignMod : (self.withBlocklist B).foreignMod = self.foreignMod := rfl
@[simp] theorem withBlocklist_reporter : (self.withBlocklist B).reporter = self.reporter := rfl
@[simp] theorem withBlocklist_structApi : (self.withBlocklist B).structApi = self.structApi := rfl
@[simp] theorem withBlocklist_parseConst : (self.withBlocklist B).parseConst = self.parseConst := rfl
@[simp] theorem withBlocklist_parseType : (self.withBlocklist B).parseType = self.parseType := rfl

theorem withBlocklist_parseUseTree (ns : Namespace) (apis : List Api) :
    ∀ (segs : List String) (t : UseTree),
      (self.withBlocklist B).parseUseTree ns apis segs t = self.parseUseTree ns apis segs t
  | segs, .path ident tree => withBlocklist_parseUseTree ns apis (segs ++ [ident]) tree
  | _, .rename _ _ | _, .name _ | _, .glob | _, .group _ => rfl

@[simp] theorem removeBlocked_append (l₁ l₂ : List Api) :
    self.removeBlocked B (l₁ ++ l₂) = self.removeBlocked B l₁ ++ self.removeBlocked B l₂ :=
  List.filter_append _ _

theorem removeBlocked_of_unblockable {l : List Api} (h : ∀ a ∈ l, a.isBlockable = false) :
    self.removeBlocked B l = l :=
  List.filter_eq_self.mpr fun a ha => by simp [blockedBy, h a ha]

theorem removeBlocked_of_functionOrIgnored {l : List Api} (h : ∀ a ∈ l, a.isFunctionOrIgnored) :
    self.removeBlocked B l = l :=
  self.removeBlocked_of_unblockable B fun a ha => by
    cases hb : a.isBlockable
    · rfl
    · simpa [Api.not_parsedDecl_of_functionOrIgnored (h a ha)] using Api.isBlockable_parsedDecl hb

theorem scopeOutput_withBlocklist (ns : Namespace) (items : List Item) (entries : List Api)
    {errs : List Api} (herrs : ∀ a ∈ errs, a.isFunctionOrIgnored) :
    (self.withBlocklist B).scopeOutput ns items (self.removeBlocked B entries) errs =
      self.removeBlocked B (self.scopeOutput ns items entries errs) := by
  simp only [scopeOutput, withBlocklist_foreignMod, removeBlocked_append,
    self.removeBlocked_of_functionOrIgnored B (self.foreignMod.finished_functions _),
    self.removeBlocked_of_functionOrIgnored B
      (ApiVec.forall_mem_extend Api.duplicateOf_functionOrIgnored (List.forall_mem_nil _) herrs)]

theorem removeBlocked_leafEffect {ns : Namespace} {d : Item}
    (hd : ∀ a, d.producesKind a → a.isBlockable = false) :
    (fun r => (r.1, self.removeBlocked B r.2)) <$> self.leafEffect ns d = self.leafEffect ns d := by
  cases h : self.leafEffect ns d with
  | error => rfl
  | ok r =>
    show Except.ok (r.1, _) = _
    rw [self.removeBlocked_of_unblockable B fun a ha => hd a (self.leafEffect_entry h ha).1]

end

theorem structApi_blockable {ns : Namespace} {s : ItemStruct} {name : ApiName} {api : Api}
    (h : self.structApi ns s name = some api) : api.isBlockable := by
  have hk := (self.structApi_some h).2
  cases api <;> cases hk <;> rfl

section
variable {B' : List String} (hB : ∀ x ∈ self.config.blocklist, x ∈ B')
include hB

theorem pushUnlessBlocked_withBlocklist {api : Api} (ha : api.isBlockable) :
    (self.withBlocklist B').pushUnlessBlocked [] api =
      (self.pushUnlessBlocked [] api).filter (fun a => !self.blockedBy B' a) := by
  unfold pushUnlessBlocked blockedBy IncludeCppConfig.isOnBlocklist
  by_cases h' : self.env.toCppName api.name ∈ B'
  · by_cases h : self.env.toCppName api.name ∈ self.config.blocklist <;> simp [withBlocklist, h, h', ha]
  · have h : self.env.toCppName api.name ∉ self.config.blocklist := fun h => h' (hB _ h)
    simp [withBlocklist, h, h', ha]

theorem parseStruct_withBlocklist (ns : Namespace) (s : ItemStruct) :
    (self.withBlocklist B').parseStruct ns s [] =
      ((self.parseStruct ns s []).1, self.removeBlocked B' (self.parseStruct ns s []).2) := by
  unfold parseStruct
  simp only [withBlocklist_env, withBlocklist_structApi]
  split
  · rfl
  · split
    · rfl
    · split
      · rfl
      · split
        · rw [self.pushUnlessBlocked_withBlocklist hB (self.structApi_blockable ‹_›)]; rfl
        · rfl

theorem parseEnum_withBlocklist (ns : Namespace) (e : ItemEnum) :
    (self.withBlocklist B').parseEnum ns e [] =
      ((self.parseEnum ns e []).1, self.removeBlocked B' (self.parseEnum ns e []).2) := by
  unfold parseEnum
  simp only [withBlocklist_env]
  split
  · rfl
  · rename_i name _
    rw [self.pushUnlessBlocked_withBlocklist hB (rfl : (Api.enum name e).isBlockable = true)]; rfl

theorem leafEffect_withBlocklist (ns : Namespace) (d : Item) :
    (self.withBlocklist B').leafEffect ns d =
      (fun r => (r.1, self.removeBlocked B' r.2)) <$> self.leafEffect ns d := by
  cases d with
  | struct s => exact congrArg pure (self.parseStruct_withBlocklist hB ns s)
  | enum e => exact congrArg pure (self.parseEnum_withBlocklist hB ns e)
  | use tree =>
    rw [self.removeBlocked_leafEffect B' fun a h => by cases a <;> cases h; rfl]
    exact self.withBlocklist_parseUseTree B' ns [] [] tree
  | const _ | type _ | foreignMod _ | impl _ | mod _ _ | other _ =>
    rw [self.removeBlocked_leafEffect B' fun a h => by cases a <;> cases h <;> rfl]
    rfl

theorem itemBlock_withBlocklist_leaf (ns : Namespace) {item : Item} (h : item.isScope = false) :
    (self.withBlocklist B').itemBlock ns item =
      (fun b => (self.removeBlocked B' b.1, b.2)) <$> self.itemBlock ns item := by
  rw [itemBlock_leaf _ _ h, itemBlock_leaf _ _ h, leafEffect_withBlocklist self hB]
  simp only [Functor.map_map, withBlocklist_reporter]

end

mutual
theorem itemBlock_withBlocklist {B' : List String} (hB : ∀ x ∈ self.config.blocklist, x ∈ B')
    (ns : Namespace) : ∀ item : Item,
    (self.withBlocklist B').itemBlock ns item =
      (fun b => (self.removeBlocked B' b.1, b.2)) <$> self.itemBlock ns item
  | .mod ident (some items) => by
    simp only [itemBlock, scopeBlocks_withBlocklist hB (ns.push ident) items, Functor.map_map]
    cases h : self.scopeBlocks (ns.push ident) items with
    | error => rfl
    | ok b =>
      exact congrArg (fun w => (Except.ok (w, []) : Except Panic (List Api × List Api)))
        (self.scopeOutput_withBlocklist B' _ items b.1 (self.scopeBlocks_errs h))
  | .mod _ none | .foreignMod _ | .struct _ | .enum _ | .impl _ | .use _ | .const _ | .type _
  | .other _ => self.itemBlock_withBlocklist_leaf hB ns (by rfl)

theorem scopeBlocks_withBlocklist {B' : List String} (hB : ∀ x ∈ self.config.blocklist, x ∈ B')
    (ns : Namespace) : ∀ items : List Item,
    (self.withBlocklist B').scopeBlocks ns items =
      (fun b => (self.removeBlocked B' b.1, b.2)) <$> self.scopeBlocks ns items
  | [] => rfl
  | item :: items => by
    simp only [scopeBlocks, itemBlock_withBlocklist hB ns item, scopeBlocks_withBlocklist hB ns items,
      bind_map_left, map_bind, map_pure, removeBlocked_append]
end

section
variable {B' : List String} (hB : ∀ x ∈ self.config.blocklist, x ∈ B')
include hB

theorem walk_withBlocklist (ns : Namespace) (items : List Item) :
    (self.withBlocklist B').walk ns items = self.removeBlocked B' <$> self.walk ns items := by
  simp only [walk, scopeBlocks_withBlocklist self hB, Functor.map_map]
  cases h : self.scopeBlocks ns items with
  | error => rfl
  | ok b => exact congrArg Except.ok (self.scopeOutput_withBlocklist B' ns items b.1 (self.scopeBlocks_errs h))

/-- Growing the block list removes the blocked Structs, Enums and ForwardDeclarations from what
the walk pushes, and none of them ever reaches the model. -/
theorem parseModItems_blocklist (items : Option (List Item)) (ns : Namespace) (apis : List Api) :
    self.parseModItems items ns apis = ApiVec.extend apis <$> self.walk ns (items.getD []) ∧
    (self.withBlocklist B').parseModItems items ns apis =
      ApiVec.extend apis <$> (self.removeBlocked B' <$> self.walk ns (items.getD [])) ∧
    ∀ M, (self.withBlocklist B').parseModItems items ns apis = .ok M →
      ∀ a ∈ M, a ∉ apis → a.isBlockable → self.env.toCppName a.name ∉ B' := by
  have hB' : (self.withBlocklist B').parseModItems items ns apis =
      ApiVec.extend apis <$> (self.removeBlocked B' <$> self.walk ns (items.getD [])) := by
    rw [parseModItems_walk, walk_withBlocklist self hB]
  refine ⟨self.parseModItems_walk items ns apis, hB', fun M hM a ha hnew hb hn => ?_⟩
  obtain ⟨w, hw, rfl⟩ := except_map_ok.mp (hB'.symm.trans hM)
  obtain ⟨w₀, -, rfl⟩ := except_map_ok.mp hw
  rcases ApiVec.mem_extend ha with ha | ha | ⟨n, rfl⟩
  · exact hnew ha
  · simpa [removeBlocked, blockedBy, hb, hn] using (List.mem_filter.mp ha).2
  · cases hb

end

def nestedFooBarItems : List Item :=
  [.mod "a" (some [.struct ⟨"Foo", []⟩, .enum ⟨"Bar", []⟩]), .struct ⟨"Foo", []⟩]

theorem parseModItems_blocklist_nestedFoo :
    (∀ x ∈ (ParseBindgen.plain IncludeCppConfig.empty).config.blocklist, x ∈ ["a::Foo"]) ∧
    ((ParseBindgen.plain IncludeCppConfig.empty).parseModItems (some nestedFooBarItems) Namespace.new [] =
      ApiVec.extend [] <$> (ParseBindgen.plain IncludeCppConfig.empty).walk Namespace.new nestedFooBarItems ∧
    ((ParseBindgen.plain IncludeCppConfig.empty).withBlocklist ["a::Foo"]).parseModItems
        (some nestedFooBarItems) Namespace.new [] =
      ApiVec.extend [] <$> ((ParseBindgen.plain IncludeCppConfig.empty).removeBlocked ["a::Foo"] <$>
        (ParseBindgen.plain IncludeCppConfig.empty).walk Namespace.new nestedFooBarItems) ∧
    ∀ M, ((ParseBindgen.plain IncludeCppConfig.empty).withBlocklist ["a::Foo"]).parseModItems
        (some nestedFooBarItems) Namespace.new [] = .ok M →
      ∀ a ∈ M, a ∉ ([] : List Api) → a.isBlockable → Env.plain.toCppName a.name ∉ ["a::Foo"]) :=
  ⟨(fun _ h => nomatch h), @ParseBindgen.parseModItems_blocklist Unit (.plain IncludeCppConfig.empty)
    ["a::Foo"] (fun _ h => nomatch h) (some nestedFooBarItems) Namespace.new []⟩

-- The namespaced entry blocks the struct of `a` and leaves the root's `Foo`.
example : ((ParseBindgen.plain IncludeCppConfig.empty).withBlocklist ["a::Foo"]).parseModItems
    (some nestedFooBarItems) Namespace.new [] =
      .ok [.enum ⟨⟨⟨["a"]⟩, "Bar"⟩, none⟩ ⟨"Bar", []⟩, .struct ⟨⟨Namespace.new, "Foo"⟩, none⟩ ⟨⟨"Foo", []⟩, false⟩] :=
  rfl

def structTypeFoo : List Item := [.struct ⟨"Foo", []⟩, .type ⟨"Foo", .other "u32"⟩]

/-- The struct and the alias collapse into one placeholder; blocking `Foo` leaves the alias. -/
theorem parseModItems_blocklist_structTypeFoo :
    (ParseBindgen.plain IncludeCppConfig.empty).parseModItems (some structTypeFoo) Namespace.new [] =
      .ok [Api.duplicateOf ⟨Namespace.new, "Foo"⟩] ∧
    ((ParseBindgen.plain IncludeCppConfig.empty).withBlocklist ["Foo"]).parseModItems
        (some structTypeFoo) Namespace.new [] =
      .ok [.typedef ⟨⟨Namespace.new, "Foo"⟩, none⟩ (.type ⟨"Foo", .other "u32"⟩) none] ∧
    (ParseBindgen.plain IncludeCppConfig.empty).removeBlocked ["Foo"] [Api.duplicateOf ⟨Namespace.new, "Foo"⟩] =
      [Api.duplicateOf ⟨Namespace.new, "Foo"⟩] :=
  ⟨rfl, rfl, rfl⟩

end ParseBindgen
end AutocxxParse
