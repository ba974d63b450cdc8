import AutocxxParse.Model.ParseBindgen

/-! # The walk, scope by scope

`parse_mod_items` threads three accumulators: `self.apis`, the scope's `more_apis` and the
scope's `mod_converter`. No arm reads them back: they only push into the two `ApiVec`s and feed
the collector. So what a scope pushes into `self.apis` is a plain function of its items: what
each item pushes (a nested scope's sequence as one block), then the scope's `more_apis` (its
deferred placeholders, pushed into that `ApiVec` in turn), then the entries of a fresh collector
fed the scope's own `extern "C"` lists and impl blocks. `scopeBlocks` and `walk` give that
sequence, and `parseModItems_walk` proves that `parse_mod_items` pushes it, entry by entry, into
`self.apis`.
-/
namespace AutocxxParse

inductive CollectorInput where
  | foreignModItems (items : List ForeignItem)
  | implItems (imp : ItemImpl)

def Item.collectorInput : Item → Option CollectorInput
  | .foreignMod items => some (.foreignModItems items)
  | .impl imp => some (.implItems imp)
  | _ => none

def Item.isScope : Item → Bool
  | .mod _ (some _) => true
  | _ => false

namespace ParseForeignMod
variable {σ : Type} (C : ParseForeignMod σ)

def feed (s : σ) : CollectorInput → σ
  | .foreignModItems items => C.convertForeignModItems s items
  | .implItems imp => C.convertImplItems s imp

def feedItems (s : σ) (items : List Item) : σ := (items.filterMap Item.collectorInput).foldl C.feed s

theorem feedItems_cons (s : σ) (item : Item) (items : List Item) :
    C.feedItems s (item :: items) = C.feedItems (C.feedItems s [item]) items := by
  unfold feedItems; cases h : item.collectorInput <;> simp [List.filterMap_cons, h]

end ParseForeignMod

theorem except_bind_ok {ε α β : Type} {x : Except ε α} {f : α → Except ε β} {b : β} :
    x >>= f = .ok b ↔ ∃ a, x = .ok a ∧ f a = .ok b := by
  cases x <;> simp [bind, Except.bind]

@[simp] theorem except_ok_bind {ε α β : Type} (a : α) (f : α → Except ε β) :
    (Except.ok a : Except ε α) >>= f = f a := rfl

theorem except_map_ok {ε α β : Type} {x : Except ε α} {f : α → β} {b : β} :
    f <$> x = .ok b ↔ ∃ a, x = .ok a ∧ f a = b := by
  cases x <;> simp [Functor.map, Except.map]

/-- The placeholders `report_any_error` pushes for one item's result. -/
def ErrorReporter.reported (R : ErrorReporter) (ns : Namespace) : Except ConvertErrorWithContext Unit → List Api
  | .ok () => []
  | .error e => R.ignoredItems ns e

theorem reportAnyError_eq (R : ErrorReporter) (ns : Namespace) (more : List Api)
    (r : Except ConvertErrorWithContext Unit) :
    reportAnyError R ns more r = ApiVec.extend more (R.reported ns r) := by
  cases r <;> rfl

def ArmResult.after (apis : List Api) (r : ArmResult) : ArmResult := (r.1, ApiVec.extend apis r.2)

namespace ParseBindgen
variable {σ : Type} (self : ParseBindgen σ)

theorem pushUnlessBlocked_apis (apis : List Api) (api : Api) :
    self.pushUnlessBlocked apis api = ApiVec.extend apis (self.pushUnlessBlocked [] api) := by
  unfold pushUnlessBlocked; split <;> simp [ApiVec.extend_singleton]

theorem parseStruct_apis (ns : Namespace) (s : ItemStruct) (apis : List Api) :
    self.parseStruct ns s apis = (self.parseStruct ns s []).after apis := by
  unfold parseStruct ArmResult.after
  split
  · simp
  · split
    · simp
    · split
      · simp
      · split <;> simp [pushUnlessBlocked_apis self apis]

theorem parseEnum_apis (ns : Namespace) (e : ItemEnum) (apis : List Api) :
    self.parseEnum ns e apis = (self.parseEnum ns e []).after apis := by
  unfold parseEnum ArmResult.after
  split <;> simp [pushUnlessBlocked_apis self apis]

theorem parseConst_apis (ns : Namespace) (c : ItemConst) (apis : List Api) :
    self.parseConst ns c apis = (self.parseConst ns c []).after apis := by
  unfold parseConst ArmResult.after
  dsimp only
  split_ifs <;> simp

theorem parseType_apis (ns : Namespace) (t : ItemType) (apis : List Api) :
    self.parseType ns t apis = (self.parseType ns t []).after apis := rfl

theorem parseUseTree_apis (ns : Namespace) (apis : List Api) : ∀ (segs : List String) (t : UseTree),
    self.parseUseTree ns apis segs t = ArmResult.after apis <$> self.parseUseTree ns [] segs t
  | segs, .path ident tree => parseUseTree_apis ns apis (segs ++ [ident]) tree
  | segs, .rename oldId newId => by
    simp only [parseUseTree]
    split <;> simp [ArmResult.after, apply_ite]
  | _, .name _ | _, .glob | _, .group _ => by simp [parseUseTree, ArmResult.after]

/-- The result of `parse_item` on an item that is not a nested scope, with the entries it
appends. Neither depends on the state it runs in (`parseItem_leaf`). -/
def leafEffect (ns : Namespace) : Item → Except Panic ArmResult
  | .struct s => pure (self.parseStruct ns s [])
  | .enum e => pure (self.parseEnum ns e [])
  | .use tree => self.parseUseTree ns [] [] tree
  | .const c => pure (self.parseConst ns c [])
  | .type t => pure (self.parseType ns t [])
  | .other _ => pure (.error ⟨.unexpectedItemInMod, none⟩, [])
  | .foreignMod _ | .impl _ | .mod _ _ => pure (.ok (), [])

def leafState (st : ScopeState σ) (item : Item) (r : ArmResult) : ItemResult σ :=
  (r.1, ⟨ApiVec.extend st.apis r.2, self.foreignMod.feedItems st.modConverter [item]⟩)

theorem withArm_after (item : Item) (h : item.collectorInput = none) (st : ScopeState σ) (r : ArmResult) :
    st.withArm (r.after st.apis) = self.leafState st item r := by
  simp [ScopeState.withArm, ArmResult.after, leafState, ParseForeignMod.feedItems, h]

theorem parseItem_leaf (ns : Namespace) {item : Item} (h : item.isScope = false) (st : ScopeState σ) :
    self.parseItem ns item st = self.leafState st item <$> self.leafEffect ns item := by
  cases item with
  | struct s =>
    simp only [parseItem, parseStruct_apis self ns s st.apis, self.withArm_after (.struct s) rfl]; rfl
  | enum e =>
    simp only [parseItem, parseEnum_apis self ns e st.apis, self.withArm_after (.enum e) rfl]; rfl
  | const c =>
    simp only [parseItem, parseConst_apis self ns c st.apis, self.withArm_after (.const c) rfl]; rfl
  | type t =>
    simp only [parseItem, parseType_apis self ns t st.apis, self.withArm_after (.type t) rfl]; rfl
  | use tree =>
    simp only [parseItem, leafEffect, parseUseTree_apis self ns st.apis, Functor.map_map,
      self.withArm_after (.use tree) rfl]
  | foreignMod items | impl imp | other k =>
    simp [parseItem, leafEffect, leafState, ParseForeignMod.feedItems, Item.collectorInput,
      ParseForeignMod.feed]
  | mod ident content =>
    cases content with
    | none => simp [parseItem, leafEffect, leafState, ParseForeignMod.feedItems, Item.collectorInput]
    | some items => simp [Item.isScope] at h

/-- What a finished scope pushes: its items' entries, its `more_apis`, then its collector's
entries. -/
def scopeOutput (ns : Namespace) (items : List Item) (entries errs : List Api) : List Api :=
  entries ++ ApiVec.extend [] errs ++
    self.foreignMod.finished (self.foreignMod.feedItems (self.foreignMod.new ns) items)

mutual
/-- One item's share of its scope: what it pushes into `self.apis` (a nested scope's whole
sequence as one block) and into `more_apis`. -/
def itemBlock (ns : Namespace) : Item → Except Panic (List Api × List Api)
  | .mod ident (some items) =>
    (fun b => (self.scopeOutput (ns.push ident) items b.1 b.2, [])) <$> scopeBlocks (ns.push ident) items
  | item => (fun r => (r.2, self.reporter.reported ns r.1)) <$> self.leafEffect ns item

def scopeBlocks (ns : Namespace) : List Item → Except Panic (List Api × List Api)
  | [] => pure ([], [])
  | item :: items => do
    let b ← itemBlock ns item
    let bs ← scopeBlocks ns items
    pure (b.1 ++ bs.1, b.2 ++ bs.2)
end

/-- The entries a scope pushes into `self.apis`, in order. -/
def walk (ns : Namespace) (items : List Item) : Except Panic (List Api) :=
  (fun b => self.scopeOutput ns items b.1 b.2) <$> self.scopeBlocks ns items

theorem parseModItems_eq (items : Option (List Item)) (ns : Namespace) (apis : List Api) :
    self.parseModItems items ns apis = (fun r => self.finishModItems r.1 r.2) <$>
      self.parseModItemsLoop ns (items.getD []) ⟨apis, self.foreignMod.new ns⟩ [] := by
  simp only [parseModItems, bind_pure_comp]

theorem parseModItemsLoop_cons (ns : Namespace) (item : Item) (items : List Item)
    (st : ScopeState σ) (more : List Api) :
    self.parseModItemsLoop ns (item :: items) st more =
      ((fun r => (r.2, reportAnyError self.reporter ns more r.1)) <$> self.parseItem ns item st) >>=
        fun q => self.parseModItemsLoop ns items q.1 q.2 := by
  simp only [parseModItemsLoop, bind_map_left]

def afterBlock (st : ScopeState σ) (more : List Api) (items : List Item) :
    List Api × List Api → ScopeState σ × List Api :=
  fun b => (⟨ApiVec.extend st.apis b.1, self.foreignMod.feedItems st.modConverter items⟩,
    ApiVec.extend more b.2)

theorem itemBlock_leaf (ns : Namespace) {item : Item} (h : item.isScope = false) :
    self.itemBlock ns item =
      (fun r => (r.2, self.reporter.reported ns r.1)) <$> self.leafEffect ns item := by
  cases item with
  | mod ident content => cases content <;> simp_all [itemBlock, Item.isScope]
  | _ => simp [itemBlock]

theorem parseItem_leaf_block (ns : Namespace) {item : Item} (h : item.isScope = false)
    (st : ScopeState σ) (more : List Api) :
    (fun r => (r.2, reportAnyError self.reporter ns more r.1)) <$> self.parseItem ns item st =
      self.afterBlock st more [item] <$> self.itemBlock ns item := by
  simp [parseItem_leaf self ns h, itemBlock_leaf self ns h, leafState, afterBlock,
    reportAnyError_eq self.reporter ns more]

mutual
theorem parseItem_block (ns : Namespace) : ∀ (item : Item) (st : ScopeState σ) (more : List Api),
    (fun r => (r.2, reportAnyError self.reporter ns more r.1)) <$> self.parseItem ns item st =
      self.afterBlock st more [item] <$> self.itemBlock ns item
  | .mod ident (some items), st, more => by
    rw [parseItem_mod, parseModItems_eq, Option.getD_some, parseModItemsLoop_eq (ns.push ident) items]
    simp [itemBlock, afterBlock, scopeOutput, finishModItems, reportAnyError,
      ParseForeignMod.feedItems, Item.collectorInput, ApiVec.extend_append]
  | .mod _ none, st, more | .foreignMod _, st, more | .struct _, st, more | .enum _, st, more
  | .impl _, st, more | .use _, st, more | .const _, st, more | .type _, st, more
  | .other _, st, more => self.parseItem_leaf_block ns (by rfl) st more

/-- The loop of `parse_mod_items` computes `scopeBlocks`: it pushes the items' entries and their
placeholders and feeds the collector, and nothing else. -/
theorem parseModItemsLoop_eq (ns : Namespace) : ∀ (items : List Item) (st : ScopeState σ) (more : List Api),
    self.parseModItemsLoop ns items st more = self.afterBlock st more items <$> self.scopeBlocks ns items
  | [], st, more => by simp [parseModItemsLoop, scopeBlocks, afterBlock, ParseForeignMod.feedItems]
  | item :: items, st, more => by
    rw [parseModItemsLoop_cons, parseItem_block ns item st more]
    simp only [scopeBlocks, bind_map_left, parseModItemsLoop_eq ns items, map_bind, Functor.map_map]
    unfold afterBlock
    simp [ParseForeignMod.feedItems_cons _ st.modConverter item items, ApiVec.extend_append]
end

/-- `parse_mod_items` pushes the walk of the scope into `self.apis`, entry by entry. -/
theorem parseModItems_walk (items : Option (List Item)) (ns : Namespace) (apis : List Api) :
    self.parseModItems items ns apis = ApiVec.extend apis <$> self.walk ns (items.getD []) := by
  simp [parseModItems_eq, parseModItemsLoop_eq, walk, afterBlock, finishModItems, scopeOutput,
    ApiVec.extend_append]

end ParseBindgen
end AutocxxParse
