import AutocxxParse.Walk.Context
import AutocxxParse.Walk.Entries

/-! # A failing item is skipped, not fatal

When `parse_item` returns `Err`, no arm has pushed an entry or fed the collector yet: every
`?` and early `return Err` comes before the arm's `push`. `report_any_error` then pushes the
error's placeholders into the scope's `more_apis`, and the loop goes on with the next sibling. So
what the walk of a tree with a failing item pushes is what it pushes without the item, with the
item's placeholders added to its scope's `more_apis`. Both `ApiVec`s drop a placeholder whose
name they already hold, so in the model itself the placeholder can vanish.
-/
namespace AutocxxParse
namespace ParseBindgen
variable {σ : Type} (self : ParseBindgen σ)

theorem leafEffect_error {ns : Namespace} {d : Item} {e : ConvertErrorWithContext} {es : List Api}
    (h : self.leafEffect ns d = .ok (.error e, es)) : es = [] ∧ d.collectorInput = none := by
  rcases self.leafEffect_cases h with h' | ⟨_, h', hc, -⟩ | ⟨_, h', -⟩
  · simp at h'
  · exact ⟨(Prod.mk.inj h').2, hc⟩
  · simp at h'

theorem parseItem_error {ns : Namespace} {d : Item} {st st' : ScopeState σ}
    {e : ConvertErrorWithContext} (h : self.parseItem ns d st = .ok (.error e, st')) :
    st' = st ∧ d.isScope = false ∧ self.leafEffect ns d = .ok (.error e, []) ∧
      d.collectorInput = none := by
  cases hd : d.isScope with
  | true =>
    cases d with
    | mod ident content =>
      cases content with
      | some items =>
        obtain ⟨_, -, h⟩ := except_map_ok.mp ((self.parseItem_mod ns ident items st).symm.trans h)
        cases h
      | none => cases hd
    | _ => cases hd
  | false =>
    obtain ⟨r, hr, hst⟩ := except_map_ok.mp ((self.parseItem_leaf ns hd st).symm.trans h)
    obtain ⟨r₁, es⟩ := r
    obtain ⟨rfl, rfl⟩ := Prod.mk.inj hst
    obtain ⟨rfl, hc⟩ := self.leafEffect_error hr
    simp [ParseForeignMod.feedItems, hc, hr]

/-- One step of the loop on a declaration: `parse_item` pushes at most one entry and feeds the
collector the item's own input, or fails and leaves the state as it was. -/
theorem parseItem_declaration_step (ns : Namespace) {d : Item} (hd : d.isScope = false)
    (st : ScopeState σ) {res : ItemResult σ} (h : self.parseItem ns d st = .ok res) :
    (res.1 = .ok () ∧ ∃ l : List Api, l.length ≤ 1 ∧ res.2.apis = ApiVec.extend st.apis l ∧
      res.2.modConverter = self.foreignMod.feedItems st.modConverter [d]) ∨
    ∃ e, res.1 = .error e ∧ res.2.apis = st.apis ∧ res.2.modConverter = st.modConverter := by
  obtain ⟨⟨r₁, l⟩, hr, rfl⟩ := except_map_ok.mp ((self.parseItem_leaf ns hd st).symm.trans h)
  rcases r₁ with e | ⟨⟩
  · obtain ⟨rfl, hc⟩ := self.leafEffect_error hr
    exact .inr ⟨e, rfl, rfl, by simp [leafState, ParseForeignMod.feedItems, hc]⟩
  · exact .inl ⟨rfl, l, self.leafEffect_length hr, rfl, rfl⟩

theorem parseItem_declaration_step_foo :
    (Item.struct ⟨"Foo", []⟩).isScope = false ∧
    (ParseBindgen.plain IncludeCppConfig.empty).parseItem Namespace.new (.struct ⟨"Foo", []⟩) ⟨[], ()⟩ =
      .ok (.ok (), ⟨[.struct ⟨⟨Namespace.new, "Foo"⟩, none⟩ ⟨⟨"Foo", []⟩, false⟩], ()⟩) ∧
    (((.ok () : Except ConvertErrorWithContext Unit) = .ok () ∧ ∃ l : List Api, l.length ≤ 1 ∧
      [.struct ⟨⟨Namespace.new, "Foo"⟩, none⟩ ⟨⟨"Foo", []⟩, false⟩] = ApiVec.extend [] l ∧
      () = ParseForeignMod.silent.feedItems () [.struct ⟨"Foo", []⟩]) ∨
    ∃ e, (.ok () : Except ConvertErrorWithContext Unit) = .error e ∧
      [.struct ⟨⟨Namespace.new, "Foo"⟩, none⟩ ⟨⟨"Foo", []⟩, false⟩] = ([] : List Api) ∧ () = ()) :=
  have h : (ParseBindgen.plain IncludeCppConfig.empty).parseItem Namespace.new (.struct ⟨"Foo", []⟩)
      ⟨[], ()⟩ = .ok (.ok (), ⟨[.struct ⟨⟨Namespace.new, "Foo"⟩, none⟩ ⟨⟨"Foo", []⟩, false⟩], ()⟩) := rfl
  ⟨rfl, h, ParseBindgen.parseItem_declaration_step (.plain IncludeCppConfig.empty) Namespace.new (by rfl) _ h⟩

/-- The walk of a scope with items `pre ++ post`, with `errs` inserted among its deferred
placeholders after those of `pre` and before those of `post`. -/
def scopeWithFailure (ns : Namespace) (pre post : List Item) (errs : List Api) :
    Except Panic (List Api) := do
  let b₁ ← self.scopeBlocks ns pre
  let b₂ ← self.scopeBlocks ns post
  pure (self.scopeOutput ns (pre ++ post) (b₁.1 ++ b₂.1) (b₁.2 ++ errs ++ b₂.2))

theorem walk_eq_scopeWithFailure (ns : Namespace) (pre post : List Item) :
    self.walk ns (pre ++ post) = self.scopeWithFailure ns pre post [] := by
  simp [walk, scopeWithFailure, scopeBlocks_append]

theorem walk_failing_item {ns : Namespace} {d : Item} {e : ConvertErrorWithContext}
    (hs : d.isScope = false) (hd : self.leafEffect ns d = .ok (.error e, []))
    (hc : d.collectorInput = none) (pre post : List Item) :
    self.walk ns (pre ++ d :: post) = self.scopeWithFailure ns pre post (self.reporter.ignoredItems ns e) := by
  have hb : self.itemBlock ns d = .ok ([], self.reporter.ignoredItems ns e) := by
    rw [itemBlock_leaf self ns hs, hd]; rfl
  simp [walk, scopeWithFailure, scopeBlocks_append, scopeBlocks, hb, scopeOutput,
    self.feedItems_of_no_input _ hc]

/-- A declaration on which `parse_item` fails adds only its placeholders, to its scope's
`more_apis`: otherwise the walk pushes what it pushes without the declaration. -/
theorem parseModItems_failing_item (path : List Frame) (pre post : List Item) (d : Item)
    {st st' : ScopeState σ} {e : ConvertErrorWithContext}
    (h : self.parseItem (Frame.pathNs Namespace.new path) d st = .ok (.error e, st'))
    (apis : List Api) :
    st' = st ∧
    self.parseModItems (some (Frame.fill path (pre ++ d :: post))) Namespace.new apis =
      ApiVec.extend apis <$> self.runCtx Namespace.new path
        (self.scopeWithFailure (Frame.pathNs Namespace.new path) pre post
          (self.reporter.ignoredItems (Frame.pathNs Namespace.new path) e)) ∧
    self.parseModItems (some (Frame.fill path (pre ++ post))) Namespace.new apis =
      ApiVec.extend apis <$> self.runCtx Namespace.new path
        (self.scopeWithFailure (Frame.pathNs Namespace.new path) pre post []) := by
  obtain ⟨rfl, hs, hd, hc⟩ := self.parseItem_error h
  refine ⟨rfl, ?_, ?_⟩
  · rw [parseModItems_walk, Option.getD_some, walk_fill, walk_failing_item self hs hd hc]
  · rw [parseModItems_walk, Option.getD_some, walk_fill, walk_eq_scopeWithFailure]

def modA : List Frame := [⟨[], "a", []⟩]

def selfAliasA : Item := .use (.path "self" (.path "super" (.path "root" (.path "a" (.rename "Foo" "Foo")))))

theorem parseModItems_failing_item_modA :
    (ParseBindgen.plain IncludeCppConfig.empty).parseItem (Frame.pathNs Namespace.new modA) selfAliasA
        ⟨[], ()⟩ = .ok (.error ⟨.infinitelyRecursiveTypedef (QualifiedName.new ⟨["a"]⟩ "Foo"), some (.item "Foo")⟩, ⟨[], ()⟩) ∧
    ((⟨[], ()⟩ : ScopeState Unit) = ⟨[], ()⟩ ∧
    (ParseBindgen.plain IncludeCppConfig.empty).parseModItems
        (some (Frame.fill modA ([] ++ selfAliasA :: [.struct ⟨"Bar", []⟩]))) Namespace.new [] =
      ApiVec.extend [] <$> (ParseBindgen.plain IncludeCppConfig.empty).runCtx Namespace.new modA
        ((ParseBindgen.plain IncludeCppConfig.empty).scopeWithFailure (Frame.pathNs Namespace.new modA)
          [] [.struct ⟨"Bar", []⟩]
          (ErrorReporter.placeholder.ignoredItems (Frame.pathNs Namespace.new modA)
            ⟨.infinitelyRecursiveTypedef (QualifiedName.new ⟨["a"]⟩ "Foo"), some (.item "Foo")⟩)) ∧
    (ParseBindgen.plain IncludeCppConfig.empty).parseModItems
        (some (Frame.fill modA ([] ++ [.struct ⟨"Bar", []⟩]))) Namespace.new [] =
      ApiVec.extend [] <$> (ParseBindgen.plain IncludeCppConfig.empty).runCtx Namespace.new modA
        ((ParseBindgen.plain IncludeCppConfig.empty).scopeWithFailure (Frame.pathNs Namespace.new modA)
          [] [.struct ⟨"Bar", []⟩] [])) :=
  have h : (ParseBindgen.plain IncludeCppConfig.empty).parseItem (Frame.pathNs Namespace.new modA) selfAliasA
      ⟨[], ()⟩ = .ok (.error ⟨.infinitelyRecursiveTypedef (QualifiedName.new ⟨["a"]⟩ "Foo"), some (.item "Foo")⟩, ⟨[], ()⟩) := rfl
  ⟨h, ParseBindgen.parseModItems_failing_item (.plain IncludeCppConfig.empty) modA [] [.struct ⟨"Bar", []⟩]
    selfAliasA h []⟩

-- The failing alias leaves its placeholder after the struct that follows it.
example : (ParseBindgen.plain IncludeCppConfig.empty).parseModItems
    (some (Frame.fill modA [selfAliasA, .struct ⟨"Bar", []⟩])) Namespace.new [] =
      .ok [.struct ⟨⟨⟨["a"]⟩, "Bar"⟩, none⟩ ⟨⟨"Bar", []⟩, false⟩,
        .ignoredItem ⟨⟨⟨["a"]⟩, "Foo"⟩, none⟩ (.infinitelyRecursiveTypedef (QualifiedName.new ⟨["a"]⟩ "Foo"))
          (some (.item "Foo"))] := rfl

def shadowedItems : List Item :=
  [.type ⟨"Foo", .other "u32"⟩, .use (.path "self" (.path "super" (.rename "Foo" "Foo")))]

/-- The failing `use` gets a placeholder named `Foo`, which the model already holds, so it is
dropped: the model is the one without the `use`. -/
theorem parseModItems_failing_item_shadowed :
    ErrorReporter.placeholder.ignoredItems Namespace.new
        ⟨.infinitelyRecursiveTypedef ⟨Namespace.new, "Foo"⟩, some (.item "Foo")⟩ =
      [.ignoredItem ⟨⟨Namespace.new, "Foo"⟩, none⟩ (.infinitelyRecursiveTypedef ⟨Namespace.new, "Foo"⟩)
        (some (.item "Foo"))] ∧
    (ParseBindgen.plain IncludeCppConfig.empty).parseModItems (some shadowedItems) Namespace.new [] =
      .ok [.typedef ⟨⟨Namespace.new, "Foo"⟩, none⟩ (.type ⟨"Foo", .other "u32"⟩) none] ∧
    (ParseBindgen.plain IncludeCppConfig.empty).parseModItems (some (shadowedItems.take 1)) Namespace.new [] =
      .ok [.typedef ⟨⟨Namespace.new, "Foo"⟩, none⟩ (.type ⟨"Foo", .other "u32"⟩) none] :=
  ⟨rfl, rfl, rfl⟩

end ParseBindgen
end AutocxxParse
