import AutocxxParse.Walk.Scope

/-! # What one declaration appends

Each arm of `parse_item` appends nothing, or fails having appended nothing, or appends one
entry of the kind of its item, named by `api_name` in the scope's namespace from the item's own
identifier (a `use` by the target of its rename). One inversion lemma per arm says so, and
`leafEffect_cases` gathers them.
-/
namespace AutocxxParse

def UseTree.renameTarget : UseTree → Option String
  | .path _ tree => tree.renameTarget
  | .rename _ newId => some newId
  | _ => none

/-- The identifier an item's entry is named by. -/
def Item.declIdent : Item → Option String
  | .struct s => some s.ident
  | .enum e => some e.ident
  | .use tree => tree.renameTarget
  | .const c => some c.ident
  | .type t => some t.ident
  | _ => none

/-- Whether an entry has a kind that an item of this kind produces. -/
def Item.producesKind : Item → Api → Bool
  | .struct _, .struct .. | .struct _, .forwardDeclaration .. | .enum _, .enum ..
  | .use _, .typedef .. | .type _, .typedef .. | .const _, .const .. => true
  | _, _ => false

namespace ParseBindgen
variable {σ : Type} (self : ParseBindgen σ)

theorem pushUnlessBlocked_cases (api : Api) :
    self.pushUnlessBlocked [] api = [] ∨ self.pushUnlessBlocked [] api = [api] := by
  unfold pushUnlessBlocked; split <;> simp

theorem structApi_some {ns : Namespace} {s : ItemStruct} {name : ApiName} {api : Api}
    (h : self.structApi ns s name = some api) :
    api.nameInfo = name ∧ (Item.struct s).producesKind api := by
  unfold structApi at h
  split at h
  · cases h
  · dsimp only at h
    split at h <;> cases h <;> exact ⟨rfl, rfl⟩

theorem parseStruct_cases (ns : Namespace) (s : ItemStruct) :
    self.parseStruct ns s [] = (.ok (), []) ∨
    (∃ r, self.parseStruct ns s [] = (.error ⟨.invalidIdent r, some (.item s.ident)⟩, [])) ∨
    ∃ name api, self.env.apiNameQualified ns s.ident = .ok name ∧ self.structApi ns s name = some api ∧
      self.parseStruct ns s [] = (.ok (), self.pushUnlessBlocked [] api) := by
  unfold parseStruct
  split
  · exact .inl rfl
  · split
    · obtain ⟨r, rfl⟩ := self.env.apiNameQualified_error ‹_›
      exact .inr (.inl ⟨r, rfl⟩)
    · split
      · exact .inl rfl
      · split
        · exact .inr (.inr ⟨_, _, ‹_›, ‹_›, rfl⟩)
        · exact .inl rfl

theorem parseEnum_cases (ns : Namespace) (e : ItemEnum) :
    (∃ r, self.parseEnum ns e [] = (.error ⟨.invalidIdent r, some (.item e.ident)⟩, [])) ∨
    ∃ name, self.env.apiNameQualified ns e.ident = .ok name ∧
      self.parseEnum ns e [] = (.ok (), self.pushUnlessBlocked [] (.enum name e)) := by
  unfold parseEnum
  split
  · obtain ⟨r, rfl⟩ := self.env.apiNameQualified_error ‹_›
    exact .inl ⟨r, rfl⟩
  · exact .inr ⟨_, ‹_›, rfl⟩

theorem parseUseTree_cases {ns : Namespace} : ∀ (segs : List String) (t : UseTree) {r : ArmResult},
    self.parseUseTree ns [] segs t = .ok r → r = (.ok (), []) ∨
      ∃ newId, t.renameTarget = some newId ∧
        (r = (.error ⟨.infinitelyRecursiveTypedef (QualifiedName.new ns newId), some (.item newId)⟩, []) ∨
        ∃ oldPath oldTyname, r = (.ok (), [.typedef (self.env.apiName ns newId) (.use oldPath) (some oldTyname)]))
  | segs, .path ident tree, r, h => parseUseTree_cases (segs ++ [ident]) tree h
  | segs, .rename oldId newId, r, h => by
    simp only [parseUseTree] at h
    split at h
    · cases h; exact .inl rfl
    · obtain ⟨segs₁, -, h⟩ := except_bind_ok.mp h
      obtain ⟨segs₂, -, h⟩ := except_bind_ok.mp h
      split at h <;> cases h
      · exact .inr ⟨newId, rfl, .inl rfl⟩
      · exact .inr ⟨newId, rfl, .inr ⟨_, _, rfl⟩⟩
  | _, .name _, r, h | _, .glob, r, h | _, .group _, r, h => by
    simp only [parseUseTree] at h; cases h; exact .inl rfl

/-- What `parse_item` does with a declaration: nothing, a failure in the context of its
identifier, or one entry of its kind named by its identifier in the scope's namespace. -/
theorem leafEffect_cases {ns : Namespace} {d : Item} {r : ArmResult} (h : self.leafEffect ns d = .ok r) :
    r = (.ok (), []) ∨
    (∃ e, r = (.error e, []) ∧ d.collectorInput = none ∧ e.ctx = d.declIdent.map .item) ∨
    ∃ a, r = (.ok (), [a]) ∧ d.producesKind a ∧
      ∃ id, d.declIdent = some id ∧ a.name = QualifiedName.new ns id := by
  cases d with
  | struct s =>
    obtain rfl := Except.ok.inj h
    rcases self.parseStruct_cases ns s with h₀ | ⟨_, he⟩ | ⟨name, api, hn, hs, hp⟩
    · exact .inl h₀
    · exact .inr (.inl ⟨_, he, rfl, rfl⟩)
    · obtain ⟨hname, hk⟩ := self.structApi_some hs
      rcases self.pushUnlessBlocked_cases api with h' | h' <;> rw [hp, h']
      · exact .inl rfl
      · exact .inr (.inr ⟨api, rfl, hk, s.ident, rfl,
          by rw [Api.name, hname, self.env.apiNameQualified_name hn]⟩)
  | enum e =>
    obtain rfl := Except.ok.inj h
    rcases self.parseEnum_cases ns e with ⟨_, he⟩ | ⟨name, hn, hp⟩
    · exact .inr (.inl ⟨_, he, rfl, rfl⟩)
    · rcases self.pushUnlessBlocked_cases (.enum name e) with h' | h' <;> rw [hp, h']
      · exact .inl rfl
      · exact .inr (.inr ⟨_, rfl, rfl, e.ident, rfl, self.env.apiNameQualified_name hn⟩)
  | use tree =>
    rcases self.parseUseTree_cases [] tree h with rfl | ⟨newId, ht, rfl | ⟨_, _, rfl⟩⟩
    · exact .inl rfl
    · exact .inr (.inl ⟨_, rfl, rfl, by simp [Item.declIdent, ht]⟩)
    · exact .inr (.inr ⟨_, rfl, rfl, newId, ht, rfl⟩)
  | const c =>
    obtain rfl := Except.ok.inj h
    simp only [parseConst]
    split
    · exact .inr (.inr ⟨_, rfl, rfl, c.ident, rfl, rfl⟩)
    · exact .inl rfl
  | type t =>
    obtain rfl := Except.ok.inj h
    exact .inr (.inr ⟨_, rfl, rfl, t.ident, rfl, rfl⟩)
  | other _ => obtain rfl := Except.ok.inj h; exact .inr (.inl ⟨_, rfl, rfl, rfl⟩)
  | foreignMod _ | impl _ | mod _ _ => obtain rfl := Except.ok.inj h; exact .inl rfl

theorem leafEffect_length {ns : Namespace} {d : Item} {r : ArmResult}
    (h : self.leafEffect ns d = .ok r) : r.2.length ≤ 1 := by
  rcases self.leafEffect_cases h with rfl | ⟨_, rfl, -⟩ | ⟨_, rfl, -⟩ <;> simp

theorem leafEffect_entry {ns : Namespace} {d : Item} {r : ArmResult} {a : Api}
    (h : self.leafEffect ns d = .ok r) (ha : a ∈ r.2) :
    d.producesKind a ∧ ∃ id, d.declIdent = some id ∧ a.name = QualifiedName.new ns id := by
  rcases self.leafEffect_cases h with rfl | ⟨_, rfl, -⟩ | ⟨_, rfl, hk, hid⟩
  · cases ha
  · cases ha
  · obtain rfl := List.mem_singleton.mp ha
    exact ⟨hk, hid⟩

theorem itemBlock_errs {ns : Namespace} {item : Item} {b : List Api × List Api}
    (h : self.itemBlock ns item = .ok b) : ∀ a ∈ b.2, a.isFunctionOrIgnored := by
  cases hs : item.isScope with
  | true =>
    cases item with
    | mod ident content =>
      cases content with
      | some items =>
        obtain ⟨_, -, rfl⟩ := except_map_ok.mp h
        intro a ha; cases ha
      | none => cases hs
    | _ => cases hs
  | false =>
    obtain ⟨r, -, rfl⟩ := except_map_ok.mp ((self.itemBlock_leaf ns hs).symm.trans h)
    cases r.1 with
    | ok => intro a ha; cases ha
    | error e => exact self.reporter.ignoredItems_placeholders ns e

theorem scopeBlocks_errs {ns : Namespace} :
    ∀ {items : List Item} {b : List Api × List Api}, self.scopeBlocks ns items = .ok b →
      ∀ a ∈ b.2, a.isFunctionOrIgnored
  | [], _, h => by cases h; intro a ha; cases ha
  | item :: items, _, h => by
    obtain ⟨b₁, h₁, h⟩ := except_bind_ok.mp h
    obtain ⟨b₂, h₂, h⟩ := except_bind_ok.mp h
    cases h
    intro a ha
    rcases List.mem_append.mp ha with ha | ha
    · exact self.itemBlock_errs h₁ a ha
    · exact scopeBlocks_errs h₂ a ha

end ParseBindgen
end AutocxxParse
