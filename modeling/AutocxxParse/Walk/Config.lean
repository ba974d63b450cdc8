import AutocxxParse.Walk.Origin

/-! # What the walk reads of the configuration

`parse_mod_items` consults the configuration at two places only: `is_on_blocklist`, before the
Struct and Enum arms push, and `is_rust_type`, in the Struct arm, and there only when the scope's
namespace is the root's (`ns.is_empty() && self.config.is_rust_type(&s.ident)`). So below the root
the walk depends on the block list alone: a managed Rust type never suppresses a struct of a
nested namespace, and the subclasses, extern functions, concretes, externs, POD requests and
must-generate list are read only by the rest of `parse_items`.
-/
namespace AutocxxParse

@[simp] theorem Namespace.isEmpty_push (ns : Namespace) (ident : String) : (ns.push ident).isEmpty = false := by
  simp [Namespace.isEmpty]

namespace ParseBindgen
variable {σ : Type} (self : ParseBindgen σ)

def withConfig (c : IncludeCppConfig) : ParseBindgen σ := { self with config := c }

section
variable (c : IncludeCppConfig)

@[simp] theorem withConfig_config : (self.withConfig c).config = c := rfl
@[simp] theorem withConfig_env : (self.withConfig c).env = self.env := rfl
@[simp] theorem withConfig_foreignMod : (self.withConfig c).foreignMod = self.foreignMod := rfl
@[simp] theorem withConfig_reporter : (self.withConfig c).reporter = self.reporter := rfl
@[simp] theorem withConfig_scopeOutput : (self.withConfig c).scopeOutput = self.scopeOutput := rfl

theorem withConfig_parseUseTree (ns : Namespace) (apis : List Api) :
    ∀ (segs : List String) (t : UseTree),
      (self.withConfig c).parseUseTree ns apis segs t = self.parseUseTree ns apis segs t
  | segs, .path ident tree => withConfig_parseUseTree ns apis (segs ++ [ident]) tree
  | _, .rename _ _ | _, .name _ | _, .glob | _, .group _ => rfl

end

theorem structApi_withConfig {c : IncludeCppConfig} {ns : Namespace}
    (hrt : ns.isEmpty → ∀ id, c.isRustType id = self.config.isRustType id)
    (s : ItemStruct) (name : ApiName) :
    (self.withConfig c).structApi ns s name = self.structApi ns s name := by
  have hroot : (ns.isEmpty && c.isRustType s.ident) = (ns.isEmpty && self.config.isRustType s.ident) := by
    cases h : ns.isEmpty
    · rfl
    · simp [hrt h]
  simp only [structApi, withConfig_config, withConfig_env, hroot]

section
variable {c : IncludeCppConfig} (hb : c.blocklist = self.config.blocklist)
include hb

theorem pushUnlessBlocked_withConfig (apis : List Api) (api : Api) :
    (self.withConfig c).pushUnlessBlocked apis api = self.pushUnlessBlocked apis api := by
  simp only [pushUnlessBlocked, IncludeCppConfig.isOnBlocklist, withConfig_config, withConfig_env, hb]

theorem leafEffect_withConfig {ns : Namespace}
    (hrt : ns.isEmpty → ∀ id, c.isRustType id = self.config.isRustType id) (d : Item) :
    (self.withConfig c).leafEffect ns d = self.leafEffect ns d := by
  cases d with
  | struct s =>
    simp only [leafEffect, parseStruct, withConfig_env, self.structApi_withConfig hrt,
      self.pushUnlessBlocked_withConfig hb]
  | enum e => simp only [leafEffect, parseEnum, withConfig_env, self.pushUnlessBlocked_withConfig hb]
  | use tree => exact self.withConfig_parseUseTree c ns [] [] tree
  | const _ | type _ | foreignMod _ | impl _ | mod _ _ | other _ => rfl

theorem itemBlock_withConfig_leaf {ns : Namespace}
    (hrt : ns.isEmpty → ∀ id, c.isRustType id = self.config.isRustType id) {item : Item}
    (hs : item.isScope = false) :
    (self.withConfig c).itemBlock ns item = self.itemBlock ns item := by
  rw [itemBlock_leaf _ _ hs, itemBlock_leaf _ _ hs, self.leafEffect_withConfig hb hrt]
  rfl

end

mutual
theorem itemBlock_withConfig {c : IncludeCppConfig} (hb : c.blocklist = self.config.blocklist) :
    ∀ (ns : Namespace), (ns.isEmpty → ∀ id, c.isRustType id = self.config.isRustType id) →
      ∀ item : Item, (self.withConfig c).itemBlock ns item = self.itemBlock ns item
  | ns, _, .mod ident (some items) => by
    simp only [itemBlock, withConfig_scopeOutput,
      scopeBlocks_withConfig hb (ns.push ident) (fun h => absurd h (by simp)) items]
  | ns, hrt, .mod _ none | ns, hrt, .foreignMod _ | ns, hrt, .struct _ | ns, hrt, .enum _
  | ns, hrt, .impl _ | ns, hrt, .use _ | ns, hrt, .const _ | ns, hrt, .type _
  | ns, hrt, .other _ => self.itemBlock_withConfig_leaf hb hrt (by rfl)

theorem scopeBlocks_withConfig {c : IncludeCppConfig} (hb : c.blocklist = self.config.blocklist) :
    ∀ (ns : Namespace), (ns.isEmpty → ∀ id, c.isRustType id = self.config.isRustType id) →
      ∀ items : List Item, (self.withConfig c).scopeBlocks ns items = self.scopeBlocks ns items
  | _, _, [] => rfl
  | ns, hrt, item :: items => by
    simp only [scopeBlocks, itemBlock_withConfig hb ns hrt item, scopeBlocks_withConfig hb ns hrt items]
end

/-- Below the root, `parse_mod_items` reads nothing of the configuration but the block list; in
the root scope it also reads which identifiers `is_rust_type` accepts. -/
theorem parseModItems_config {c : IncludeCppConfig} (hb : c.blocklist = self.config.blocklist)
    {ns : Namespace} (hrt : ns.isEmpty → ∀ id, c.isRustType id = self.config.isRustType id)
    (items : Option (List Item)) (apis : List Api) :
    (self.withConfig c).parseModItems items ns apis = self.parseModItems items ns apis := by
  simp only [parseModItems_walk, walk, withConfig_scopeOutput, self.scopeBlocks_withConfig hb ns hrt]

def rustFooConfig : IncludeCppConfig := { IncludeCppConfig.empty with rustTypes := [⟨["ffi"], "Foo"⟩] }

theorem parseModItems_config_nested :
    rustFooConfig.blocklist = IncludeCppConfig.empty.blocklist ∧
    ((⟨["a"]⟩ : Namespace).isEmpty → ∀ id,
      rustFooConfig.isRustType id = IncludeCppConfig.empty.isRustType id) ∧
    ((ParseBindgen.plain IncludeCppConfig.empty).withConfig rustFooConfig).parseModItems
        (some [.struct ⟨"Foo", []⟩]) ⟨["a"]⟩ [] =
      (ParseBindgen.plain IncludeCppConfig.empty).parseModItems
        (some [.struct ⟨"Foo", []⟩]) ⟨["a"]⟩ [] :=
  have hb : rustFooConfig.blocklist = IncludeCppConfig.empty.blocklist := rfl
  have hrt : (⟨["a"]⟩ : Namespace).isEmpty → ∀ id, rustFooConfig.isRustType id =
      IncludeCppConfig.empty.isRustType id := fun h => absurd h (by decide)
  ⟨hb, hrt, ParseBindgen.parseModItems_config (.plain IncludeCppConfig.empty) hb hrt _ _⟩

-- In the root scope the managed Rust type `Foo` does suppress the struct `Foo`.
example : ((ParseBindgen.plain IncludeCppConfig.empty).withConfig rustFooConfig).parseModItems
    (some [.struct ⟨"Foo", []⟩]) Namespace.new [] = .ok [] := rfl

end ParseBindgen
end AutocxxParse
