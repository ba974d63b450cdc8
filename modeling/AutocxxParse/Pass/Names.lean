import AutocxxParse.Pass.ParseItems

/-! # One entry per name

Every write of the pass to `self.apis` goes through `ApiVec`: the utilities and the
configuration's entries are pushed, each scope's walk is pushed at any depth, and the
substitution retains and then pushes. So the model `parse_items` returns never holds two entries
with one qualified name. What it does with a name pushed twice is `ApiVec`'s rule, not "last
write wins": once anything but an ignored item is pushed under a name already present, that name
holds one `IgnoredItem` with `DuplicateItemsFoundInParsing` for the rest of the walk.
-/
namespace AutocxxParse
namespace ParseBindgen
variable {σ : Type} (self : ParseBindgen σ)

theorem namesNodup_utilityEntries : ApiVec.NamesNodup self.utilityEntries := by
  unfold utilityEntries
  split
  · exact ApiVec.namesNodup_nil
  · exact ApiVec.namesNodup_extend ApiVec.namesNodup_nil _

/-- The model of every successful run of `parse_items` holds at most one entry per qualified
name. -/
theorem parseItems_namesNodup {items : List Item} {src : String} {M : List Api}
    (h : self.parseItems items src = .ok (.ok M)) : ApiVec.NamesNodup M := by
  rw [parseItems_eq] at h
  obtain ⟨found, -, h⟩ := except_bind_ok.mp h
  rcases found with e | root
  · cases h
  cases hcfg : self.addApisFromConfig self.utilityEntries src with
  | error => simp only [hcfg] at h; cases h
  | ok apis =>
    simp only [hcfg] at h
    obtain ⟨m, hm, hM⟩ := except_map_ok.mp h
    obtain ⟨cfg, -, rfl⟩ := except_map_ok.mp ((self.addApisFromConfig_eq _ _).symm.trans hcfg)
    rw [parseModItems_walk] at hm
    obtain ⟨w, -, rfl⟩ := except_map_ok.mp hm
    rw [self.gateThenReplace_ok hM]
    exact self.namesNodup_replaceExternCppTypes
      (ApiVec.namesNodup_extend (ApiVec.namesNodup_extend self.namesNodup_utilityEntries _) _)

def collidingRoot : List Item :=
  [.mod "root" (some [.struct ⟨"Foo", []⟩, .mod "a" (some [.struct ⟨"Foo", []⟩]), .type ⟨"Foo", .other "u32"⟩])]

def overrideAFooConfig : IncludeCppConfig :=
  { IncludeCppConfig.empty with externs := [("a::Foo", ⟨["ffi", "Foo"]⟩)] }

theorem parseItems_namesNodup_colliding :
    (ParseBindgen.plain overrideAFooConfig).parseItems collidingRoot "" =
      .ok (.ok [Api.duplicateOf ⟨Namespace.new, "Foo"⟩,
        .externCppType ⟨⟨⟨["a"]⟩, "Foo"⟩, none⟩ ⟨["ffi", "Foo"]⟩ false]) ∧
    ApiVec.NamesNodup [Api.duplicateOf ⟨Namespace.new, "Foo"⟩,
      .externCppType ⟨⟨⟨["a"]⟩, "Foo"⟩, none⟩ ⟨["ffi", "Foo"]⟩ false] :=
  have h : (ParseBindgen.plain overrideAFooConfig).parseItems collidingRoot "" =
      .ok (.ok [Api.duplicateOf ⟨Namespace.new, "Foo"⟩,
        .externCppType ⟨⟨⟨["a"]⟩, "Foo"⟩, none⟩ ⟨["ffi", "Foo"]⟩ false]) := rfl
  ⟨h, ParseBindgen.parseItems_namesNodup (.plain overrideAFooConfig) h⟩

/-- A name pushed again by anything but an ignored item ends as one `DuplicateItemsFoundInParsing`
placeholder, whatever the walk pushes after it. -/
theorem parseModItems_duplicateName (items : List Item) (ns : Namespace) (apis : List Api)
    {pre post : List Api} {b : Api} (hw : self.walk ns items = .ok (pre ++ b :: post))
    (hdup : b.name ∈ (apis ++ pre).map Api.name) (hb : b.discardDuplicates = false) :
    ∃ M, self.parseModItems (some items) ns apis = .ok M ∧
      M.filter (·.name = b.name) = [Api.duplicateOf b.name] := by
  have present : b.name ∈ (ApiVec.extend apis pre).map Api.name := by
    rw [ApiVec.mem_names_extend]
    simpa only [List.map_append, List.mem_append] using hdup
  refine ⟨_, by rw [parseModItems_walk, Option.getD_some, hw]; rfl, ?_⟩
  rw [ApiVec.extend_append, ApiVec.extend_cons]
  exact ApiVec.filter_name_extend_collapsed (ApiVec.filter_name_push_dup present hb) post

theorem parseModItems_duplicateName_twoAliases :
    (ParseBindgen.plain IncludeCppConfig.empty).walk Namespace.new
        [.type ⟨"X", .other "u32"⟩, .type ⟨"X", .other "u64"⟩] =
      .ok ([.typedef ⟨⟨Namespace.new, "X"⟩, none⟩ (.type ⟨"X", .other "u32"⟩) none] ++
        .typedef ⟨⟨Namespace.new, "X"⟩, none⟩ (.type ⟨"X", .other "u64"⟩) none :: []) ∧
    (Api.typedef ⟨⟨Namespace.new, "X"⟩, none⟩ (.type ⟨"X", .other "u64"⟩) none).name ∈
      ([] ++ [Api.typedef ⟨⟨Namespace.new, "X"⟩, none⟩ (.type ⟨"X", .other "u32"⟩) none]).map Api.name ∧
    (Api.typedef ⟨⟨Namespace.new, "X"⟩, none⟩ (.type ⟨"X", .other "u64"⟩) none).discardDuplicates = false ∧
    ∃ M, (ParseBindgen.plain IncludeCppConfig.empty).parseModItems
        (some [.type ⟨"X", .other "u32"⟩, .type ⟨"X", .other "u64"⟩]) Namespace.new [] = .ok M ∧
      M.filter (·.name = ⟨Namespace.new, "X"⟩) = [Api.duplicateOf ⟨Namespace.new, "X"⟩] :=
  have hw : (ParseBindgen.plain IncludeCppConfig.empty).walk Namespace.new
        [.type ⟨"X", .other "u32"⟩, .type ⟨"X", .other "u64"⟩] =
      .ok ([.typedef ⟨⟨Namespace.new, "X"⟩, none⟩ (.type ⟨"X", .other "u32"⟩) none] ++
        .typedef ⟨⟨Namespace.new, "X"⟩, none⟩ (.type ⟨"X", .other "u64"⟩) none :: []) := rfl
  have hdup : (Api.typedef ⟨⟨Namespace.new, "X"⟩, none⟩ (.type ⟨"X", .other "u64"⟩) none).name ∈
      ([] ++ [Api.typedef ⟨⟨Namespace.new, "X"⟩, none⟩ (.type ⟨"X", .other "u32"⟩) none]).map Api.name :=
    List.mem_singleton_self _
  ⟨hw, hdup, rfl, ParseBindgen.parseModItems_duplicateName (.plain IncludeCppConfig.empty) _ _ [] hw hdup rfl⟩

end ParseBindgen
end AutocxxParse
