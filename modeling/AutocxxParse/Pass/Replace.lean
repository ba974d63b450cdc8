import AutocxxParse.Model.ParseBindgen

/-! # Native-type overrides replace parsed entries

`replace_extern_cpp_types` collects the configured externs into an `IndexMap` keyed by their
qualified names, keeps the entries whose name is no such key, and appends the map's values. Two
externs with the same qualified name make one key: it sits where the first of them does and
holds what the last of them says.
-/
namespace AutocxxParse
namespace ParseBindgen
variable {σ : Type} (self : ParseBindgen σ)

/-- The qualified names of the configured externs, in configuration order. -/
def externNames : List QualifiedName := self.config.externs.map fun e => self.env.newFromCppName e.1

/-- The `replacements` map of `replace_extern_cpp_types`. -/
def replacements : IndexMap QualifiedName Api :=
  IndexMap.collect (self.config.externs.map (self.externReplacement (IndexSet.collect self.config.getPodRequests)))

@[simp] theorem externReplacement_fst (podRequests : IndexSet String) (e : String × ExternCppType) :
    (self.externReplacement podRequests e).1 = self.env.newFromCppName e.1 := rfl

theorem namesNodup_replaceExternCppTypes {apis : List Api} (h : ApiVec.NamesNodup apis) :
    ApiVec.NamesNodup (self.replaceExternCppTypes apis) :=
  ApiVec.namesNodup_extend (h.sublist ((List.filter_sublist apis).map _)) _

theorem mem_replacements {p : QualifiedName × Api} (h : p ∈ self.replacements.entries) :
    p.2.name = p.1 ∧ ∃ e ∈ self.config.externs,
      p = self.externReplacement (IndexSet.collect self.config.getPodRequests) e := by
  rw [replacements, IndexMap.mem_collect_entries] at h
  obtain ⟨e, he, rfl⟩ := List.mem_map.mp (List.mem_reverse.mp (List.mem_of_find?_eq_some h))
  exact ⟨rfl, e, he, rfl⟩

theorem replacements_values_keys : self.replacements.values.map Api.name = self.replacements.keys := by
  simp only [IndexMap.values, IndexMap.keys, List.map_map]
  exact List.map_congr_left fun p hp => (self.mem_replacements hp).1

theorem replacements_values_names :
    self.replacements.values.map Api.name = self.externNames.eraseDups := by
  rw [replacements_values_keys, replacements, IndexMap.collect_keys, List.map_map]
  rfl

theorem replaceExternCppTypes_eq (apis : List Api) :
    self.replaceExternCppTypes apis =
      apis.filter (fun a => a.name ∉ self.externNames) ++ self.replacements.values := by
  have h : (self.config.externs.map (self.externReplacement (IndexSet.collect self.config.getPodRequests))).map
      Prod.fst = self.externNames := by simp [externNames, Function.comp_def]
  have hkeep : apis.filter (fun a => !self.replacements.containsKey a.name) =
      apis.filter (fun a => a.name ∉ self.externNames) := by
    simp only [replacements, IndexMap.containsKey_collect, h, decide_not]
  change ApiVec.extend (apis.filter fun a => !self.replacements.containsKey a.name) self.replacements.values = _
  rw [hkeep]
  refine ApiVec.extend_of_fresh (self.replacements_values_keys ▸ self.replacements.nodup) fun a ha hmem => ?_
  obtain ⟨b, hb, hba⟩ := List.mem_map.mp hmem
  have hext : a.name ∈ self.externNames.eraseDups :=
    self.replacements_values_names ▸ List.mem_map_of_mem _ ha
  rw [mem_eraseDups, ← hba] at hext
  simp [hext] at hb

theorem replacements_filter_name (q : QualifiedName) :
    self.replacements.values.filter (fun a => a.name = q) =
      (self.replacements.entries.filter (fun p => p.1 = q)).map Prod.snd := by
  rw [IndexMap.values, List.filter_map]
  congr 1
  exact List.filter_congr fun p hp => by simp [Function.comp_def, (self.mem_replacements hp).1]

theorem replacements_entry {c : String} (hc : c ∈ self.config.externs.map Prod.fst) :
    ∃ c' d, self.config.externs.reverse.find? (fun e => self.env.newFromCppName e.1 = self.env.newFromCppName c) = some (c', d) ∧
      self.replacements.entries.filter (fun p => p.1 = self.env.newFromCppName c) =
        [(self.env.newFromCppName c, .externCppType (ApiName.newFromQualifiedName (self.env.newFromCppName c)) d
          (decide (self.env.toCppName (self.env.newFromCppName c) ∈ self.config.getPodRequests)))] := by
  obtain ⟨e, he, rfl⟩ := List.mem_map.mp hc
  obtain ⟨e', he'⟩ : ∃ e', self.config.externs.reverse.find?
      (fun x => self.env.newFromCppName x.1 = self.env.newFromCppName e.1) = some e' :=
    Option.isSome_iff_exists.mp (List.find?_isSome.mpr ⟨e, List.mem_reverse.mpr he, by simp⟩)
  have hq : self.env.newFromCppName e'.1 = self.env.newFromCppName e.1 := by
    simpa using List.find?_some he'
  have hmem : self.externReplacement (IndexSet.collect self.config.getPodRequests) e' ∈ self.replacements.entries := by
    rw [replacements, IndexMap.mem_collect_entries, ← List.map_reverse, List.find?_map]
    simp [externReplacement, Function.comp_def, hq, he']
  refine ⟨e'.1, e'.2, he', ?_⟩
  have := IndexMap.filter_fst_eq_of_mem self.replacements.nodup hmem
  simp only [externReplacement, hq, IndexSet.mem_collect] at this
  exact this

/-- Each configured name ends with one entry, the override of its last extern; every other entry
stays, in order; the overrides follow, in the order their names first occur. -/
theorem replaceExternCppTypes_spec (apis : List Api) :
    (∀ c ∈ self.config.externs.map Prod.fst, ∃ c' d,
      self.config.externs.reverse.find?
          (fun e => self.env.newFromCppName e.1 = self.env.newFromCppName c) = some (c', d) ∧
      (self.replaceExternCppTypes apis).filter (fun a => a.name = self.env.newFromCppName c) =
        [.externCppType (ApiName.newFromQualifiedName (self.env.newFromCppName c)) d
          (decide (self.env.toCppName (self.env.newFromCppName c) ∈ self.config.getPodRequests))]) ∧
    ∃ ext, self.replaceExternCppTypes apis = apis.filter (fun a => a.name ∉ self.externNames) ++ ext ∧
      ext.map Api.name = self.externNames.eraseDups ∧ ∀ a ∈ ext, ∃ n d pod, a = .externCppType n d pod := by
  refine ⟨fun c hc => ?_, self.replacements.values, self.replaceExternCppTypes_eq apis,
    self.replacements_values_names, fun a ha => ?_⟩
  · obtain ⟨c', d, hf, hentry⟩ := self.replacements_entry hc
    have hq : self.env.newFromCppName c ∈ self.externNames := by
      obtain ⟨e, he, rfl⟩ := List.mem_map.mp hc
      exact List.mem_map_of_mem _ he
    refine ⟨c', d, hf, ?_⟩
    have hkept : (apis.filter fun a => a.name ∉ self.externNames).filter
        (fun a => a.name = self.env.newFromCppName c) = [] :=
      List.filter_eq_nil_iff.mpr fun a ha h => by
        have := (List.mem_filter.mp ha).2
        simp_all
    rw [replaceExternCppTypes_eq, List.filter_append, replacements_filter_name, hentry, hkept]
    rfl
  · obtain ⟨p, hp, rfl⟩ := List.mem_map.mp ha
    obtain ⟨-, e, -, rfl⟩ := self.mem_replacements hp
    exact ⟨_, _, _, rfl⟩

/-- Substituting the overrides a second time changes nothing. -/
theorem replaceExternCppTypes_idem (apis : List Api) :
    self.replaceExternCppTypes (self.replaceExternCppTypes apis) = self.replaceExternCppTypes apis := by
  have overridden : self.replacements.values.filter (fun a => a.name ∉ self.externNames) = [] :=
    List.filter_eq_nil_iff.mpr fun a ha => by
      have : a.name ∈ self.externNames.eraseDups :=
        self.replacements_values_names ▸ List.mem_map_of_mem _ ha
      simpa [mem_eraseDups] using this
  rw [replaceExternCppTypes_eq, replaceExternCppTypes_eq, List.filter_append, overridden,
    List.append_nil, List.filter_filter]
  simp

end ParseBindgen
end AutocxxParse
