import AutocxxParse.Walk.Scope
import AutocxxParse.Pass.Replace

/-! # The whole pass

`parse_items` builds the model by pushing, in turn, the utilities, the entries taken from the
configuration and the walk of the root scope into one `ApiVec`; it checks the must-generate
directives against that model, and only then lets the native-type overrides replace entries. So a
directive is judged by the model before substitution.
-/
namespace AutocxxParse
namespace ParseBindgen
variable {σ : Type} (self : ParseBindgen σ)

/-- The model after `generate_utilities`, unless the configuration excludes the utilities. -/
def utilityEntries : List Api :=
  if self.config.excludeUtilities then [] else ApiVec.extend [] (self.env.generateUtilities self.config)

/-- The entries taken from the configuration, group by group in configuration order. -/
def configEntries (sourceFileContents : String) : Except LocatedConvertErrorFromRust (List Api) :=
  (fun fns => self.config.subclasses.map (fun sc =>
      .subclass (ApiName.newInRootNamespace sc.subclass) (self.env.newFromCppName sc.superclass)) ++
    fns ++
    self.config.rustTypes.eraseDups.map (fun path =>
      .rustType (ApiName.newInRootNamespace path.getFinalIdent) path) ++
    self.config.concretes.map (fun c => .concreteType (ApiName.newInRootNamespace c.2) c.1 none)) <$>
  self.config.externRustFuns.mapM (self.rustFnApi sourceFileContents)

theorem foldlM_push_eq_mapM {α ε : Type} (g : α → Except ε Api) (l : List α) (acc : List Api) :
    l.foldlM (fun apis f => (fun a => ApiVec.push apis a) <$> g f) acc = ApiVec.extend acc <$> l.mapM g := by
  induction l generalizing acc with
  | nil => simp only [List.foldlM_nil, List.mapM_nil, map_pure, ApiVec.extend_nil]
  | cons f l ih =>
    simp only [List.foldlM_cons, List.mapM_cons]
    cases g f with
    | error => rfl
    | ok a => simp [ih]

theorem addApisFromConfig_eq (apis : List Api) (sourceFileContents : String) :
    self.addApisFromConfig apis sourceFileContents =
      ApiVec.extend apis <$> self.configEntries sourceFileContents := by
  simp [addApisFromConfig, configEntries, foldlM_push_eq_mapM, IndexSet.collect_items, ApiVec.extend_append]

/-- The first must-generate directive that no entry's C++ name satisfies. -/
def firstMissingDirective (apis : List Api) : Option String :=
  self.config.mustGenerateList.find? fun d => d ∉ apis.map fun api => self.env.toCppName api.name

theorem forM_directives (names ds : List String) :
    ds.forM (fun d => if d ∈ names then pure () else .error (.didNotGenerateAnything d)) =
      match ds.find? (fun d => d ∉ names) with
      | none => (.ok () : Except ConvertErrorFromCpp Unit)
      | some d => .error (.didNotGenerateAnything d) := by
  induction ds with
  | nil => rfl
  | cons d ds ih =>
    by_cases h : d ∈ names
    · simp [h, ih]
    · simp [h]; rfl

theorem confirmAllGenerateDirectivesObeyed_eq (apis : List Api) :
    self.confirmAllGenerateDirectivesObeyed apis =
      match self.firstMissingDirective apis with
      | none => .ok ()
      | some d => .error (.didNotGenerateAnything d) := by
  unfold confirmAllGenerateDirectivesObeyed firstMissingDirective
  simp only [IndexSet.mem_collect]
  exact forM_directives _ _

/-- The end of `parse_items`: the directive gate on the model, then the substitution. -/
def gateThenReplace (m : List Api) : Except ConvertError (List Api) :=
  match self.firstMissingDirective m with
  | none => .ok (self.replaceExternCppTypes m)
  | some d => .error (.cpp (.didNotGenerateAnything d))

theorem gateThenReplace_ok {m M : List Api} (h : self.gateThenReplace m = .ok M) :
    M = self.replaceExternCppTypes m := by
  unfold gateThenReplace at h
  split at h <;> cases h
  rfl

theorem parseItems_eq (items : List Item) (sourceFileContents : String) :
    self.parseItems items sourceFileContents = (do
      match ← findItemsInRoot items with
      | .error e => pure (.error (.cpp e))
      | .ok root =>
        match self.addApisFromConfig self.utilityEntries sourceFileContents with
        | .error e => pure (.error (.rust e))
        | .ok apis => self.gateThenReplace <$> self.parseModItems root Namespace.new apis) := by
  have hu : (if self.config.excludeUtilities = true then [] else
      ApiVec.extend [] (self.env.generateUtilities self.config)) = self.utilityEntries := rfl
  simp only [parseItems, hu, confirmAllGenerateDirectivesObeyed_eq]
  cases findItemsInRoot items with
  | error => rfl
  | ok found =>
    cases found with
    | error => rfl
    | ok root =>
      simp only [except_ok_bind]
      cases self.addApisFromConfig self.utilityEntries sourceFileContents with
      | error => rfl
      | ok apis =>
        dsimp only
        cases self.parseModItems root Namespace.new apis with
        | error => rfl
        | ok m => cases h : self.firstMissingDirective m <;> simp [h, gateThenReplace] <;> rfl

/-- The model the gate and the substitution see is the utilities' model with the configuration's
entries and then the walk of the root pushed into it. -/
theorem parseItems_entry_order (items : List Item) (sourceFileContents : String) :
    self.parseItems items sourceFileContents = (do
      match ← findItemsInRoot items with
      | .error e => pure (.error (.cpp e))
      | .ok root =>
        match self.configEntries sourceFileContents with
        | .error e => pure (.error (.rust e))
        | .ok cfgApis =>
          (fun w => self.gateThenReplace (ApiVec.extend self.utilityEntries (cfgApis ++ w))) <$>
            self.walk Namespace.new (root.getD [])) := by
  rw [parseItems_eq, addApisFromConfig_eq]
  cases findItemsInRoot items with
  | error => rfl
  | ok found =>
    cases found with
    | error => rfl
    | ok root =>
      simp only [except_ok_bind]
      cases self.configEntries sourceFileContents with
      | error => rfl
      | ok cfgApis => simp [parseModItems_walk, ApiVec.extend_append]

def twoAliasesRoot : List Item := [.mod "root" (some [.type ⟨"X", .other "u32"⟩, .type ⟨"X", .other "u64"⟩])]

/-- The walk pushes both typedefs, but the model holds neither: the second retires the first. -/
theorem parseItems_twoAliases :
    (ParseBindgen.plain IncludeCppConfig.empty).walk Namespace.new
        [.type ⟨"X", .other "u32"⟩, .type ⟨"X", .other "u64"⟩] =
      .ok [.typedef ⟨⟨Namespace.new, "X"⟩, none⟩ (.type ⟨"X", .other "u32"⟩) none,
        .typedef ⟨⟨Namespace.new, "X"⟩, none⟩ (.type ⟨"X", .other "u64"⟩) none] ∧
    (ParseBindgen.plain IncludeCppConfig.empty).parseItems twoAliasesRoot "" =
      .ok (.ok [Api.duplicateOf ⟨Namespace.new, "X"⟩]) :=
  ⟨rfl, rfl⟩

/-- The pass fails on the first must-generate directive the model before substitution misses,
and otherwise returns that model with the overrides substituted. -/
theorem parseItems_gate {items : List Item} {sourceFileContents : String}
    {root : Option (List Item)} {apis m : List Api}
    (hroot : findItemsInRoot items = .ok (.ok root))
    (hcfg : self.addApisFromConfig self.utilityEntries sourceFileContents = .ok apis)
    (hwalk : self.parseModItems root Namespace.new apis = .ok m) :
    self.parseItems items sourceFileContents = .ok (match self.firstMissingDirective m with
      | none => .ok (self.replaceExternCppTypes m)
      | some d => .error (.cpp (.didNotGenerateAnything d))) := by
  rw [parseItems_eq, hroot]
  simp [hcfg, hwalk, gateThenReplace]

def overrideOnlyConfig : IncludeCppConfig :=
  { IncludeCppConfig.empty with mustGenerateList := ["a::Foo"], externs := [("a::Foo", ⟨["ffi", "Foo"]⟩)] }

theorem parseItems_gate_overrideOnly :
    ParseBindgen.findItemsInRoot [] = .ok (.ok none) ∧
    (ParseBindgen.plain overrideOnlyConfig).addApisFromConfig
      (ParseBindgen.plain overrideOnlyConfig).utilityEntries "" = .ok [] ∧
    (ParseBindgen.plain overrideOnlyConfig).parseModItems none Namespace.new [] = .ok [] ∧
    (ParseBindgen.plain overrideOnlyConfig).parseItems [] "" =
      .ok (match (ParseBindgen.plain overrideOnlyConfig).firstMissingDirective [] with
        | none => .ok ((ParseBindgen.plain overrideOnlyConfig).replaceExternCppTypes [])
        | some d => .error (.cpp (.didNotGenerateAnything d))) :=
  ⟨rfl, rfl, rfl, @ParseBindgen.parseItems_gate Unit (.plain overrideOnlyConfig) [] "" none [] [] rfl rfl rfl⟩

/-- The directive `a::Foo` is satisfied by the model after substitution, yet the pass fails on it. -/
theorem parseItems_directive_override_fails :
    (∀ d ∈ overrideOnlyConfig.mustGenerateList, d ∈
      ((ParseBindgen.plain overrideOnlyConfig).replaceExternCppTypes []).map
        (fun a => Env.plain.toCppName a.name)) ∧
    (ParseBindgen.plain overrideOnlyConfig).parseItems [] "" =
      .ok (.error (.cpp (.didNotGenerateAnything "a::Foo"))) :=
  ⟨by decide, rfl⟩

end ParseBindgen
end AutocxxParse
