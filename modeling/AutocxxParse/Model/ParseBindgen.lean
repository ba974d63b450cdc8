import AutocxxParse.Model.Collections
import AutocxxParse.Model.Engine
import AutocxxParse.Model.ApiVec

/-! # `parse_bindgen.rs`

The pass as the source computes it. `parse_item` takes `&mut self` and the scope's
`mod_converter` and returns a `Result`; here it takes the state it may change (`ScopeState`) and
returns the `Result` with the state it leaves, inside `Except Panic` for the `assert!`s that abort
the whole pass. `parse_item` and the loop of `parse_mod_items` are mutually recursive through
nested `mod` items. Every write to `self.apis` or to a scope's `more_apis` goes through
`ApiVec::push`, `extend`, `append` or `retain`.
-/
namespace AutocxxParse

/-- What `parse_item` may change: `self.apis`, and the `mod_converter` of the current scope. -/
structure ScopeState (σ : Type) where
  apis : List Api
  modConverter : σ

abbrev ItemResult (σ : Type) := Except ConvertErrorWithContext Unit × ScopeState σ

abbrev ArmResult := Except ConvertErrorWithContext Unit × List Api

def ScopeState.withArm {σ : Type} (st : ScopeState σ) (r : ArmResult) : ItemResult σ :=
  (r.1, { st with apis := r.2 })

/-- Models `report_any_error`: a failed item's error goes, with the scope's namespace, to the
reporter, whose placeholders are pushed into the scope's `more_apis`. -/
def reportAnyError (R : ErrorReporter) (ns : Namespace) (moreApis : List Api) :
    Except ConvertErrorWithContext Unit → List Api
  | .ok () => moreApis
  | .error e => ApiVec.extend moreApis (R.ignoredItems ns e)

def spotField (s : List Field) (desiredId : String) : Bool :=
  (s.filterMap Field.ident).any (· == desiredId)

def spotForwardDeclaration (s : List Field) : Bool := spotField s "_unused"

def spotZeroLengthStruct (s : List Field) : Bool := spotField s "_address"

def spotRvalueReferenceFields (E : Env) (s : List Field) : Bool :=
  s.any (fun f => E.typeIsReference f.ty true)

/-- Models `assert!(segs.remove(0) == expected, msg)`, returning what is left of `segs`. -/
def removeFirstAsserting (segs : List String) (expected msg : String) :
    Except Panic (List String) :=
  match segs with
  | [] => .error (.removalIndex 0 0)
  | s :: rest => if s = expected then .ok rest else .error (.assertion msg)

namespace ParseBindgen
variable {σ : Type} (self : ParseBindgen σ)

/-- Models `if !self.config.is_on_blocklist(&api.name().to_cpp_name()) { self.apis.push(api) }`. -/
def pushUnlessBlocked (apis : List Api) (api : Api) : List Api :=
  if self.config.isOnBlocklist (self.env.toCppName api.name) then apis else ApiVec.push apis api

/-- The `api` that the `Item::Struct` arm classifies a struct as, once its name is valid and not
a substitute type. -/
def structApi (ns : Namespace) (s : ItemStruct) (name : ApiName) : Option Api :=
  let err := errOf (self.env.checkForFatalAttrs name.name)
  if (ns.isEmpty && self.config.isRustType s.ident) || self.env.isKnownType name.name then none
  else if spotForwardDeclaration s.fields || (spotZeroLengthStruct s.fields && err.isSome) then
    let err := if err.isNone && self.env.cppNameIsNested name
      then some ⟨.forwardDeclaredNestedType, some (.item s.ident)⟩ else err
    some (.forwardDeclaration name err)
  else some (.struct name ⟨s, spotRvalueReferenceFields self.env s.fields⟩)

/-- The `Item::Struct` arm of `parse_item`. -/
def parseStruct (ns : Namespace) (s : ItemStruct) (apis : List Api) : ArmResult :=
  if s.ident.endsWith "__bindgen_vtable" then (.ok (), apis) else
  match self.env.apiNameQualified ns s.ident with
  | .error e => (.error e, apis)
  | .ok name =>
    if self.env.isKnownSubtituteType name.name then (.ok (), apis) else
    match self.structApi ns s name with
    | some api => (.ok (), self.pushUnlessBlocked apis api)
    | none => (.ok (), apis)

/-- The `Item::Enum` arm of `parse_item`. -/
def parseEnum (ns : Namespace) (e : ItemEnum) (apis : List Api) : ArmResult :=
  match self.env.apiNameQualified ns e.ident with
  | .error err => (.error err, apis)
  | .ok name => (.ok (), self.pushUnlessBlocked apis (.enum name e))

/-- The `loop` over a `use` tree in `parse_item`, with the path segments collected so far. -/
def parseUseTree (ns : Namespace) (apis : List Api) :
    List String → UseTree → Except Panic ArmResult
  | segs, .path ident tree => parseUseTree ns apis (segs ++ [ident]) tree
  | segs, .rename oldId newId =>
    if newId = "bindgen_cchar16_t" then pure (.ok (), apis) else do
      let newTyname := QualifiedName.new ns newId
      let segs ← removeFirstAsserting segs "self" "Path didn\x27t start with self"
      let segs ← removeFirstAsserting segs "super" "Path didn\x27t start with self::super"
      let oldPath := segs ++ [oldId]
      let oldTyname := self.env.fromTypePath oldPath
      if newTyname = oldTyname then
        pure (.error ⟨.infinitelyRecursiveTypedef newTyname, some (.item newId)⟩, apis)
      else
        pure (.ok (), ApiVec.push apis (.typedef (self.env.apiName ns newId) (.use oldPath) (some oldTyname)))
  -- `Name(root)` breaks out of the loop and every other kind returns: both end in `Ok(())`.
  | _, _ => pure (.ok (), apis)

/-- The `Item::Const` arm of `parse_item`. -/
def parseConst (ns : Namespace) (c : ItemConst) (apis : List Api) : ArmResult :=
  let enumTypeNameValid := match c.ty with
    | .path segs => match segs.getLast? with
      | some p => (self.env.validateIdentOkForCxx p).isOk
      | none => true
    | .other _ => true
  if enumTypeNameValid then (.ok (), ApiVec.push apis (.const (self.env.apiName ns c.ident) c))
  else (.ok (), apis)

/-- The `Item::Type` arm of `parse_item`. -/
def parseType (ns : Namespace) (t : ItemType) (apis : List Api) : ArmResult :=
  (.ok (), ApiVec.push apis (.typedef (self.env.apiName ns t.ident) (.type t) none))

/-- The end of `parse_mod_items`: `self.apis.append(&mut more_apis)`, then
`mod_converter.finished(&mut self.apis)`. -/
def finishModItems (st : ScopeState σ) (moreApis : List Api) : List Api :=
  ApiVec.extend (ApiVec.extend st.apis moreApis) (self.foreignMod.finished st.modConverter)

mutual
/-- Models `ParseBindgen::parse_item`. A `mod` with content runs `parse_mod_items` on it in the pushed
namespace, with a fresh `mod_converter`. -/
def parseItem (ns : Namespace) : Item → ScopeState σ → Except Panic (ItemResult σ)
  | .foreignMod items, st =>
    pure (.ok (), { st with
      modConverter := self.foreignMod.convertForeignModItems st.modConverter items })
  | .struct s, st => pure (st.withArm (self.parseStruct ns s st.apis))
  | .enum e, st => pure (st.withArm (self.parseEnum ns e st.apis))
  | .impl imp, st =>
    pure (.ok (), { st with modConverter := self.foreignMod.convertImplItems st.modConverter imp })
  | .mod _ none, st => pure (.ok (), st)
  | .mod ident (some items), st => do
    let newNs := ns.push ident
    let (inner, moreApis) ← parseModItemsLoop newNs items ⟨st.apis, self.foreignMod.new newNs⟩ []
    pure (.ok (), { st with apis := self.finishModItems inner moreApis })
  | .use tree, st => st.withArm <$> self.parseUseTree ns st.apis [] tree
  | .const c, st => pure (st.withArm (self.parseConst ns c st.apis))
  | .type t, st => pure (st.withArm (self.parseType ns t st.apis))
  | .other _, st => pure (.error ⟨.unexpectedItemInMod, none⟩, st)

/-- The `for` loop of `parse_mod_items`: every item goes through `report_any_error`. -/
def parseModItemsLoop (ns : Namespace) :
    List Item → ScopeState σ → List Api → Except Panic (ScopeState σ × List Api)
  | [], st, moreApis => pure (st, moreApis)
  | item :: items, st, moreApis => do
    let (r, st) ← parseItem ns item st
    parseModItemsLoop ns items st (reportAnyError self.reporter ns moreApis r)
end

/-- Models `ParseBindgen::parse_mod_items`: a fresh `mod_converter` for the scope, the loop, then the
scope's deferred errors and the collector's entries. -/
def parseModItems (items : Option (List Item)) (ns : Namespace) (apis : List Api) :
    Except Panic (List Api) := do
  let (st, moreApis) ← self.parseModItemsLoop ns (items.getD []) ⟨apis, self.foreignMod.new ns⟩ []
  pure (self.finishModItems st moreApis)

theorem parseItem_mod (ns : Namespace) (ident : String) (items : List Item) (st : ScopeState σ) :
    self.parseItem ns (.mod ident (some items)) st =
      (fun apis => (.ok (), { st with apis })) <$> self.parseModItems (some items) (ns.push ident) st.apis := by
  simp only [parseItem, parseModItems, Option.getD_some]
  cases self.parseModItemsLoop (ns.push ident) items ⟨st.apis, self.foreignMod.new (ns.push ident)⟩ [] <;> rfl

/-- Models `ParseBindgen::find_items_in_root`: the content of the first `mod` with content, which must
be bindgen's `root`. -/
def findItemsInRoot : List Item → Except Panic (Except ConvertErrorFromCpp (Option (List Item)))
  | [] => pure (.ok none)
  | .mod ident content :: items =>
    if ident = "root" then
      match content with
      | some rootItems => pure (.ok (some rootItems))
      | none => findItemsInRoot items
    else .error (.assertion "assertion failed: root_mod.ident == \"root\"")
  | _ :: items => findItemsInRoot items

/-- The `Api::RustFn` entry of one configured `extern_rust_fun`. -/
def rustFnApi (sourceFileContents : String) (f : RustFun) :
    Except LocatedConvertErrorFromRust Api := do
  let deps ← self.env.assembleExternFunDeps f.sig sourceFileContents
  pure (.rustFn (ApiName.newInRootNamespace f.sig.ident) f deps)

/-- Models `ParseBindgen::add_apis_from_config`. -/
def addApisFromConfig (apis : List Api) (sourceFileContents : String) :
    Except LocatedConvertErrorFromRust (List Api) := do
  let apis := ApiVec.extend apis (self.config.subclasses.map fun sc =>
    .subclass (ApiName.newInRootNamespace sc.subclass) (self.env.newFromCppName sc.superclass))
  let apis ← self.config.externRustFuns.foldlM
    (fun apis f => do pure (ApiVec.push apis (← self.rustFnApi sourceFileContents f))) apis
  let uniqueRustTypes := IndexSet.collect self.config.rustTypes
  let apis := ApiVec.extend apis (uniqueRustTypes.items.map fun path =>
    .rustType (ApiName.newInRootNamespace path.getFinalIdent) path)
  pure (ApiVec.extend apis (self.config.concretes.map fun (cppDefinition, rustId) =>
    .concreteType (ApiName.newInRootNamespace rustId) cppDefinition none))

/-- The `(qualified name, Api::ExternCppType)` pair built for one configured extern. -/
def externReplacement (podRequests : IndexSet String) (e : String × ExternCppType) :
    QualifiedName × Api :=
  let qn := self.env.newFromCppName e.1
  let pod := decide (self.env.toCppName qn ∈ podRequests.items)
  (qn, .externCppType (ApiName.newFromQualifiedName qn) e.2 pod)

/-- Models `ParseBindgen::replace_extern_cpp_types`. -/
def replaceExternCppTypes (apis : List Api) : List Api :=
  let podRequests := IndexSet.collect self.config.getPodRequests
  let replacements := IndexMap.collect (self.config.externs.map (self.externReplacement podRequests))
  ApiVec.extend (apis.filter (fun api => !replacements.containsKey api.name)) replacements.values

/-- Models `ParseBindgen::confirm_all_generate_directives_obeyed`. -/
def confirmAllGenerateDirectivesObeyed (apis : List Api) : Except ConvertErrorFromCpp Unit :=
  let apiNames := IndexSet.collect (apis.map fun api => self.env.toCppName api.name)
  self.config.mustGenerateList.forM fun generateDirective =>
    if generateDirective ∈ apiNames.items then pure () else .error (.didNotGenerateAnything generateDirective)

/-- Models `ParseBindgen::parse_items`. -/
def parseItems (items : List Item) (sourceFileContents : String) :
    Except Panic (Except ConvertError (List Api)) := do
  match ← findItemsInRoot items with
  | .error e => pure (.error (.cpp e))
  | .ok rootItems =>
    let apis := if self.config.excludeUtilities then [] else ApiVec.extend [] (self.env.generateUtilities self.config)
    match self.addApisFromConfig apis sourceFileContents with
    | .error e => pure (.error (.rust e))
    | .ok apis =>
      let apis ← self.parseModItems rootItems Namespace.new apis
      match self.confirmAllGenerateDirectivesObeyed apis with
      | .error e => pure (.error (.cpp e))
      | .ok () => pure (.ok (self.replaceExternCppTypes apis))

end ParseBindgen
end AutocxxParse
