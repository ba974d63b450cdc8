import Mathlib.Data.List.Basic

/-! # Data model of the bindgen parse pass

Namespaces, qualified names and the `Api` variants that `parse_bindgen.rs` builds; the part of
the `syn` item tree it reads; the errors and panics it can end in; and the configuration
(`IncludeCppConfig`) it consults. Payloads that no function of the pass looks into are kept as
plain records, so that entries stay comparable.
-/
namespace AutocxxParse

/-- A C++ namespace, by its segments, outermost first (`types::Namespace`). -/
structure Namespace where
  segments : List String
  deriving DecidableEq, Repr

def Namespace.new : Namespace := ⟨[]⟩

def Namespace.push (ns : Namespace) (s : String) : Namespace := ⟨ns.segments ++ [s]⟩

def Namespace.isEmpty (ns : Namespace) : Bool := ns.segments.isEmpty

@[simp] theorem Namespace.push_segments (ns : Namespace) (s : String) :
    (ns.push s).segments = ns.segments ++ [s] := rfl

@[simp] theorem Namespace.isEmpty_new : Namespace.new.isEmpty = true := rfl

/-- A namespace and a final identifier (`types::QualifiedName`). -/
structure QualifiedName where
  ns : Namespace
  id : String
  deriving DecidableEq, Repr

def QualifiedName.new (ns : Namespace) (id : String) : QualifiedName := ⟨ns, id⟩

/-- An entry's name, with the original C++ name when bindgen renamed it (`api::ApiName`). -/
structure ApiName where
  name : QualifiedName
  cppName : Option String
  deriving DecidableEq, Repr

def ApiName.newWithCppName (ns : Namespace) (id : String) (cppName : Option String) : ApiName :=
  ⟨QualifiedName.new ns id, cppName⟩

def ApiName.newInRootNamespace (id : String) : ApiName := ⟨QualifiedName.new Namespace.new id, none⟩

def ApiName.newFromQualifiedName (qn : QualifiedName) : ApiName := ⟨qn, none⟩

/-! ### The item tree -/

inductive Ty where
  | path (segments : List String)
  | other (tokens : String)
  deriving DecidableEq, Repr

structure Field where
  ident : Option String
  ty : Ty
  deriving DecidableEq, Repr

structure ItemStruct where
  ident : String
  fields : List Field
  deriving DecidableEq, Repr

structure ItemEnum where
  ident : String
  variants : List String
  deriving DecidableEq, Repr

structure ItemConst where
  ident : String
  ty : Ty
  expr : String
  deriving DecidableEq, Repr

structure ItemType where
  ident : String
  ty : Ty
  deriving DecidableEq, Repr

structure ForeignItem where
  ident : String
  sig : String
  deriving DecidableEq, Repr

structure ItemImpl where
  selfTy : Ty
  items : List String
  deriving DecidableEq, Repr

/-- The tree of a `use` item (`syn::UseTree`). -/
inductive UseTree where
  | path (ident : String) (tree : UseTree)
  | name (ident : String)
  | rename (ident rename : String)
  | glob
  | group (items : List UseTree)

/-- The items bindgen emits (`syn::Item`); `other` stands for every kind the pass rejects. -/
inductive Item where
  | foreignMod (items : List ForeignItem)
  | struct (s : ItemStruct)
  | enum (e : ItemEnum)
  | impl (imp : ItemImpl)
  | mod (ident : String) (content : Option (List Item))
  | use (tree : UseTree)
  | const (c : ItemConst)
  | type (t : ItemType)
  | other (kind : String)

/-! ### Errors and panics -/

inductive ErrorContext where
  | item (id : String)
  deriving DecidableEq, Repr

inductive ConvertErrorFromCpp where
  | invalidIdent (reason : String)
  | forwardDeclaredNestedType
  | infinitelyRecursiveTypedef (name : QualifiedName)
  | unexpectedItemInMod
  | didNotGenerateAnything (directive : String)
  | unusedTemplateParam
  | duplicateItemsFoundInParsing
  deriving DecidableEq, Repr

structure ConvertErrorWithContext where
  err : ConvertErrorFromCpp
  ctx : Option ErrorContext
  deriving DecidableEq, Repr

structure LocatedConvertErrorFromRust where
  reason : String
  deriving DecidableEq, Repr

inductive ConvertError where
  | cpp (e : ConvertErrorFromCpp)
  | rust (e : LocatedConvertErrorFromRust)
  deriving DecidableEq, Repr

/-- A Rust panic: a failed `assert!`, or `Vec::remove` past the end. It ends the whole pass. -/
inductive Panic where
  | assertion (msg : String)
  | removalIndex (index len : Nat)
  deriving DecidableEq, Repr

/-! ### Configuration -/

structure RustPath where
  parents : List String
  finalIdent : String
  deriving DecidableEq, Repr

def RustPath.getFinalIdent (p : RustPath) : String := p.finalIdent

structure Signature where
  ident : String
  text : String
  deriving DecidableEq, Repr

structure RustFun where
  path : RustPath
  sig : Signature
  deriving DecidableEq, Repr

structure SubclassConfig where
  superclass : String
  subclass : String
  deriving DecidableEq, Repr

structure ExternCppType where
  rustPath : List String
  deriving DecidableEq, Repr

/-- The fields of `IncludeCppConfig` the pass reads, as the sequences it iterates. -/
structure IncludeCppConfig where
  excludeUtilities : Bool
  subclasses : List SubclassConfig
  externRustFuns : List RustFun
  rustTypes : List RustPath
  concretes : List (String × String)
  externs : List (String × ExternCppType)
  podRequests : List String
  blocklist : List String
  mustGenerateList : List String
  deriving DecidableEq, Repr

def IncludeCppConfig.empty : IncludeCppConfig :=
  ⟨false, [], [], [], [], [], [], [], []⟩

/-- Modelled from the spec: "block-list membership test by plain name". -/
def IncludeCppConfig.isOnBlocklist (cfg : IncludeCppConfig) (cppName : String) : Bool :=
  decide (cppName ∈ cfg.blocklist)

/-- Modelled from the spec: "managed-native type membership test by identifier". -/
def IncludeCppConfig.isRustType (cfg : IncludeCppConfig) (id : String) : Bool :=
  decide (id ∈ cfg.rustTypes.map RustPath.getFinalIdent)

def IncludeCppConfig.getPodRequests (cfg : IncludeCppConfig) : List String := cfg.podRequests

/-! ### The API model -/

inductive TypedefKind where
  | use (oldPath : List String)
  | type (item : ItemType)
  deriving DecidableEq, Repr

structure StructDetails where
  item : ItemStruct
  hasRvalueReferenceFields : Bool
  deriving DecidableEq, Repr

/-- One entry of the API model (`api::Api` in its `NullPhase`). -/
inductive Api where
  | struct (name : ApiName) (details : StructDetails)
  | enum (name : ApiName) (item : ItemEnum)
  | forwardDeclaration (name : ApiName) (err : Option ConvertErrorWithContext)
  | typedef (name : ApiName) (item : TypedefKind) (oldTyname : Option QualifiedName)
  | const (name : ApiName) (constItem : ItemConst)
  | subclass (name : ApiName) (superclass : QualifiedName)
  | rustFn (name : ApiName) (details : RustFun) (deps : List QualifiedName)
  | rustType (name : ApiName) (path : RustPath)
  | concreteType (name : ApiName) (cppDefinition : String) (rsDefinition : Option Ty)
  | externCppType (name : ApiName) (details : ExternCppType) (pod : Bool)
  | function (name : ApiName) (fn : ForeignItem)
  | ignoredItem (name : ApiName) (err : ConvertErrorFromCpp) (ctx : Option ErrorContext)
  | stringConstructor (name : ApiName)
  deriving DecidableEq, Repr

def Api.nameInfo : Api → ApiName
  | .struct n _ | .enum n _ | .forwardDeclaration n _ | .typedef n _ _ | .const n _
  | .subclass n _ | .rustFn n _ _ | .rustType n _ | .concreteType n _ _
  | .externCppType n _ _ | .function n _ | .ignoredItem n _ _ | .stringConstructor n => n

/-- The qualified name an entry is keyed by (`Api::name`). -/
def Api.name (api : Api) : QualifiedName := api.nameInfo.name

/-- Struct, Enum and ForwardDeclaration: the variants the block list applies to. -/
def Api.isBlockable : Api → Bool
  | .struct .. | .enum .. | .forwardDeclaration .. => true
  | _ => false

/-- The variants only the walk's own classification creates. -/
def Api.isParsedDecl : Api → Bool
  | .struct .. | .enum .. | .forwardDeclaration .. | .typedef .. | .const .. => true
  | _ => false

/-- The variants the foreign-function collector and the error reporter emit. -/
def Api.isFunctionOrIgnored : Api → Bool
  | .function .. | .ignoredItem .. => true
  | _ => false

theorem Api.isBlockable_parsedDecl {a : Api} (h : a.isBlockable) : a.isParsedDecl := by
  cases a <;> simp_all [isBlockable, isParsedDecl]

theorem Api.not_parsedDecl_of_functionOrIgnored {a : Api} (h : a.isFunctionOrIgnored) :
    a.isParsedDecl = false := by
  cases a <;> simp_all [isFunctionOrIgnored, isParsedDecl]

end AutocxxParse
