import AutocxxParse.Model.Types

/-! # The collaborators of the parse pass

`parse_bindgen.rs` calls into the rest of the engine: identifier validation, the known-types
table, the callback results bindgen recorded, the foreign-function collector and the error
reporter. None of them is defined in the file, so each is a parameter here, given by the
interface the pass relies on. The collector and the reporter carry, as fields, the kinds of
entry the spec lets them emit.
-/
namespace AutocxxParse

/-- The functions of the engine that the pass calls and does not define. -/
structure Env where
  validateIdentOkForCxx : String → Except String Unit
  getOriginalName : QualifiedName → Option String
  isKnownSubtituteType : QualifiedName → Bool
  isKnownType : QualifiedName → Bool
  checkForFatalAttrs : QualifiedName → Except ConvertErrorWithContext Unit
  cppNameIsNested : ApiName → Bool
  typeIsReference : Ty → Bool → Bool
  /-- Models `QualifiedName::from_type_path`, on the segments of the path. -/
  fromTypePath : List String → QualifiedName
  toCppName : QualifiedName → String
  newFromCppName : String → QualifiedName
  assembleExternFunDeps : Signature → String → Except LocatedConvertErrorFromRust (List QualifiedName)
  /-- The entries `generate_utilities` pushes. -/
  generateUtilities : IncludeCppConfig → List Api

/-- The foreign-function block collector (`ParseForeignMod`): one per scope, fed the scope's
`extern "C"` item lists and impl blocks; `finished` gives the entries it pushes. -/
structure ParseForeignMod (σ : Type) where
  new : Namespace → σ
  convertForeignModItems : σ → List ForeignItem → σ
  convertImplItems : σ → ItemImpl → σ
  finished : σ → List Api
  finished_functions : ∀ s, ∀ a ∈ finished s, a.isFunctionOrIgnored

/-- The error-accumulation collaborator behind `report_any_error`: the placeholder entries it
synthesizes for one failed item, given the scope's namespace. -/
structure ErrorReporter where
  ignoredItems : Namespace → ConvertErrorWithContext → List Api
  ignoredItems_placeholders : ∀ ns e, ∀ a ∈ ignoredItems ns e, a.isFunctionOrIgnored

/-- The read-only part of `ParseBindgen`; its `apis` field is threaded through the model as
state. -/
structure ParseBindgen (σ : Type) where
  config : IncludeCppConfig
  env : Env
  foreignMod : ParseForeignMod σ
  reporter : ErrorReporter

/-- Models `str::split("::")`, on the characters of the string. -/
def splitCppName : List Char → List String
  | [] => [""]
  | ':' :: ':' :: rest => "" :: splitCppName rest
  | c :: rest => match splitCppName rest with
    | s :: ss => ⟨c :: s.data⟩ :: ss
    | [] => [⟨[c]⟩]

def QualifiedName.ofSegments (segs : List String) : QualifiedName :=
  ⟨⟨segs.dropLast⟩, segs.getLast?.getD ""⟩

/-- Collaborators that accept every identifier, know no types and record no renames, with the
`QualifiedName` conversions of the engine: `from_type_path` drops a leading `root`,
`to_cpp_name` joins with `::`, `new_from_cpp_name` splits at `::`. -/
def Env.plain : Env where
  validateIdentOkForCxx _ := .ok ()
  getOriginalName _ := none
  isKnownSubtituteType _ := false
  isKnownType _ := false
  checkForFatalAttrs _ := .ok ()
  cppNameIsNested _ := false
  typeIsReference _ _ := false
  fromTypePath
    | "root" :: segs => QualifiedName.ofSegments segs
    | segs => QualifiedName.ofSegments segs
  toCppName q := String.intercalate "::" (q.ns.segments ++ [q.id])
  newFromCppName s := QualifiedName.ofSegments (splitCppName s.data)
  assembleExternFunDeps _ _ := .ok []
  generateUtilities _ := []

def ParseForeignMod.silent : ParseForeignMod Unit where
  new _ := ()
  convertForeignModItems _ _ := ()
  convertImplItems _ _ := ()
  finished _ := []
  finished_functions _ _ h := nomatch h

/-- Models `report_any_error` with `ignored_item`: an error in the context of an item becomes an
`IgnoredItem` named by that item in the scope's namespace; an error without context is only
printed. -/
def ErrorReporter.placeholder : ErrorReporter where
  ignoredItems ns e := match e.ctx with
    | some (.item id) => [.ignoredItem ⟨QualifiedName.new ns id, none⟩ e.err e.ctx]
    | none => []
  ignoredItems_placeholders ns e a h := by
    rcases e with ⟨err, _ | ⟨id⟩⟩
    · cases h
    · rw [List.mem_singleton.mp h]; rfl

def ParseBindgen.plain (config : IncludeCppConfig) : ParseBindgen Unit :=
  ⟨config, Env.plain, ParseForeignMod.silent, ErrorReporter.placeholder⟩

def errOf {ε α : Type} : Except ε α → Option ε
  | .error e => some e
  | .ok _ => none

namespace Env
variable (E : Env)

/-- Models `api_name`. -/
def apiName (ns : Namespace) (id : String) : ApiName :=
  ApiName.newWithCppName ns id (E.getOriginalName (QualifiedName.new ns id))

/-- Models `api_name_qualified`: `api_name` for an identifier that C++ accepts. -/
def apiNameQualified (ns : Namespace) (id : String) : Except ConvertErrorWithContext ApiName :=
  match E.validateIdentOkForCxx id with
  | .error e => .error ⟨.invalidIdent e, some (.item id)⟩
  | .ok _ => .ok (E.apiName ns id)

@[simp] theorem apiName_name (ns : Namespace) (id : String) :
    (E.apiName ns id).name = QualifiedName.new ns id := rfl

theorem apiNameQualified_name {ns : Namespace} {id : String} {n : ApiName}
    (h : E.apiNameQualified ns id = .ok n) : n.name = QualifiedName.new ns id := by
  unfold apiNameQualified at h
  split at h <;> cases h
  rfl

theorem apiNameQualified_error {ns : Namespace} {id : String} {e : ConvertErrorWithContext}
    (h : E.apiNameQualified ns id = .error e) : ∃ r, e = ⟨.invalidIdent r, some (.item id)⟩ := by
  unfold apiNameQualified at h
  split at h <;> cases h
  exact ⟨_, rfl⟩

end Env
end AutocxxParse
