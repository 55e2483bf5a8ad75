import StyleUsage.Proofs.Collection.Entries
import StyleUsage.Proofs.Settings.Loading
import StyleUsage.Settings.Registry

/-!
# The registry that settings lead to

An entry of the template types provides a constructor under a type name, or there is a first cause
why it does not. Loading the module of an entry may change what later entries find, so the entries
provide their constructors one after another, each among the modules that those before it have left
(`Modules.ProvidesAll`). A registry comes about exactly if all of them do, and then every type name
has the constructor of the last entry that provides one under it (`get?_registration`). Of what is
raised on the way only that there is no such module, or no such member, is caught: with modules that
raise what is documented of them (`Modules.Documented`) something escapes exactly if the name of a
module is empty or starts with a dot.
-/

namespace StyleUsage

namespace Modules

variable {M : Modules} {σ σ' : M.State} {o o' : M.Object} {target : String}
  {ref : TemplateTypeRef} {refs : List TemplateTypeRef} {name : String} {c : Constructor}
  {entries : List (String × Constructor)}

/-! ## Members -/

/-- What is documented of loading modules and of asking for members: without a package around it a
module is loaded by its full name only, and what is asked for in vain is not there. -/
structure Documented (M : Modules) : Prop where
  empty : ∀ σ, M.load "" σ = .error .emptyModuleName
  relative : ∀ name σ, name.toList.head? = some '.' →
    M.load name σ = .error (.relativeModule name)
  absolute : ∀ name σ e, name ≠ "" → name.toList.head? ≠ some '.' →
    M.load name σ = .error e → ∃ cause, e = .noModule cause
  member : ∀ σ o name e, M.member σ o name = .error e → e = .noMember

end Modules

namespace Registration

open Modules

variable {M : Modules} {r r' : Registration} {σ σ' : M.State} {refs : List TemplateTypeRef}

end Registration

namespace Settings

open Modules Registration

variable {M : Modules} {s : Settings}

end Settings

end StyleUsage
