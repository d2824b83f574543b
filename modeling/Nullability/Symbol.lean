/-!
# Symbols and member ids

A member is named by a kind, usually one letter, and a key, the rest of its documentation id.
Symbols of the analysed program carry documentation ids; annotation documents carry member names.
Both are split at a colon in second place, but a member name without such a colon still names a
member, of the unknown kind.
-/

namespace Nullability

/-- A member as annotation documents and symbols name it. -/
structure MemberId where
  kind : String
  key : String
  deriving DecidableEq, Repr, Inhabited

namespace MemberId

/-- The kind of a member whose name has no kind. -/
def unknownKind : String := "?"

/-- Splits `K:rest` into kind `K` and key `rest`, which may be empty. -/
def ofDocumentationId? (id : String) : Option MemberId :=
  match id.toList with
  | kind :: ':' :: key => some ⟨String.ofList [kind], String.ofList key⟩
  | _ => none

/-- Splits `K:rest` if `rest` is not empty; any other name is a key of the unknown kind. -/
def ofMemberName (name : String) : MemberId :=
  match name.toList with
  | kind :: ':' :: first :: key => ⟨String.ofList [kind], String.ofList (first :: key)⟩
  | _ => ⟨unknownKind, name⟩

end MemberId

/-- A symbol of the analysed program. -/
structure Symbol where
  name : String
  documentationId : Option String
  isParameter : Bool
  /-- The symbol that declares this one, such as the method of a parameter. -/
  owner : Option Symbol
  /-- The name of the assembly that declares the symbol, if it is known. -/
  assembly : Option String
  deriving Inhabited

namespace Symbol

/-- The member whose annotations decide about a symbol: the owner of a parameter, else the symbol
itself. -/
def member? (symbol : Symbol) : Option MemberId :=
  if symbol.isParameter then
    (symbol.owner.bind (·.documentationId)).bind MemberId.ofDocumentationId?
  else symbol.documentationId.bind MemberId.ofDocumentationId?

end Symbol

end Nullability
