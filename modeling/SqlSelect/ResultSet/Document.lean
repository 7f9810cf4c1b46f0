import SqlSelect.Json.Record
import SqlSelect.ResultSet

/-!
Fields of a result as JSON texts. A field has to have its name and the name of its
type.
-/

namespace SqlSelect.Field

def ofTree? (t : Json.Tree) : Option Field := do
  match ← t.fields? ["name", "type_name"] with
  | [some name, some typeName] =>
      let name ← name.text?
      let typeName ← typeName.text?
      return { name, typeName }
  | _ => none

def read (s : String) : Except Error Field :=
  match (Json.Tree.read? s).bind ofTree? with
  | some field => .ok field
  | none => .error .unreadable

def toTree (f : Field) : Json.Tree :=
  .ofFields [("name", .ofText f.name), ("type_name", .ofText f.typeName)]

def write (f : Field) : String := f.toTree.render

end SqlSelect.Field
