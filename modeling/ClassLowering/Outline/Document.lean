import ClassLowering.Outline.Basic
import ClassLowering.Text.Json

/-!
# Outlines as documents

The outline of a class as a JSON document: the names, the parameters of the
constructor, the fields and the entries of the prototype. Keys are written in
their display form, and an internal name that is missing is left out.
-/

namespace ClassLowering

namespace EntryOutline

/-- The kind of an entry. -/
def kindDocument : EntryOutline -> Json
  | .constructor => .string "constructor"
  | .method function =>
      .string (if function.isGenerator then "generator" else "method")
  | .accessor getter setter =>
      .record [("accessor", .record
        [("get", .bool getter.isSome), ("set", .bool setter.isSome)])]

end EntryOutline

namespace ClassOutline

/-- A field as data. -/
def fieldDocument (field : FieldOutline) : Json :=
  .record [("key", .string field.key.display),
    ("has_initializer", .bool field.hasInitializer)]

/-- An entry of the prototype as data. -/
def memberDocument (member : MemberOutline) : Json :=
  .record [
    ("key", .string member.key.display),
    ("kind", member.entry.kindDocument),
    ("enumerable", .bool member.attributes.enumerable),
    ("writable", .bool member.attributes.writable)]

/-- A class as data. -/
def document (outline : ClassOutline) : Json :=
  .record (("name", .string outline.name) ::
    (outline.internalName.map fun name =>
      ("internal_name", Json.string name)).toList ++ [
        ("constructor_params", .list (outline.params.map .string)),
        ("fields", .list (outline.fields.map fieldDocument)),
        ("members", .list (outline.entries.map memberDocument))])

end ClassOutline
end ClassLowering
