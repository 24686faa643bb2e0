import QueryTyping.Catalog.Validation
import QueryTyping.Encoding.Catalogs
import QueryTyping.Json.Printer
import QueryTyping.Json.Reader
import QueryTyping.Yaml.Expansion
import QueryTyping.Yaml.Reader

/-!
# Definitions of catalogs

A catalog is defined by a text of JSON or YAML, which may lie in a file. A definition is read, the
names that it leaves out are filled in, and the result is checked. A definition in YAML must not
follow too many aliases, which is judged by what is read of it.
-/

namespace QueryTyping

namespace Catalog

/-! ## What is read of a definition -/

/-- What is read of the type of a column. -/
def columnTypeShape : Yaml.Shape := .record fun
  | "type" | "nullable" => .scalar
  | _ => .ignored

/-- What is read of a column of a table. -/
def columnShape : Yaml.Shape := .record fun
  | "table_name" | "column_name" | "primary_key" => .scalar
  | "column_type" => columnTypeShape
  | _ => .ignored

/-- What is read of a table. -/
def tableShape : Yaml.Shape := .record fun
  | "table_name" => .scalar
  | "columns" => .list columnShape
  | _ => .ignored

/-- What is read of a column of a view. -/
def viewColumnShape : Yaml.Shape := .record fun
  | "column_name" => .scalar
  | "column_type" => columnTypeShape
  | _ => .ignored

/-- What is read of a reference. -/
def referenceShape : Yaml.Shape := .record fun
  | "schema_name" | "object_name" => .scalar
  | _ => .ignored

/-- What is read of a view. -/
def viewShape : Yaml.Shape := .record fun
  | "view_name" => .scalar
  | "columns" => .list viewColumnShape
  | "references" => .list referenceShape
  | _ => .ignored

/-- What is read of a schema. -/
def schemaShape : Yaml.Shape := .record fun
  | "schema_name" => .scalar
  | "tables" => .dictionary tableShape
  | "views" => .dictionary viewShape
  | _ => .ignored

/-- What is read of a catalog. -/
def shape : Yaml.Shape := .record fun
  | "default_schema" => .scalar
  | "schemas" => .dictionary schemaShape
  | _ => .ignored

/-! ## Definitions -/

/-- Completes a catalog that was read from a definition, if it could be read. The readers give no
reason for a failure, so one text stands for the detail of all errors of reading. -/
def complete (read : Option Catalog) : Except CatalogError Catalog :=
  match read with
  | none => .error (.serialization "the text does not define a catalog")
  | some catalog => do
    let filled := catalog.fillNames
    filled.validate
    return filled

/-- The catalog that a value of JSON defines. -/
def ofJson (json : Json) : Except CatalogError Catalog := complete (ofNode? json)

/-- The catalog that a text of JSON defines. -/
def ofJsonText (text : String) : Except CatalogError Catalog :=
  complete ((Json.parse? text).bind ofNode?)

/-- The catalog that a text of YAML defines. -/
def ofYamlText (text : String) : Except CatalogError Catalog :=
  complete (((Yaml.parse? text).filter (·.affords shape)).bind ofNode?)

/-- A text of JSON that defines a catalog. -/
def toJsonText (catalog : Catalog) : String := catalog.toJson.render

end Catalog

/-! ## Files -/

/-- What stands at a place in a file system. -/
inductive FileContent where
  | missing
  | directory
  | bytes (data : ByteArray)

/-- The text at a place in a file system, or why there is none. -/
def FileContent.text : FileContent → Except String String
  | missing => .error "No such file or directory (os error 2)"
  | directory => .error "Is a directory (os error 21)"
  | bytes data =>
    match String.fromUTF8? data with
    | some text => .ok text
    | none => .error "stream did not contain valid UTF-8"

/-- What stands behind the last point of a file name, unless the name begins with that point. -/
def fileExtension? (name : String) : Option String :=
  let reversed := name.toList.reverse
  match reversed.dropWhile (· ≠ '.') with
  | [] | [_] => none
  | _ :: _ :: _ => some (String.ofList (reversed.takeWhile (· ≠ '.')).reverse)

/-- The catalog that a file defines: in JSON if its name says so, and in YAML otherwise. -/
def Catalog.ofFile (name : String) (content : FileContent) : Except CatalogError Catalog :=
  match content.text with
  | .error reason => .error (.configuration ("cannot read " ++ name ++ ": " ++ reason))
  | .ok text =>
    if fileExtension? name = some "json" then ofJsonText text else ofYamlText text

end QueryTyping
