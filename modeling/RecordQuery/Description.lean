import RecordQuery.Filter
import RecordQuery.Text.Escaped

/-!
# Descriptions

One-line texts that show how columns, relations, joins and filters are made up.

## Main Definitions

* `Description.tuple`, `Description.record`, `Description.list` — the forms of composite values
* `Column.describe`, `Related.describe`, `Root.describe` and so on — the texts
-/

namespace RecordQuery

namespace Description

/-- A name with values in parentheses. -/
def tuple (name : String) (values : List String) : String :=
  name ++ "(" ++ ", ".intercalate values ++ ")"

/-- A name with named values in braces. -/
def record (name : String) (fields : List (String × String)) : String :=
  name ++ " \x7b " ++ ", ".intercalate (fields.map fun (key, value) => key ++ ": " ++ value) ++
    " \x7d"

/-- Values in brackets. -/
def list (values : List String) : String :=
  "[" ++ ", ".intercalate values ++ "]"

/-- A declared field. -/
def field (name : String) : String := tuple "Field" [escapedText name]

/-- A declared collection. -/
def collection (property foreignKey : String) : String :=
  record "Collection" [("name", escapedText property), ("foreign_key", escapedText foreignKey)]

/-- A declared reference. -/
def reference (property foreignKey : String) : String :=
  record "Reference" [("name", escapedText property), ("foreign_key", escapedText foreignKey)]

/-- A declared value object. -/
def embedding (e : Embedding) : String :=
  record "Embedded"
    [("name", escapedText e.property), ("column_prefix", escapedText e.columnPrefix)]

/-- A value object on the way to a column. -/
def enclosing (e : Embedding) : String :=
  record "EmbeddedRef"
    [("property", escapedText e.property), ("column_prefix", escapedText e.columnPrefix)]

end Description

/-- The description of a source. -/
def Source.describe : Source → String
  | root => "Root"
  | join index => Description.tuple "Join" [toString index]

/-- The description of the row at a source, as a base for paths. -/
def Source.describeRow (source : Source) : String :=
  Description.tuple "Join" [source.describe]

/-- The description of value objects at a source, as a base for paths. -/
def Source.describeEmbedded (source : Source) (embedded : List Embedding) : String :=
  Description.record "EmbeddedPath"
    [("source", source.describe),
      ("embedded", Description.list (embedded.map Description.enclosing))]

/-- The description of a column. -/
def Column.describe (column : Column) : String :=
  Description.record "ColumnRef"
    [("source", column.source.describe),
      ("embedded", Description.list (column.embedded.map Description.enclosing)),
      ("name", escapedText column.field)]

/-- The description of the path to a column. -/
def Column.describePath (column : Column) : String :=
  Description.tuple "Path" [column.describe]

/-- The description of a collection at its owner. -/
def Related.describe (related : Related) : String :=
  Description.record "CollectionRef"
    [("owner", related.owner.describe), ("owner_key", escapedText related.ownerKey),
      ("property", escapedText related.collection.property),
      ("table", escapedText related.collection.target.name),
      ("foreign_key", escapedText related.collection.foreignKey),
      ("target_key", escapedText related.collection.target.primaryKey)]

/-- The description of the path to a collection. -/
def Related.describePath (related : Related) : String :=
  Description.tuple "CollectionPath" [related.describe]

/-- The description of the relation that a join follows. -/
def Join.describeRelation : Join → String
  | collection related => Description.tuple "Collection" [related.describe]
  | reference owner r =>
    Description.tuple "Reference"
      [Description.record "ReferenceRef"
        [("owner", owner.describe), ("property", escapedText r.property),
          ("foreign_key", escapedText r.foreignKey), ("table", escapedText r.target.name),
          ("target_key", escapedText r.target.primaryKey)]]

/-- The description of a join. -/
def Join.describe (join : Join) : String :=
  Description.record "JoinClause"
    [("index", toString join.index), ("relation", join.describeRelation)]

/-- The description of a root. -/
def Root.describe (root : Root) : String :=
  Description.record "Root" [("joins", Description.list (root.joins.map Join.describe))]

/-- The description of a filter. -/
def Filter.describe (filter : Filter) : String :=
  Description.record "Specification" [("unrestricted", toString filter.isUnrestricted)]

end RecordQuery
