/-!
# Identifiers

Names of tables and columns are quoted, so that any text can be a name.  A name that comes from
the settings has to be a plain one besides.

## Main Definitions

* `Sql.quoted` — text between quotation marks, a mark inside it written twice
* `Sql.checkIdentifier` — whether a name is plain, or what is wrong with it
* `Sql.reservedWords` — the words that are no plain names
-/

namespace RecordQuery

namespace Sql

/-- The characters of a quoted text without its outer marks: every mark inside is doubled. -/
def doubled (mark : Char) (cs : List Char) : List Char :=
  cs.flatMap fun c => if c = mark then [c, c] else [c]

theorem doubled_cons (mark c : Char) (cs : List Char) :
    doubled mark (c :: cs) = (if c = mark then [c, c] else [c]) ++ doubled mark cs :=
  List.flatMap_cons

/-- Text between quotation marks. -/
def quoted (mark : Char) (cs : List Char) : List Char :=
  mark :: doubled mark cs ++ [mark]

/-- A name between double quotes. -/
def quoteIdentifier (name : String) : String :=
  String.ofList (quoted '"' name.toList)

/-- The words that have a meaning of their own in statements. -/
def reservedWords : List String :=
  ["ALL", "ANALYSE", "ANALYZE", "AND", "ANY", "ARRAY", "AS", "ASC", "ASYMMETRIC", "BOTH",
    "CASE", "CAST", "CHECK", "COLLATE", "COLUMN", "CONSTRAINT", "CREATE", "CURRENT_CATALOG",
    "CURRENT_DATE", "CURRENT_ROLE", "CURRENT_TIME", "CURRENT_TIMESTAMP", "CURRENT_USER",
    "DEFAULT", "DEFERRABLE", "DESC", "DISTINCT", "DO", "ELSE", "END", "EXCEPT", "FALSE",
    "FETCH", "FOR", "FOREIGN", "FROM", "GRANT", "GROUP", "HAVING", "IN", "INITIALLY",
    "INTERSECT", "INTO", "LATERAL", "LEADING", "LIMIT", "LOCALTIME", "LOCALTIMESTAMP", "NOT",
    "NULL", "OFFSET", "ON", "ONLY", "OR", "ORDER", "PLACING", "PRIMARY", "REFERENCES",
    "RETURNING", "SELECT", "SESSION_USER", "SOME", "SYMMETRIC", "TABLE", "THEN", "TO",
    "TRAILING", "TRUE", "UNION", "UNIQUE", "USER", "USING", "VARIADIC", "WHEN", "WHERE",
    "WINDOW", "WITH"]

/-- Whether a plain name may start with the character. -/
def isNameStart (c : Char) : Bool :=
  'a' ≤ c && c ≤ 'z' || c == '_'

/-- Whether a plain name may contain the character. -/
def isNamePart (c : Char) : Bool :=
  isNameStart c || '0' ≤ c && c ≤ '9'

/-- What is wrong with a name. -/
inductive IdentifierError
  | empty
  | malformed (name : String)
  | reserved (name : String)
  deriving DecidableEq, Repr

/-- The text of an error. -/
def IdentifierError.message : IdentifierError → String
  | empty => "Identifier cannot be empty"
  | malformed name =>
    "Identifier '" ++ name ++
      "' is invalid. Must start with a lowercase letter or underscore " ++
      "and contain only lowercase letters, numbers, and underscores."
  | reserved name =>
    "Identifier '" ++ name ++ "' is a PostgreSQL reserved keyword and cannot be used."

/-- Whether the characters form a plain name. -/
def isPlain : List Char → Bool
  | [] => false
  | c :: cs => isNameStart c && cs.all isNamePart

/-- Whether a name is a reserved word, in letters of either case. -/
def isReserved (name : String) : Bool :=
  reservedWords.contains (String.ofList (name.toList.map Char.toUpper))

/-- Accepts the plain names: small letters, digits and underscores, no digit in front, and no
reserved word. -/
def checkIdentifier (name : String) : Except IdentifierError Unit :=
  if name.isEmpty then .error .empty
  else if !isPlain name.toList then .error (.malformed name)
  else if isReserved name then .error (.reserved name)
  else .ok ()

end Sql

end RecordQuery
