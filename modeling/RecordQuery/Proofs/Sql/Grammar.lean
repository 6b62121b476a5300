import RecordQuery.Condition
import RecordQuery.Proofs.Sql.Token

/-!
# The grammar of conditions

Reads the tokens of a condition by the grammar of SQL.  `NOT` binds tighter than `AND` and `AND`
tighter than `OR`, tests bind tighter than all of them, and the `AND` between the bounds of
`BETWEEN` belongs to the test.

## Main Definitions

* `Sql.Expr` — a condition as it is read
* `Sql.readTest` — reads a test of a column or the existence of a row
* `Sql.readTerm` — reads a test, a complement or a condition in brackets
* `Sql.readCondition` — reads terms with connectives between them
* `Sql.parse?` — the condition that tokens spell

## Design Notes

A condition is nested at most as deep as it has tokens, and no chain of a connective has more
parts, so their number bounds the recursion of the readers.  `IS NOT NULL` and `NOT LIKE` are
read as the complements that they are.
-/

namespace RecordQuery

namespace Sql

/-- A column with the name of the row that it belongs to. -/
structure QualifiedName where
  row : String
  column : String
  deriving DecidableEq, Repr

/-- What a column is compared with. -/
inductive Operand
  | parameter (n : Int)
  | bool (b : Bool)
  deriving DecidableEq, Repr

/-- The rows of a table that point at a row outside. -/
structure RelatedRows where
  schema : Option String
  table : String
  foreignKey : String
  owner : QualifiedName
  deriving DecidableEq, Repr

/-- A condition as it is read. -/
inductive Expr
  | constant (b : Bool)
  | compare (c : QualifiedName) (op : Comparison) (value : Operand)
  | between (c : QualifiedName) (low high : Operand)
  | oneOf (c : QualifiedName) (values : List Operand)
  | isNull (c : QualifiedName)
  | like (c : QualifiedName) (pattern : Operand) (escape : Option String)
  /-- Some of the rows exists, where `key` names a column of it and what it has to equal. -/
  | exists (rows : RelatedRows) (key : Option (String × Operand))
  | not (x : Expr)
  | both (x y : Expr)
  | either (x y : Expr)
  deriving DecidableEq, Repr

/-- Reads something at the front of tokens and leaves the rest. -/
abbrev Reader (α : Type) := List Token → Option (α × List Token)

/-- The comparison that a symbol stands for. -/
def Symbol.comparison? : Symbol → Option Comparison
  | .eq => some .eq
  | .ne => some .ne
  | .lt => some .lt
  | .le => some .le
  | .gt => some .gt
  | .ge => some .ge
  | _ => none

/-- The operand that a token is. -/
def Token.operand? : Token → Option Operand
  | .placeholder n => some (.parameter n)
  | .keyword .true => some (.bool true)
  | .keyword .false => some (.bool false)
  | _ => none

/-! ## Tests -/

/-- Reads a column. -/
def readColumn : Reader QualifiedName
  | .word row :: .symbol .dot :: .name column :: ts => some (⟨row, column⟩, ts)
  | _ => none

/-- Reads a table, in its schema if one is given. -/
def readTable : Reader (Option String × String)
  | .name schema :: .symbol .dot :: .name table :: ts => some ((some schema, table), ts)
  | .name table :: ts => some ((none, table), ts)
  | _ => none

/-- Reads one given token. -/
def expect (t : Token) : Reader Unit
  | t' :: ts => if t' = t then some ((), ts) else none
  | [] => none

/-- Reads operands with commas between them up to a closing bracket. -/
def readOperands : Reader (List Operand)
  | t :: .symbol .comma :: ts => do
    let value ← t.operand?
    let (values, ts) ← readOperands ts
    return (value :: values, ts)
  | t :: .symbol .close :: ts => do
    let value ← t.operand?
    return ([value], ts)
  | _ => none

/-- Reads what follows `LIKE`. -/
def readLike (c : QualifiedName) : Reader Expr
  | t :: .keyword .escape :: .literal escape :: ts => do
    let pattern ← t.operand?
    return (.like c pattern (some escape), ts)
  | t :: ts => do
    let pattern ← t.operand?
    return (.like c pattern none, ts)
  | [] => none

/-- Reads what is asked of a column. -/
def readColumnTest (c : QualifiedName) : Reader Expr
  | .keyword .between :: low :: .keyword .and :: high :: ts => do
    let low ← low.operand?
    let high ← high.operand?
    return (.between c low high, ts)
  | .keyword .in :: .symbol .open :: ts => do
    let (values, ts) ← readOperands ts
    return (.oneOf c values, ts)
  | .keyword .is :: .keyword .null :: ts => some (.isNull c, ts)
  | .keyword .is :: .keyword .not :: .keyword .null :: ts => some (.not (.isNull c), ts)
  | .keyword .like :: ts => readLike c ts
  | .keyword .not :: .keyword .like :: ts => do
    let (x, ts) ← readLike c ts
    return (.not x, ts)
  | .symbol s :: t :: ts => do
    let op ← s.comparison?
    let value ← t.operand?
    return (.compare c op value, ts)
  | _ => none

/-- Reads a subquery up to its closing bracket: the rows of a table of which one column equals a
column of a row outside, and maybe another one a parameter. -/
def readSubquery : Reader Expr
  | .keyword .select :: .numeral 1 :: .keyword .from :: ts => do
    let ((schema, table), ts) ← readTable ts
    match ts with
    | .word row :: .keyword .where :: ts => do
      let (inner, ts) ← readColumn ts
      let ((), ts) ← expect (.symbol .eq) ts
      let (owner, ts) ← readColumn ts
      guard (inner.row = row ∧ owner.row ≠ row)
      let rows : RelatedRows := ⟨schema, table, inner.column, owner⟩
      match ts with
      | .symbol .close :: ts => return (.exists rows none, ts)
      | .keyword .and :: ts => do
        let (key, ts) ← readColumn ts
        guard (key.row = row)
        match ts with
        | .symbol .eq :: t :: .symbol .close :: ts => do
          let value ← t.operand?
          return (.exists rows (some (key.column, value)), ts)
        | _ => none
      | _ => none
    | _ => none
  | _ => none

/-- Reads a test. -/
def readTest : Reader Expr
  | .keyword .true :: ts => some (.constant true, ts)
  | .keyword .false :: ts => some (.constant false, ts)
  | .keyword .exists :: .symbol .open :: ts => readSubquery ts
  | ts => do
    let (c, ts) ← readColumn ts
    readColumnTest c ts

/-! ## Connectives -/

/-- Reads parts with a connective between them, at most so many. -/
def readChain (k : Keyword) (join : Expr → Expr → Expr) (part : Reader Expr) : Nat → Reader Expr
  | 0, _ => none
  | n + 1, ts => do
    let (x, ts) ← part ts
    if ts.head? = some (.keyword k) then
      let (y, ts) ← readChain k join part n ts.tail
      return (join x y, ts)
    else return (x, ts)

/-- Reads a condition made of terms: alternatives of conjunctions. -/
def readCondition (term : Reader Expr) (n : Nat) : Reader Expr :=
  readChain .or .either (readChain .and .both term n) n

/-- Reads a term, nested at most so deep. -/
def readTerm : Nat → Reader Expr
  | 0, _ => none
  | n + 1, .keyword .not :: ts => do
    let (x, ts) ← readTerm n ts
    return (.not x, ts)
  | n + 1, .symbol .open :: ts => do
    let (x, ts) ← readCondition (readTerm n) n ts
    let ((), ts) ← expect (.symbol .close) ts
    return (x, ts)
  | _ + 1, ts => readTest ts

/-- The condition that tokens spell, if it takes all of them. -/
def parse? (ts : List Token) : Option Expr :=
  match readCondition (readTerm ts.length) ts.length ts with
  | some (x, []) => some x
  | _ => none

end Sql

end RecordQuery
