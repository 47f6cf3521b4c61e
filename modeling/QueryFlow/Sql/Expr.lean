import QueryFlow.Sql.DataType
import QueryFlow.Sql.Token

/-!
Parsed SQL as one kind of tree: every node has a form, which says what it is, and operands in the
order in which they are looked at. Expressions, clauses, FROM items and whole queries are forms
alike, so that one walk visits everything that stands inside a statement.
-/

namespace QueryFlow.Sql

/-- An operator between two operands. -/
inductive BinaryOp where
  | or | and | xor
  | equal | notEqual | sameAs | differsFrom
  | less | lessEqual | greater | greaterEqual
  | bitAnd | bitOr | bitXor | shiftLeft | shiftRight | concatenate
  | add | subtract | remainder | collate
  | multiply | divide | wholeDivide | distance | boxDistance | power
  | like | notLike | likeFolded | notLikeFolded | similarTo | matching | matchingFolded | glob
  | matches | escape
  | contains | containedIn | overlaps | adjacent | periodOverlaps | extendsLeft | extendsRight
  | is
  | jsonField | jsonText | jsonPath | jsonPathText | jsonHasKey | jsonHasAnyKey | jsonHasAllKeys
  | jsonDelete | jsonHasPath | textSearch | startsWith
  | atTimeZone
  deriving Repr, DecidableEq

inductive UnaryOp where
  | not | negative | complement | squareRoot | cubeRoot
  deriving Repr, DecidableEq

/-- The side of a join that is kept whole. -/
inductive JoinSide where
  | left | right | full
  deriving Repr, DecidableEq

structure JoinKind where
  /-- `NATURAL`, `ASOF` or `POSITIONAL`. -/
  manner : Option String := none
  side : Option JoinSide := none
  /-- `INNER`, `OUTER`, `CROSS`, `SEMI`, `ANTI`, `ANY` or `STRAIGHT_JOIN`. -/
  kind : Option String := none
  /-- The columns of a `USING` list. -/
  shared : List Name := []
  hasCondition : Bool := false
  deriving Repr, DecidableEq

/-- The name given to a FROM item, and to its columns. -/
structure ItemAlias where
  name : Option Name
  columns : List Name := []
  /-- The types of the columns as they are written, where the columns are declared with types. -/
  types : List String := []
  deriving Repr, DecidableEq

/-- How two queries are put together. -/
structure SetOperator where
  word : String
  all : Bool
  byName : Bool := false
  deriving Repr, DecidableEq

/-- The limits of a window frame: a word such as `UNBOUNDED`, or an operand, and a direction. -/
structure FrameBound where
  fixed : Option String
  direction : Option String
  deriving Repr, DecidableEq

/-- The shape of a window: how many of the operands say what. -/
structure WindowShape where
  opening : String
  base : Option Name
  /-- The window is only a name, without parentheses. -/
  named : Bool
  partitions : Nat
  orders : Nat
  /-- Unit, start and end of the frame, and what it leaves out. -/
  frame : Option (String × FrameBound × Option FrameBound × Option String)
  deriving Repr, DecidableEq

/-- What a node is. Operands are described after the dash. -/
inductive Form where
  -- leaves
  /-- A column — the comments inside its path, if there are any. -/
  | column (path : List Name)
  /-- All columns — what is left out or changed. -/
  | star
  /-- All columns of an item — the comments inside its path, if there are any, and what is left out
  or changed. -/
  | allOf (path : List Name)
  /-- Comments inside a path — one operand for each name of the path, which has its comments. -/
  | pathNotes
  | name (name : Name)
  | words (text : String)
  | number (digits : String)
  | string (text : String)
  | marked (mark : LiteralMark) (text : String)
  | null
  | boolean (value : Bool)
  | placeholder (name : Option String)
  | moment (standard : String)
  /-- A text with the operands in its gaps. -/
  | phrase (pattern : String)
  -- operators
  | binary (op : BinaryOp)
  | unary (op : UnaryOp)
  /-- Not null — the tested value. -/
  | present
  | paren
  | tuple
  /-- Between two bounds, and whether the text says that their order does not matter — value, low,
  high. -/
  | between (symmetric : Option Bool)
  /-- One of a list — value, then the list. -/
  | inList
  /-- One of the rows of a query — value, query. -/
  | inQuery
  /-- One of the items of a list value — value, list. -/
  | inField
  | case (hasSubject hasElse : Bool)
  | cast (target : DataType) (safe : Bool)
  | interval (unit : Option String)
  /-- A part of a date — part, date. -/
  | extract
  /-- An item of a list — list, then indexes. -/
  | subscript
  | slice
  | arrayLiteral (word : String)
  | dot
  | parameter
  -- calls
  /-- A function by its name in capitals or its standard name, and the name as written. -/
  | call (name written : String) (known : Bool)
  | distinctArguments
  /-- Arguments with an order — argument, then order items. -/
  | orderedArgument
  | limitedArgument
  | namedArgument (name : Name) (sign : String)
  | lambda (parameters : List Name)
  /-- Texts of many rows put together — value, order items, separator, how many rows at most. -/
  | joinedText (orders : Nat) (hasSeparator hasLimit : Bool)
  /-- A part of a text — text, start, length. -/
  | substring
  /-- Where a text stands in another — text, what is looked for, start, occurrence. -/
  | position
  | trim (side : Option String) (hasCharacters : Bool)
  | overlay (hasLength : Bool)
  | filtered
  | withinGroup
  | nullsRule (rule : String)
  | window (shape : WindowShape)
  | exists
  | any
  | all
  -- parts of queries
  | «alias» (name : Name)
  /-- An item of an order — the value, and what says more about the order. -/
  | ordered (descending : Option Bool) (nullsFirst : Bool)
  | groupingItem (word : String)
  | subquery (shown : Option ItemAlias)
  | table (path : List Name) (shown : Option ItemAlias)
  /-- A function as a FROM item — the call. -/
  | tableFunction (shown : Option ItemAlias)
  | values (shown : Option ItemAlias)
  | lateral (shown : Option ItemAlias)
  | unnest (shown : Option ItemAlias) (ordinality : Bool)
  /-- The rows of several functions side by side — the calls. -/
  | rowsFrom
  /-- The state of a table that is read: a text with the operands in its gaps. -/
  | version (pattern : String)
  /-- A table in the state after all merges — the table. -/
  | final
  /-- A query — its clauses. -/
  | select (distinct : Bool)
  | setOperation (operator : SetOperator)
  -- clauses of queries
  | distinctOn
  | items
  | into
  | from
  | join (kind : JoinKind)
  | where
  /-- Rows below rows — the condition of the first rows, if there is one, and that of a row and the
  row above it. -/
  | connectBy (noCycle hasStart : Bool)
  /-- What rows are put together by, with a word in front of the items and one behind them. -/
  | groupBy (modifier tail : String)
  | having
  | qualify
  | windowNames
  | orderBy
  | limit (top : Bool)
  | offset
  | fetch (direction : String) (percent withTies : Bool)
  | lock (text : String)
  /-- A part of the rows of an item — how many, between the words around it. -/
  | sample (opening closing : String)
  | otherClause (text : String)
  /-- Named queries — each of them, then the order in which a recursive one finds its rows. -/
  | with (recursive : Bool)
  | commonTable (shown : ItemAlias) (materialized : Option Bool)
  /-- A statement that is no query; some of them may have a WITH clause. -/
  | command (takesWith : Bool)
  /-- A node whose text no dialect knows how to write. -/
  | unwritable

inductive Expr where
  | node (form : Form) (notes : List String) (operands : List Expr)

instance : Inhabited Expr := ⟨.node .null [] []⟩

namespace Expr

def form : Expr → Form
  | node f _ _ => f

def notes : Expr → List String
  | node _ n _ => n

def operands : Expr → List Expr
  | node _ _ xs => xs

/-- A node without comments. -/
def of (f : Form) (xs : List Expr := []) : Expr := node f [] xs

def annotate (e : Expr) (more : List String) : Expr :=
  match e with
  | node f n xs => node f (n ++ more) xs

/-- The node without its comments. -/
def bare : Expr → Expr
  | node f _ xs => node f [] xs

mutual

/-- The node and all nodes below it, each before its operands. -/
def subterms : Expr → List Expr
  | node f n xs => node f n xs :: subtermsOf xs

/-- The nodes of several trees, one tree after the other. -/
def subtermsOf : List Expr → List Expr
  | [] => []
  | x :: xs => subterms x ++ subtermsOf xs

end

/-- The node is a query that needs parentheses to stand in an expression. -/
def isQuery (e : Expr) : Bool :=
  match e.form with
  | .select .. | .setOperation _ => true
  | _ => false

/-- The name by which the node can be referred to: of an identifier, a literal or what stands
innermost in an alias, otherwise empty. -/
def nameText (e : Expr) : String :=
  match e.form with
  | .column path => ((path.getLast?).map (·.text)).getD ""
  | .name n => n.text
  | .string s => s
  | .number s => s
  | .words s => s
  | _ => ""

def wordText (e : Expr) : String :=
  match e.form with
  | .name n => n.text
  | .string s | .number s | .words s => s
  | .null => "NULL"
  | .star => "*"
  | _ => ""

/-- The name by which the count of a span goes where the whole span is one string: of a column, of
what is cast, of a function that is not known or of a literal that stands first. -/
def spanName : Expr → String
  | .node f n xs =>
    match f, xs with
    | .column _, _ | .name _, _ | .string _, _ | .number _, _ | .words _, _ =>
      nameText (.node f n xs)
    | .null, _ => "NULL"
    | .star, _ => "*"
    | .placeholder (some s), _ => s
    | .call _ written false, _ => written
    | .cast .., x :: _ => spanName x
    | .dot, [_, x] => spanName x
    | .tuple, _ | .case .., _ | .arrayLiteral _, _ => ""
    | _, x :: _ => x.wordText
    | _, [] => ""

end Expr

end QueryFlow.Sql
