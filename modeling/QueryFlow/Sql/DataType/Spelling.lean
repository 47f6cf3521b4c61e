import QueryFlow.Sql.DataType
import QueryFlow.Sql.Literal

/-!
How each dialect writes data types: its own names for them, the brackets around their parts, and the
narrower choice of types that a cast has in some dialects.
-/

namespace QueryFlow.Sql.DataType

/-- Types that all dialects but a few write with another name. -/
def commonSpellings : List (String × String) :=
  [("NCHAR", "CHAR"), ("NVARCHAR", "VARCHAR"), ("MEDIUMTEXT", "TEXT"), ("LONGTEXT", "TEXT"),
   ("TINYTEXT", "TEXT"), ("MEDIUMBLOB", "BLOB"), ("LONGBLOB", "BLOB"), ("TINYBLOB", "BLOB"),
   ("ROWVERSION", "VARBINARY"), ("SMALLDATETIME", "TIMESTAMP"), ("DATETIME2", "TIMESTAMP")]

/-- The names that hive and its kin have for standard types, where they differ. -/
def hiveSpellings : List (String × String) :=
  [("BIT", "BOOLEAN"), ("DATETIME", "TIMESTAMP"), ("ROWVERSION", "BINARY"), ("TEXT", "STRING"),
   ("TIME", "TIMESTAMP"), ("TIMESTAMPTZ", "TIMESTAMP"), ("UTINYINT", "SMALLINT"),
   ("VARBINARY", "BINARY")]

/-- The name that a dialect has for a standard type, where it differs. -/
def ownSpellings : Dialect → List (String × String)
  | .ansi => []
  | .bigquery =>
    [("BIGDECIMAL", "BIGNUMERIC"), ("BIGINT", "INT64"), ("BINARY", "BYTES"), ("BOOLEAN", "BOOL"),
     ("CHAR", "STRING"), ("DECIMAL", "NUMERIC"), ("DOUBLE", "FLOAT64"), ("FLOAT", "FLOAT64"),
     ("INT", "INT64"), ("NCHAR", "STRING"), ("NVARCHAR", "STRING"), ("SMALLINT", "INT64"),
     ("TEXT", "STRING"), ("TIMESTAMP", "DATETIME"), ("TIMESTAMPNTZ", "DATETIME"),
     ("TIMESTAMPTZ", "TIMESTAMP"), ("TIMESTAMPLTZ", "TIMESTAMP"), ("TINYINT", "INT64"),
     ("ROWVERSION", "BYTES"), ("UUID", "STRING"), ("VARBINARY", "BYTES"), ("VARCHAR", "STRING"),
     ("VARIANT", "ANY TYPE")]
  | .clickhouse =>
    [("BIGINT", "Int64"), ("BOOLEAN", "Bool"), ("CHAR", "String"),
     ("DATE", "DATE"), ("DATETIME", "DateTime"), ("DATETIME64", "DateTime64"),
     ("DECIMAL", "Decimal"), ("DOUBLE", "Float64"), ("FLOAT", "Float32"), ("INT", "Int32"),
     ("INT128", "Int128"), ("INT256", "Int256"), ("LONGTEXT", "String"), ("MEDIUMTEXT", "String"),
     ("LONGBLOB", "String"), ("MEDIUMBLOB", "String"), ("TINYBLOB", "String"),
     ("SMALLINT", "Int16"), ("TEXT", "String"), ("TIMESTAMP", "DateTime"),
     ("TIMESTAMPTZ", "DateTime"), ("TINYINT", "Int8"), ("TINYTEXT", "String"),
     ("UBIGINT", "UInt64"), ("UINT", "UInt32"), ("UINT128", "UInt128"), ("UINT256", "UInt256"),
     ("USMALLINT", "UInt16"), ("UTINYINT", "UInt8"), ("VARBINARY", "String"), ("VARCHAR", "String"),
     ("DATE32", "Date32"), ("FIXEDSTRING", "FixedString"), ("ENUM", "Enum"), ("ENUM8", "Enum8"),
     ("ENUM16", "Enum16"), ("IPV4", "IPv4"), ("IPV6", "IPv6"), ("NOTHING", "Nothing"),
     ("DYNAMIC", "Dynamic"), ("POINT", "Point"), ("RING", "Ring"), ("POLYGON", "Polygon"),
     ("LINESTRING", "LineString"), ("MULTILINESTRING", "MultiLineString"),
     ("MULTIPOLYGON", "MultiPolygon"), ("DECIMAL32", "Decimal32"), ("DECIMAL64", "Decimal64"),
     ("DECIMAL128", "Decimal128"), ("DECIMAL256", "Decimal256"), ("MEDIUMINT", "Int32"),
     ("TIMESTAMPNTZ", "DateTime"), ("DATETIME2", "DateTime"), ("SMALLDATETIME", "DateTime")]
  | .hive => hiveSpellings ++ [("TIMESTAMPNTZ", "TIMESTAMP")]
  | .databricks | .spark =>
    hiveSpellings ++ [("TIMESTAMPNTZ", "TIMESTAMP_NTZ"), ("TIMESTAMPLTZ", "TIMESTAMP_LTZ"),
      ("UUID", "STRING"), ("MONEY", "DECIMAL(15, 4)"), ("SMALLMONEY", "DECIMAL(6, 4)")]
  | .duckdb =>
    [("BINARY", "BLOB"), ("BPCHAR", "TEXT"), ("CHAR", "TEXT"), ("DATETIME", "TIMESTAMP"),
     ("FLOAT", "REAL"), ("JSONB", "JSON"), ("NCHAR", "TEXT"), ("NVARCHAR", "TEXT"),
     ("UINT", "UINTEGER"), ("VARBINARY", "BLOB"), ("ROWVERSION", "BLOB"), ("VARCHAR", "TEXT"),
     ("TIMESTAMPLTZ", "TIMESTAMPTZ"), ("TIMESTAMPNTZ", "TIMESTAMP")]
  | .mysql =>
    [("MEDIUMTEXT", "MEDIUMTEXT"), ("LONGTEXT", "LONGTEXT"), ("TINYTEXT", "TINYTEXT"),
     ("MEDIUMBLOB", "MEDIUMBLOB"), ("LONGBLOB", "LONGBLOB"), ("TINYBLOB", "TINYBLOB"),
     ("DATETIME2", "DATETIME"), ("SMALLDATETIME", "DATETIME"), ("TIMESTAMP", "DATETIME"),
     ("TIMESTAMPTZ", "TIMESTAMP"), ("TIMESTAMPLTZ", "TIMESTAMP"), ("TIMESTAMPNTZ", "DATETIME"),
     ("UBIGINT", "BIGINT UNSIGNED"), ("UINT", "INT UNSIGNED"),
     ("UMEDIUMINT", "MEDIUMINT UNSIGNED"), ("USMALLINT", "SMALLINT UNSIGNED"),
     ("UTINYINT", "TINYINT UNSIGNED"), ("UDECIMAL", "DECIMAL UNSIGNED"),
     ("UDOUBLE", "DOUBLE UNSIGNED")]
  | .starrocks =>
    [("INT128", "LARGEINT"), ("TEXT", "STRING"), ("TIMESTAMP", "DATETIME"),
     ("TIMESTAMPTZ", "DATETIME"), ("MEDIUMTEXT", "MEDIUMTEXT"), ("LONGTEXT", "LONGTEXT"),
     ("TINYTEXT", "TINYTEXT"), ("UBIGINT", "BIGINT UNSIGNED"), ("UINT", "INT UNSIGNED"),
     ("USMALLINT", "SMALLINT UNSIGNED"), ("UTINYINT", "TINYINT UNSIGNED")]
  | .oracle =>
    [("TINYINT", "SMALLINT"), ("BIGINT", "INT"), ("DECIMAL", "NUMBER"),
     ("DOUBLE", "DOUBLE PRECISION"), ("VARCHAR", "VARCHAR2"), ("NVARCHAR", "NVARCHAR2"),
     ("NCHAR", "NCHAR"), ("TEXT", "CLOB"), ("TIMETZ", "TIME"), ("TIMESTAMPNTZ", "TIMESTAMP"),
     ("TIMESTAMPTZ", "TIMESTAMP"),
     ("BINARY", "BLOB"), ("VARBINARY", "BLOB"), ("ROWVERSION", "BLOB")]
  | .postgres =>
    [("TINYINT", "SMALLINT"), ("FLOAT", "REAL"), ("DOUBLE", "DOUBLE PRECISION"),
     ("BINARY", "BYTEA"), ("VARBINARY", "BYTEA"), ("ROWVERSION", "BYTEA"),
     ("DATETIME", "TIMESTAMP"), ("TIMESTAMPNTZ", "TIMESTAMP")]
  | .redshift =>
    [("TINYINT", "SMALLINT"), ("FLOAT", "REAL"), ("DOUBLE", "DOUBLE PRECISION"),
     ("BINARY", "VARBYTE"), ("VARBINARY", "VARBYTE"), ("ROWVERSION", "VARBYTE"),
     ("DATETIME", "TIMESTAMP"), ("TIMESTAMPNTZ", "TIMESTAMP"), ("INT", "INTEGER"),
     ("TIMETZ", "TIME"), ("TIMESTAMPTZ", "TIMESTAMP"), ("TEXT", "VARCHAR(MAX)")]
  | .presto | .trino =>
    [("BINARY", "VARBINARY"), ("BIT", "BOOLEAN"), ("DATETIME", "TIMESTAMP"), ("FLOAT", "REAL"),
     ("HLLSKETCH", "HYPERLOGLOG"), ("INT", "INTEGER"), ("TEXT", "VARCHAR"),
     ("TIMESTAMPTZ", "TIMESTAMP"), ("TIMESTAMPNTZ", "TIMESTAMP"), ("TIMETZ", "TIME"),
     ("DATETIME64", "TIMESTAMP")]
  | .snowflake => [("TEXT", "VARCHAR"), ("BIGDECIMAL", "DOUBLE"), ("JSON", "VARIANT")]
  | .sqlite =>
    [("BOOLEAN", "INTEGER"), ("TINYINT", "INTEGER"), ("SMALLINT", "INTEGER"), ("INT", "INTEGER"),
     ("BIGINT", "INTEGER"), ("FLOAT", "REAL"), ("DOUBLE", "REAL"), ("DECIMAL", "REAL"),
     ("CHAR", "TEXT"), ("NCHAR", "TEXT"), ("VARCHAR", "TEXT"), ("NVARCHAR", "TEXT"),
     ("BINARY", "BLOB"), ("VARBINARY", "BLOB")]
  | .tsql =>
    [("BOOLEAN", "BIT"), ("DATETIME2", "DATETIME2"), ("DECIMAL", "NUMERIC"), ("DOUBLE", "FLOAT"),
     ("INT", "INTEGER"), ("ROWVERSION", "ROWVERSION"), ("SMALLDATETIME", "SMALLDATETIME"),
     ("TEXT", "VARCHAR(MAX)"), ("TIMESTAMP", "DATETIME2"), ("TIMESTAMPNTZ", "DATETIME2"),
     ("TIMESTAMPTZ", "DATETIMEOFFSET"), ("UTINYINT", "TINYINT"), ("UUID", "UNIQUEIDENTIFIER"),
     ("VARIANT", "SQL_VARIANT"), ("NVARCHAR", "NVARCHAR"), ("NCHAR", "NCHAR")]

def spelling (d : Dialect) (standard : String) : String :=
  match (ownSpellings d).lookup standard with
  | some s => s
  | none => (commonSpellings.lookup standard).getD standard

def argumentText (d : Dialect) : TypeArgument → String
  | .number s => s
  | .word s => s
  | .string s => Literal.quote d s
  | .measured s unit => if d == .oracle then s ++ " " ++ unit else s
  | .valued s n => Literal.quote d s ++ " = " ++ n

def temporalTypes : List String :=
  ["DATE", "DATE32", "DATETIME", "DATETIME2", "DATETIME64", "SMALLDATETIME", "TIME", "TIMESTAMP",
   "TIMESTAMPNTZ", "TIMESTAMPLTZ", "TIMESTAMPTZ", "TIMETZ"]

/-- Arguments that a dialect does not write for this type. -/
def dropsArguments (d : Dialect) (standard : String) : Bool :=
  match d with
  | .duckdb => ["TEXT", "TIME", "TIMETZ", "TIMESTAMPTZ"].contains standard
  | .clickhouse => spelling d standard == "String"
  | .presto => temporalTypes.contains standard
  | .databricks | .hive | .spark => standard == "FLOAT" || temporalTypes.contains standard
  | _ => false

/-- The type has a time zone that the dialect says in words. -/
def saysZone (d : Dialect) (standard : String) : Bool :=
  (d == .presto || d == .trino || d == .redshift || d == .oracle)
    && (standard == "TIMESTAMPTZ" || standard == "TIMETZ")

/-- The name of a type in front of arguments, when there are any. -/
def nameBefore (d : Dialect) (standard : String) (hasArguments : Bool) : String :=
  match d, standard, hasArguments with
  | .postgres, "FLOAT", true | .postgres, "DOUBLE", true | .redshift, "FLOAT", true
  | .redshift, "DOUBLE", true => "FLOAT"
  | .redshift, "TEXT", true => "VARCHAR"
  | .hive, "TEXT", true | .spark, "TEXT", true | .databricks, "TEXT", true => "VARCHAR"
  | .hive, "VARCHAR", false | .spark, "VARCHAR", false | .databricks, "VARCHAR", false
  | .hive, "NVARCHAR", false | .spark, "NVARCHAR", false | .databricks, "NVARCHAR", false
  | .hive, "NCHAR", false | .spark, "NCHAR", false | .databricks, "NCHAR", false
  | .hive, "CHAR", false | .spark, "CHAR", false | .databricks, "CHAR", false => "STRING"
  | _, _, _ => spelling d standard

def argumentsText (d : Dialect) (arguments : List TypeArgument) : String :=
  if arguments.isEmpty then ""
  else "(" ++ ", ".intercalate (arguments.map (argumentText d)) ++ ")"

/-- A type without parts. -/
def simpleText (d : Dialect) (standard : String) (arguments : List TypeArgument) : String :=
  let inner := argumentsText d (if dropsArguments d standard then [] else arguments)
  if d.likePostgres && standard == "ENUM" then
    "ENUM (" ++ ", ".intercalate (arguments.map (argumentText d)) ++ ")"
  else
    let isWide := match arguments with
      | .number n :: _ => n.toNat?.any (· > 32)
      | _ => false
    let base := if d.likeHive && standard == "FLOAT" && isWide then "DOUBLE"
      else nameBefore d standard (!inner.isEmpty)
    let unsignedTail := " UNSIGNED"
    let (base, tail) :=
      if base.endsWith unsignedTail then
        ((base.dropEnd unsignedTail.length).toString, unsignedTail)
      else (base, "")
    base ++ inner ++ tail ++ (if saysZone d standard then " WITH TIME ZONE" else "")

/-- The brackets around the parts of a type made of other types. -/
def nestedBrackets (d : Dialect) : String × String :=
  match d with
  | .presto | .trino | .duckdb | .clickhouse | .snowflake => ("(", ")")
  | _ => ("<", ">")

def nestedName (d : Dialect) (standard : String) : String :=
  match d, standard with
  | .presto, "STRUCT" | .trino, "STRUCT" => "ROW"
  | .snowflake, "STRUCT" => "OBJECT"
  | .clickhouse, "STRUCT" => "Tuple"
  | .clickhouse, "MAP" => "Map"
  | .clickhouse, "ARRAY" => "Array"
  | .clickhouse, "NULLABLE" => "Nullable"
  | .clickhouse, "LOWCARDINALITY" => "LowCardinality"
  | .clickhouse, "NESTED" => "Nested"
  | .clickhouse, "AGGREGATEFUNCTION" => "AggregateFunction"
  | .clickhouse, "SIMPLEAGGREGATEFUNCTION" => "SimpleAggregateFunction"
  | _, s => s

mutual

def render (d : Dialect) : DataType → String
  | .simple standard arguments => simpleText d standard arguments
  | .array element size =>
    if d == .postgres || d == .redshift || d == .duckdb then
      render d element ++ "[" ++ size.getD "" ++ "]"
    else
      let (opening, closing) := nestedBrackets d
      nestedName d "ARRAY" ++ opening ++ render d element ++ closing
  | .nested standard parts =>
    let (opening, closing) := nestedBrackets d
    nestedName d standard ++ opening ++ ", ".intercalate (renderParts d parts) ++ closing
  | .interval unit arguments =>
    "INTERVAL" ++ (unit.map (" " ++ ·)).getD ""
      ++ (if arguments.isEmpty then ""
          else " " ++ ", ".intercalate (arguments.map (argumentText d)))
  | .named path arguments => Name.renderPath d path ++ argumentsText d arguments
  | .characterSet name => "CHAR CHARACTER SET " ++ name
  | .required t => render d t ++ " NOT NULL"

def renderParts (d : Dialect) : List (Option Name × DataType) → List String
  | [] => []
  | (n, t) :: r =>
    let sep := if d.likeHive then ": " else " "
    ((n.map fun n => n.render d ++ sep).getD "" ++ render d t) :: renderParts d r

end

/-- Types of texts and of whole numbers, as a cast in mysql knows them. -/
def mysqlCastName? : String → Option String
  | "VARCHAR" | "TEXT" | "LONGTEXT" | "MEDIUMTEXT" | "TINYTEXT" | "LONGBLOB" | "MEDIUMBLOB"
  | "TINYBLOB" => some "CHAR"
  | "BIGINT" | "BOOLEAN" | "INT" | "SMALLINT" | "TINYINT" | "MEDIUMINT" => some "SIGNED"
  | "UBIGINT" => some "UNSIGNED"
  | _ => none

/-- The word for a cast. A safe one gives a null where a value has no form in the type. -/
def castWord (d : Dialect) (safe : Bool) : String :=
  if !safe then "CAST"
  else match d with
    | .bigquery => "SAFE_CAST"
    | .ansi | .databricks | .duckdb | .presto | .snowflake | .spark | .trino | .tsql => "TRY_CAST"
    | _ => "CAST"

/-- The type as the target of a cast; some dialects allow fewer types there. -/
def renderCast (d : Dialect) (t : DataType) : String :=
  match t with
  | .simple standard arguments =>
    match d with
    | .mysql =>
      match mysqlCastName? standard with
      | some s => s ++ argumentsText d arguments
      | none => render d t
    | .bigquery => simpleText d standard []
    | _ => render d t
  | _ => render d t

end QueryFlow.Sql.DataType
