import QueryFlow.Sql.Name
import QueryFlow.Text.Case

/-!
Data types and the words that name them in each dialect. Every type has one standard name, so that
`INTEGER` and `INT4` are the same type.
-/

namespace QueryFlow.Sql

inductive TypeArgument where
  | number (digits : String)
  | word (text : String)
  | string (text : String)
  /-- A length with its unit. -/
  | measured (digits unit : String)
  /-- A text with the number that stands for it. -/
  | valued (text digits : String)
  deriving Repr, DecidableEq

inductive DataType where
  /-- A type by its standard name, with a length, a precision or the like. -/
  | simple (standard : String) (arguments : List TypeArgument)
  /-- A list of values of one type. -/
  | array (element : DataType) (size : Option String)
  /-- A type made of other types, some of which may have a name. -/
  | nested (standard : String) (parts : List (Option Name × DataType))
  | interval (unit : Option String) (arguments : List TypeArgument)
  /-- A type that the standard does not know. -/
  | named (path : List Name) (arguments : List TypeArgument)
  /-- Texts in a set of characters. -/
  | characterSet (name : String)
  /-- A type that has no null. -/
  | required (type : DataType)
  deriving Inhabited

namespace DataType

/-- Words for types that all dialects share, with the standard name. -/
def commonWords : List (String × String) :=
  [("BIT", "BIT"), ("BOOL", "BOOLEAN"), ("BOOLEAN", "BOOLEAN"), ("BYTE", "TINYINT"),
   ("MEDIUMINT", "MEDIUMINT"), ("INT1", "TINYINT"), ("TINYINT", "TINYINT"), ("INT16", "SMALLINT"),
   ("SHORT", "SMALLINT"), ("SMALLINT", "SMALLINT"), ("HUGEINT", "INT128"), ("UHUGEINT", "UINT128"),
   ("INT2", "SMALLINT"), ("INTEGER", "INT"), ("INT", "INT"), ("INT4", "INT"), ("INT32", "INT"),
   ("INT64", "BIGINT"), ("INT128", "INT128"), ("INT256", "INT256"), ("LONG", "BIGINT"),
   ("BIGINT", "BIGINT"), ("INT8", "TINYINT"), ("UINT", "UINT"), ("UINT128", "UINT128"),
   ("UINT256", "UINT256"), ("DEC", "DECIMAL"), ("DECIMAL", "DECIMAL"), ("DECFLOAT", "DECFLOAT"),
   ("BIGDECIMAL", "BIGDECIMAL"), ("BIGNUMERIC", "BIGDECIMAL"), ("NUMBER", "DECIMAL"),
   ("NUMERIC", "DECIMAL"), ("FIXED", "DECIMAL"), ("REAL", "FLOAT"), ("FLOAT", "FLOAT"),
   ("FLOAT4", "FLOAT"), ("FLOAT8", "DOUBLE"), ("DOUBLE", "DOUBLE"), ("DOUBLE PRECISION", "DOUBLE"),
   ("JSON", "JSON"), ("JSONB", "JSONB"), ("CHAR", "CHAR"), ("CHARACTER", "CHAR"),
   ("CHAR VARYING", "VARCHAR"), ("CHARACTER VARYING", "VARCHAR"), ("NCHAR", "NCHAR"),
   ("VARCHAR", "VARCHAR"), ("VARCHAR2", "VARCHAR"), ("NVARCHAR", "NVARCHAR"),
   ("NVARCHAR2", "NVARCHAR"), ("BPCHAR", "BPCHAR"), ("STR", "TEXT"), ("STRING", "TEXT"),
   ("TEXT", "TEXT"), ("LONGTEXT", "LONGTEXT"), ("MEDIUMTEXT", "MEDIUMTEXT"),
   ("TINYTEXT", "TINYTEXT"), ("CLOB", "TEXT"), ("LONGVARCHAR", "TEXT"), ("BINARY", "BINARY"),
   ("BLOB", "VARBINARY"), ("LONGBLOB", "LONGBLOB"),
   ("MEDIUMBLOB", "MEDIUMBLOB"), ("TINYBLOB", "TINYBLOB"), ("BYTEA", "VARBINARY"),
   ("VARBINARY", "VARBINARY"), ("TIME", "TIME"), ("TIMETZ", "TIMETZ"), ("TIMESTAMP", "TIMESTAMP"),
   ("TIMESTAMPTZ", "TIMESTAMPTZ"), ("TIMESTAMPLTZ", "TIMESTAMPLTZ"),
   ("TIMESTAMP_LTZ", "TIMESTAMPLTZ"), ("TIMESTAMPNTZ", "TIMESTAMPNTZ"),
   ("TIMESTAMP_NTZ", "TIMESTAMPNTZ"), ("DATE", "DATE"), ("DATETIME", "DATETIME"),
   ("INT4RANGE", "INT4RANGE"), ("INT8RANGE", "INT8RANGE"), ("NUMRANGE", "NUMRANGE"),
   ("TSRANGE", "TSRANGE"), ("TSTZRANGE", "TSTZRANGE"), ("DATERANGE", "DATERANGE"),
   ("UNKNOWN", "UNKNOWN"), ("POINT", "POINT"), ("VARIANT", "VARIANT"), ("OBJECT", "OBJECT"),
   ("UUID", "UUID"), ("INET", "INET"), ("GEOGRAPHY", "GEOGRAPHY"), ("GEOMETRY", "GEOMETRY"),
   ("ENUM", "ENUM"), ("VECTOR", "VECTOR"), ("DECIMAL32", "DECIMAL32"), ("DECIMAL64", "DECIMAL64"),
   ("DECIMAL128", "DECIMAL128"), ("DECIMAL256", "DECIMAL256"), ("BIGNUM", "BIGNUM"),
   ("TIME_NS", "TIME_NS"), ("INT4MULTIRANGE", "INT4MULTIRANGE"),
   ("INT8MULTIRANGE", "INT8MULTIRANGE"), ("NUMMULTIRANGE", "NUMMULTIRANGE"),
   ("TSMULTIRANGE", "TSMULTIRANGE"), ("TSTZMULTIRANGE", "TSTZMULTIRANGE"),
   ("DATEMULTIRANGE", "DATEMULTIRANGE")]

/-- The names of things in the catalogue, which take no arguments and make no lists. -/
def catalogueWords : List String :=
  ["CSTRING", "OID", "REGCLASS", "REGCOLLATION", "REGCONFIG", "REGDICTIONARY", "REGNAMESPACE",
   "REGOPER", "REGOPERATOR", "REGPROC", "REGPROCEDURE", "REGROLE", "REGTYPE"]

/-- Words for types that a dialect adds or reads in its own way. -/
def ownWords (d : Dialect) : List (String × String) :=
  match d with
  | .postgres | .redshift =>
    [("BIGSERIAL", "BIGSERIAL"), ("HSTORE", "HSTORE"), ("INT8", "BIGINT"), ("MONEY", "MONEY"),
     ("NAME", "NAME"), ("SERIAL", "SERIAL"), ("SMALLSERIAL", "SMALLSERIAL"), ("FLOAT", "DOUBLE"),
     ("XML", "XML")]
      ++ catalogueWords.map (fun w => (w, w))
      ++ (if d == .redshift then
            [("HLLSKETCH", "HLLSKETCH"), ("SUPER", "SUPER"), ("VARBYTE", "VARBINARY"),
             ("BINARY VARYING", "VARBINARY")]
          else [])
  | .bigquery =>
    [("DATETIME", "TIMESTAMP"), ("TIMESTAMP", "TIMESTAMPTZ"), ("FLOAT64", "DOUBLE"),
     ("BYTES", "BINARY"), ("BYTEINT", "INT"), ("ANY TYPE", "VARIANT")]
  | .mysql | .starrocks =>
    [("YEAR", "YEAR"), ("SERIAL", "SERIAL"), ("SIGNED", "BIGINT"), ("UNSIGNED", "UBIGINT"),
     ("SIGNED INTEGER", "BIGINT"), ("UNSIGNED INTEGER", "UBIGINT"), ("BLOB", "BLOB"),
     ("TIMESTAMP", "TIMESTAMPTZ"), ("SET", "SET")]
      ++ (if d == .starrocks then [("LARGEINT", "INT128")] else [])
  | .tsql =>
    [("DATETIME2", "DATETIME2"), ("DATETIMEOFFSET", "TIMESTAMPTZ"), ("IMAGE", "IMAGE"),
     ("MONEY", "MONEY"), ("NTEXT", "TEXT"), ("SMALLDATETIME", "SMALLDATETIME"),
     ("SMALLMONEY", "SMALLMONEY"), ("SQL_VARIANT", "VARIANT"), ("TIMESTAMP", "ROWVERSION"),
     ("TINYINT", "UTINYINT"), ("UNIQUEIDENTIFIER", "UUID"), ("XML", "XML"),
     ("ROWVERSION", "ROWVERSION")]
  | .duckdb =>
    [("INT8", "BIGINT"), ("BITSTRING", "BIT"), ("UBIGINT", "UBIGINT"), ("UINTEGER", "UINT"),
     ("USMALLINT", "USMALLINT"), ("UTINYINT", "UTINYINT"), ("SIGNED", "INT"),
     ("LOGICAL", "BOOLEAN"), ("BPCHAR", "TEXT"), ("CHAR", "TEXT"), ("VARCHAR", "TEXT"),
     ("TIMESTAMP_US", "TIMESTAMP")]
  | .clickhouse =>
    [("INT8", "TINYINT"), ("UINT8", "UTINYINT"), ("UINT16", "USMALLINT"), ("UINT32", "UINT"),
     ("UINT64", "UBIGINT"), ("FLOAT32", "FLOAT"), ("FLOAT64", "DOUBLE"),
     ("DATETIME64", "DATETIME64"), ("DATE32", "DATE32"), ("FIXEDSTRING", "FIXEDSTRING"),
     ("IPV4", "IPV4"), ("IPV6", "IPV6"), ("ENUM8", "ENUM8"), ("ENUM16", "ENUM16"),
     ("NOTHING", "NOTHING"), ("DYNAMIC", "DYNAMIC"), ("RING", "RING"), ("LINESTRING", "LINESTRING"),
     ("MULTILINESTRING", "MULTILINESTRING"), ("POLYGON", "POLYGON"),
     ("MULTIPOLYGON", "MULTIPOLYGON")]
  | .snowflake =>
    [("BYTEINT", "INT"), ("FLOAT", "DOUBLE"), ("NCHAR VARYING", "VARCHAR"),
     ("SQL_DOUBLE", "DOUBLE"), ("SQL_VARCHAR", "VARCHAR"), ("TIMESTAMP_TZ", "TIMESTAMPTZ")]
  | .presto | .trino =>
    [("HYPERLOGLOG", "HLLSKETCH"), ("IPADDRESS", "IPADDRESS"), ("IPPREFIX", "IPPREFIX"),
     ("TDIGEST", "TDIGEST")]
  | .databricks => [("VOID", "VOID")]
  | .oracle => [("BINARY_FLOAT", "FLOAT"), ("BINARY_DOUBLE", "DOUBLE")]
  | _ => []

def nestedWords (d : Dialect) : List String :=
  ["ARRAY", "LIST", "MAP", "STRUCT", "NULLABLE", "ROW", "OBJECT", "UNION", "RANGE"]
    ++ (if d == .clickhouse then ["LOWCARDINALITY", "NESTED", "TUPLE", "AGGREGATEFUNCTION",
          "SIMPLEAGGREGATEFUNCTION"]
        else if d == .bigquery then ["RECORD"] else [])

/-- Types made of parts that have names. -/
def isRecord (standard : String) : Bool :=
  ["STRUCT", "OBJECT", "UNION", "NESTED"].contains standard

def ofWord? (d : Dialect) (upper : String) : Option String :=
  match (ownWords d).lookup upper with
  | some t => some t
  | none => commonWords.lookup upper

/-- Standard types that have a variant without negative numbers. -/
def unsigned? : String → Option String
  | "TINYINT" => some "UTINYINT"
  | "SMALLINT" => some "USMALLINT"
  | "MEDIUMINT" => some "UMEDIUMINT"
  | "INT" => some "UINT"
  | "BIGINT" => some "UBIGINT"
  | "DECIMAL" => some "UDECIMAL"
  | "DOUBLE" => some "UDOUBLE"
  | _ => none

end DataType

end QueryFlow.Sql
