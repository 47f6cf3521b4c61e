import QueryFlow.Sql.Dialect

/-!
Names that only some dialects give to the known functions.
-/

namespace QueryFlow.Sql.Function

def postgresAliases : List (String × String) :=
  [("BIT_AND", "BITWISE_AND_AGG"), ("BIT_OR", "BITWISE_OR_AGG"), ("BIT_XOR", "BITWISE_XOR_AGG"),
   ("GET_BIT", "GETBIT"), ("MAKE_TIME", "TIME_FROM_PARTS"),
   ("MAKE_TIMESTAMP", "TIMESTAMP_FROM_PARTS"), ("UNNEST", "EXPLODE"),
   ("VERSION", "CURRENT_VERSION")]

def hiveAliases : List (String × String) :=
  [("BASE64", "TO_BASE64"), ("COLLECT_LIST", "ARRAY_AGG"), ("COLLECT_SET", "ARRAY_UNIQUE_AGG"),
   ("PERCENTILE", "QUANTILE"), ("PERCENTILE_APPROX", "APPROX_QUANTILE"),
   ("SEQUENCE", "GENERATE_SERIES"), ("SIZE", "ARRAY_SIZE"), ("UNBASE64", "FROM_BASE64")]

def sparkAliases : List (String × String) :=
  hiveAliases ++
  [("AGGREGATE", "REDUCE"), ("FORMAT_STRING", "FORMAT"), ("MAP_FROM_ARRAYS", "MAP"),
   ("BIT_AND", "BITWISE_AND_AGG"), ("BIT_COUNT", "BITWISE_COUNT"), ("BIT_OR", "BITWISE_OR_AGG"),
   ("BIT_XOR", "BITWISE_XOR_AGG"), ("LISTAGG", "GROUP_CONCAT"), ("MAKE_DATE", "DATE_FROM_PARTS"),
   ("SLICE", "ARRAY_SLICE"), ("TO_UNIX_TIMESTAMP", "STR_TO_UNIX"),
   ("TRY_ADD", "SAFE_ADD"), ("TRY_DIVIDE", "SAFE_DIVIDE"), ("TRY_MULTIPLY", "SAFE_MULTIPLY"),
   ("TRY_SUBTRACT", "SAFE_SUBTRACT")]

def mysqlAliases : List (String × String) :=
  [("BIT_AND", "BITWISE_AND_AGG"), ("BIT_COUNT", "BITWISE_COUNT"), ("BIT_OR", "BITWISE_OR_AGG"),
   ("BIT_XOR", "BITWISE_XOR_AGG"), ("MAKETIME", "TIME_FROM_PARTS"), ("STD", "STDDEV_POP"),
   ("STDDEV", "STDDEV_POP"), ("VARIANCE", "VARIANCE_POP"), ("VERSION", "CURRENT_VERSION")]

def prestoAliases : List (String × String) :=
  [("APPROX_PERCENTILE", "APPROX_QUANTILE"), ("ARBITRARY", "ANY_VALUE"),
   ("CARDINALITY", "ARRAY_SIZE"), ("CONTAINS", "ARRAY_CONTAINS"), ("DAY_OF_WEEK", "DAYOFWEEK_ISO"),
   ("DOW", "DAYOFWEEK_ISO"), ("DOY", "DAY_OF_YEAR"), ("FROM_HEX", "UNHEX"),
   ("LEVENSHTEIN_DISTANCE", "LEVENSHTEIN"), ("SEQUENCE", "GENERATE_SERIES"),
   ("SET_AGG", "ARRAY_UNIQUE_AGG"), ("SLICE", "ARRAY_SLICE"), ("SPLIT_TO_MAP", "STR_TO_MAP"),
   ("TO_UNIXTIME", "TIME_TO_UNIX"), ("WEEK", "WEEK_OF_YEAR")]

def ownAliases : Dialect → List (String × String)
  | .ansi => []
  | .sqlite => [("SQLITE_VERSION", "CURRENT_VERSION")]
  | .bigquery =>
    [("APPROX_TOP_COUNT", "APPROX_TOP_K"), ("BIT_AND", "BITWISE_AND_AGG"),
     ("BIT_COUNT", "BITWISE_COUNT"), ("BIT_OR", "BITWISE_OR_AGG"), ("BIT_XOR", "BITWISE_XOR_AGG"),
     ("BOOL", "JSON_BOOL"), ("EDIT_DISTANCE", "LEVENSHTEIN"), ("FROM_HEX", "UNHEX"),
     ("GENERATE_ARRAY", "GENERATE_SERIES"), ("OCTET_LENGTH", "BYTE_LENGTH"),
     ("REGEXP_CONTAINS", "REGEXP_LIKE"), ("REGEXP_SUBSTR", "REGEXP_EXTRACT")]
  | .clickhouse =>
    [("ANY", "ANY_VALUE"), ("ARRAYCOMPACT", "ARRAY_COMPACT"), ("ARRAYCONCAT", "ARRAY_CONCAT"),
     ("ARRAYDISTINCT", "ARRAY_DISTINCT"), ("ARRAYMAX", "ARRAY_MAX"), ("ARRAYMIN", "ARRAY_MIN"),
     ("ARRAYREVERSE", "ARRAY_REVERSE"), ("ARRAYSLICE", "ARRAY_SLICE"), ("ARRAYSUM", "ARRAY_SUM"),
     ("COSINEDISTANCE", "COSINE_DISTANCE"),
     ("CURRENTDATABASE", "CURRENT_DATABASE"), ("CURRENTSCHEMAS", "CURRENT_SCHEMAS"),
     ("EDITDISTANCE", "LEVENSHTEIN"),
     ("HAS", "ARRAY_CONTAINS"), ("JAROWINKLERSIMILARITY", "JAROWINKLER_SIMILARITY"),
     ("L2DISTANCE", "EUCLIDEAN_DISTANCE"), ("LEVENSHTEINDISTANCE", "LEVENSHTEIN"),
     ("MATCH", "REGEXP_LIKE"), ("PARSEDATETIME", "PARSE_DATETIME"), ("RANDCANONICAL", "RAND"),
     ("TOTYPENAME", "TYPEOF"), ("TUPLE", "STRUCT"), ("UNIQ", "APPROX_DISTINCT"),
     ("UTCTIMESTAMP", "UTC_TIMESTAMP"), ("VERSION", "CURRENT_VERSION")]
  | .databricks => sparkAliases
  | .duckdb =>
    [("EDITDIST3", "LEVENSHTEIN"), ("EPOCH", "TIME_TO_UNIX"), ("EPOCH_US", "UNIX_MICROS"),
     ("FROM_HEX", "UNHEX"), ("ISODOW", "DAYOFWEEK_ISO"), ("JSON_EXTRACT_PATH", "JSON_EXTRACT"),
     ("JSON_EXTRACT_STRING", "JSON_EXTRACT_SCALAR"), ("LIST_CAT", "ARRAY_CONCAT"),
     ("LIST_CONCAT", "ARRAY_CONCAT"), ("LIST_APPEND", "ARRAY_APPEND"),
     ("LIST_CONTAINS", "ARRAY_CONTAINS"), ("LIST_DISTINCT", "ARRAY_DISTINCT"),
     ("OCTET_LENGTH", "BYTE_LENGTH"), ("LIST_HAS_ALL", "ARRAY_CONTAINS_ALL"),
     ("LIST_HAS_ANY", "ARRAY_OVERLAPS"), ("LIST_FILTER", "FILTER"), ("LIST_HAS", "ARRAY_CONTAINS"),
     ("LIST_MAX", "ARRAY_MAX"), ("LIST_MIN", "ARRAY_MIN"), ("LIST_SUM", "ARRAY_SUM"),
     ("LIST_TRANSFORM", "TRANSFORM"), ("LISTAGG", "GROUP_CONCAT"), ("MAKE_DATE", "DATE_FROM_PARTS"),
     ("MAKE_TIME", "TIME_FROM_PARTS"), ("MAKE_TIMESTAMP", "TIMESTAMP_FROM_PARTS"),
     ("QUANTILE_CONT", "PERCENTILE_CONT"), ("QUANTILE_DISC", "PERCENTILE_DISC"),
     ("REGEXP_MATCHES", "REGEXP_LIKE"), ("STR_SPLIT", "SPLIT"), ("STR_SPLIT_REGEX", "REGEXP_SPLIT"),
     ("STRUCT_PACK", "STRUCT"), ("STRING_SPLIT", "SPLIT"), ("STRING_SPLIT_REGEX", "REGEXP_SPLIT"),
     ("STRING_TO_ARRAY", "SPLIT"), ("UNNEST", "EXPLODE"), ("VERSION", "CURRENT_VERSION")]
  | .hive => hiveAliases
  | .mysql | .starrocks => mysqlAliases
  | .oracle => [("CONVERT", "CONVERT_TO_CHARSET"), ("LISTAGG", "GROUP_CONCAT")]
  | .postgres => postgresAliases
  | .presto => prestoAliases
  | .redshift =>
    postgresAliases ++
    [("FARMFINGERPRINT64", "FARM_FINGERPRINT"), ("TEXTLEN", "LENGTH"),
     ("LISTAGG", "GROUP_CONCAT"), ("REGEXP_SUBSTR", "REGEXP_EXTRACT"),
     ("SPLIT_TO_ARRAY", "STRING_TO_ARRAY"), ("STRTOL", "FROM_BASE")]
  | .snowflake =>
    [("APPROX_PERCENTILE", "APPROX_QUANTILE"), ("ARRAY_SORT", "SORT_ARRAY"),
     ("ARRAYS_OVERLAP", "ARRAY_OVERLAPS"), ("BIT_ANDAGG", "BITWISE_AND_AGG"),
     ("BIT_AND_AGG", "BITWISE_AND_AGG"), ("BITANDAGG", "BITWISE_AND_AGG"),
     ("BITAND_AGG", "BITWISE_AND_AGG"), ("BIT_ORAGG", "BITWISE_OR_AGG"),
     ("BIT_OR_AGG", "BITWISE_OR_AGG"), ("BITORAGG", "BITWISE_OR_AGG"),
     ("BITOR_AGG", "BITWISE_OR_AGG"), ("BIT_XORAGG", "BITWISE_XOR_AGG"),
     ("BIT_XOR_AGG", "BITWISE_XOR_AGG"), ("BITXORAGG", "BITWISE_XOR_AGG"),
     ("BITXOR_AGG", "BITWISE_XOR_AGG"), ("BOOLXOR", "XOR"), ("DAYOFWEEKISO", "DAYOFWEEK_ISO"),
     ("EDITDISTANCE", "LEVENSHTEIN"), ("HEX_DECODE_BINARY", "UNHEX"), ("IFF", "IF"),
     ("LISTAGG", "GROUP_CONCAT"), ("MD5_HEX", "MD5"), ("MD5_BINARY", "MD5_DIGEST"),
     ("OCTET_LENGTH", "BYTE_LENGTH"), ("REGEXP_SUBSTR", "REGEXP_EXTRACT"),
     ("REGEXP_SUBSTR_ALL", "REGEXP_EXTRACT_ALL"), ("RLIKE", "REGEXP_LIKE"), ("SHA1_HEX", "SHA"),
     ("SHA1_BINARY", "SHA1_DIGEST"), ("SHA2_HEX", "SHA2"), ("SHA2_BINARY", "SHA2_DIGEST"),
     ("SKEW", "SKEWNESS"), ("TO_DECIMAL", "TO_NUMBER"), ("TO_NUMERIC", "TO_NUMBER"),
     ("TO_VARCHAR", "TO_CHAR"), ("VECTOR_L2_DISTANCE", "EUCLIDEAN_DISTANCE"),
     ("VECTOR_L1_DISTANCE", "MANHATTAN_DISTANCE"), ("VECTOR_INNER_PRODUCT", "DOT_PRODUCT"),
     ("VECTOR_COSINE_SIMILARITY", "COSINE_DISTANCE"), ("WEEKISO", "WEEK_OF_YEAR"),
     ("WEEKOFYEAR", "WEEK"), ("TIMESTAMP_NTZ_FROM_PARTS", "TIMESTAMP_FROM_PARTS"),
     ("TIMESTAMPNTZFROMPARTS", "TIMESTAMP_FROM_PARTS")]
  | .spark => sparkAliases
  | .trino => prestoAliases ++ [("LISTAGG", "GROUP_CONCAT"), ("VERSION", "CURRENT_VERSION")]
  | .tsql =>
    [("ATN2", "ATAN2"), ("COUNT_BIG", "COUNT"), ("NEWID", "UUID"), ("REPLICATE", "REPEAT"),
     ("DATETIMEFROMPARTS", "TIMESTAMP_FROM_PARTS")]

/-- The standard name behind a name that only this dialect gives to a function. -/
def ownSpelling? (d : Dialect) (upper : String) : Option String := (ownAliases d).lookup upper

end QueryFlow.Sql.Function
