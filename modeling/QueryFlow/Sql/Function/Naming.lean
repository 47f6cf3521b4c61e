import QueryFlow.Sql.Function
import QueryFlow.Text.Case

/-!
The names by which each dialect writes the known functions.
-/

namespace QueryFlow.Sql.Function

def postgresNames : List (String × String) :=
  [("BITWISE_AND_AGG", "BIT_AND"), ("BITWISE_OR_AGG", "BIT_OR"), ("BITWISE_XOR_AGG", "BIT_XOR"),
   ("CURRENT_VERSION", "VERSION"), ("EXPLODE", "UNNEST"),
   ("EXPLODING_GENERATE_SERIES", "GENERATE_SERIES"), ("GETBIT", "GET_BIT"),
   ("JSON_ARRAYAGG", "JSON_AGG"), ("JSON_EXTRACT", "JSON_EXTRACT_PATH"),
   ("JSON_EXTRACT_SCALAR", "JSON_EXTRACT_PATH_TEXT"), ("JSON_OBJECTAGG", "JSON_OBJECT_AGG"),
   ("LOGICAL_AND", "BOOL_AND"), ("LOGICAL_OR", "BOOL_OR"), ("RAND", "RANDOM"),
   ("ARRAY_SIZE", "ARRAY_LENGTH"), ("TIME_FROM_PARTS", "MAKE_TIME"),
   ("TIMESTAMP_FROM_PARTS", "MAKE_TIMESTAMP"), ("UNICODE", "ASCII"), ("VARIANCE", "VAR_SAMP"),
   ("VARIANCE_POP", "VAR_POP")]

def hiveNames : List (String × String) :=
  [("ANY_VALUE", "FIRST"), ("APPROX_DISTINCT", "APPROX_COUNT_DISTINCT"),
   ("APPROX_QUANTILE", "PERCENTILE_APPROX"), ("ARG_MAX", "MAX_BY"), ("ARG_MIN", "MIN_BY"),
   ("ARRAY_AGG", "COLLECT_LIST"), ("ARRAY_CONCAT", "CONCAT"), ("ARRAY_SIZE", "SIZE"),
   ("ARRAY_SORT", "SORT_ARRAY"), ("ARRAY_UNIQUE_AGG", "COLLECT_SET"),
   ("DAY_OF_MONTH", "DAYOFMONTH"), ("DAY_OF_WEEK", "DAYOFWEEK"), ("DAY_OF_YEAR", "DAYOFYEAR"),
   ("FROM_BASE64", "UNBASE64"), ("GENERATE_SERIES", "SEQUENCE"), ("IS_NAN", "ISNAN"),
   ("JSON_FORMAT", "TO_JSON"), ("NUMBER_TO_STR", "FORMAT_NUMBER"), ("QUANTILE", "PERCENTILE"),
   ("REGEXP_SPLIT", "SPLIT"), ("STAR_MAP", "MAP"), ("STR_TO_UNIX", "UNIX_TIMESTAMP"),
   ("TIME_STR_TO_DATE", "TO_DATE"), ("TIME_STR_TO_UNIX", "UNIX_TIMESTAMP"),
   ("TIME_TO_UNIX", "UNIX_TIMESTAMP"), ("TO_BASE64", "BASE64"), ("UNICODE", "ASCII"),
   ("UNIX_TO_STR", "FROM_UNIXTIME"), ("UNIX_TO_TIME", "FROM_UNIXTIME"),
   ("UNIX_TO_TIME_STR", "FROM_UNIXTIME"), ("VARIANCE_POP", "VAR_POP"),
   ("WEEK_OF_YEAR", "WEEKOFYEAR")]

def sparkNames : List (String × String) :=
  [("ANY_VALUE", "ANY_VALUE"), ("ARRAY_SLICE", "SLICE"), ("FORMAT", "FORMAT_STRING"),
   ("MAP", "MAP_FROM_ARRAYS"), ("ARRAY_SORT", "ARRAY_SORT"), ("ARRAY_TO_STRING", "ARRAY_JOIN"),
   ("BITWISE_AND_AGG", "BIT_AND"), ("BITWISE_COUNT", "BIT_COUNT"), ("BITWISE_OR_AGG", "BIT_OR"),
   ("BITWISE_XOR_AGG", "BIT_XOR"), ("DATE_FROM_PARTS", "MAKE_DATE"), ("ENDS_WITH", "ENDSWITH"),
   ("JSON_KEYS", "JSON_OBJECT_KEYS"), ("LOGICAL_AND", "BOOL_AND"), ("LOGICAL_OR", "BOOL_OR"),
   ("REDUCE", "AGGREGATE"), ("SAFE_ADD", "TRY_ADD"), ("SAFE_DIVIDE", "TRY_DIVIDE"),
   ("SAFE_MULTIPLY", "TRY_MULTIPLY"),
   ("SAFE_SUBTRACT", "TRY_SUBTRACT"), ("STARTS_WITH", "STARTSWITH")] ++ hiveNames

def prestoNames : List (String × String) :=
  [("ANY_VALUE", "ARBITRARY"), ("APPROX_QUANTILE", "APPROX_PERCENTILE"), ("ARG_MAX", "MAX_BY"),
   ("ARG_MIN", "MIN_BY"), ("ARRAY_ANY", "ANY_MATCH"), ("ARRAY_CONCAT", "CONCAT"),
   ("ARRAY_CONTAINS", "CONTAINS"), ("ARRAY_SIZE", "CARDINALITY"), ("ARRAY_SLICE", "SLICE"),
   ("ARRAY_TO_STRING", "ARRAY_JOIN"), ("ARRAY_UNIQUE_AGG", "SET_AGG"),
   ("DAYOFWEEK_ISO", "DAY_OF_WEEK"), ("GENERATE_SERIES", "SEQUENCE"), ("HEX", "TO_HEX"),
   ("LAST_DAY", "LAST_DAY_OF_MONTH"), ("LEVENSHTEIN", "LEVENSHTEIN_DISTANCE"),
   ("LOGICAL_AND", "BOOL_AND"), ("LOGICAL_OR", "BOOL_OR"), ("MD5_DIGEST", "MD5"),
   ("QUANTILE", "APPROX_PERCENTILE"), ("SHA", "SHA1"), ("SHA1_DIGEST", "SHA1"),
   ("SORT_ARRAY", "ARRAY_SORT"), ("STR_TO_MAP", "SPLIT_TO_MAP"), ("TIME_TO_UNIX", "TO_UNIXTIME"),
   ("TRUNC", "TRUNCATE"), ("UNHEX", "FROM_HEX"), ("UNIX_TO_TIME", "FROM_UNIXTIME"),
   ("VARIANCE_POP", "VAR_POP")]

def mysqlNames : List (String × String) :=
  [("BITWISE_AND_AGG", "BIT_AND"), ("BITWISE_COUNT", "BIT_COUNT"), ("BITWISE_OR_AGG", "BIT_OR"),
   ("BITWISE_XOR_AGG", "BIT_XOR"), ("CHR", "CHAR"), ("CURRENT_VERSION", "VERSION"),
   ("DAY_OF_MONTH", "DAYOFMONTH"), ("DAY_OF_WEEK", "DAYOFWEEK"), ("DAY_OF_YEAR", "DAYOFYEAR"),
   ("LENGTH", "CHAR_LENGTH"), ("LOGICAL_AND", "MIN"), ("LOGICAL_OR", "MAX"),
   ("NUMBER_TO_STR", "FORMAT"), ("STR_TO_TIME", "STR_TO_DATE"), ("STUFF", "INSERT"),
   ("TIME_FROM_PARTS", "MAKETIME"), ("TIME_STR_TO_UNIX", "UNIX_TIMESTAMP"),
   ("TIME_TO_STR", "DATE_FORMAT"), ("TRUNC", "TRUNCATE"), ("UNIX_TO_TIME", "FROM_UNIXTIME"),
   ("VARIANCE", "VAR_SAMP"), ("VARIANCE_POP", "VAR_POP"), ("WEEK_OF_YEAR", "WEEKOFYEAR")]

/-- The name that a dialect has for a known function, where it differs. -/
def ownNames : Dialect → List (String × String)
  | .ansi => []
  | .postgres =>
    ("ARRAY_CONCAT", "ARRAY_CAT") :: postgresNames
  | .redshift =>
    [("FARM_FINGERPRINT", "FARMFINGERPRINT64"), ("FROM_BASE", "STRTOL"),
     ("JSON_EXTRACT", "JSON_EXTRACT_PATH_TEXT"), ("REGEXP_EXTRACT", "REGEXP_SUBSTR"),
     ("STRING_TO_ARRAY", "SPLIT_TO_ARRAY")]
      ++ postgresNames ++ [("HEX", "TO_HEX")]
  | .bigquery =>
    [("APPROX_DISTINCT", "APPROX_COUNT_DISTINCT"), ("APPROX_TOP_K", "APPROX_TOP_COUNT"),
     ("ARRAY_SIZE", "ARRAY_LENGTH"), ("ARG_MAX", "MAX_BY"), ("ARG_MIN", "MIN_BY"),
     ("BITWISE_AND_AGG", "BIT_AND"), ("BITWISE_COUNT", "BIT_COUNT"), ("BITWISE_OR_AGG", "BIT_OR"),
     ("BITWISE_XOR_AGG", "BIT_XOR"), ("BYTE_LENGTH", "BYTE_LENGTH"), ("COUNT_IF", "COUNTIF"),
     ("DATE_FROM_PARTS", "DATE"), ("DATE_FROM_UNIX_DATE", "DATE_FROM_UNIX_DATE"),
     ("GENERATE_SERIES", "GENERATE_ARRAY"), ("HEX", "TO_HEX"), ("INT64", "INT64"),
     ("JSON_BOOL", "BOOL"), ("JSON_KEYS_AT_DEPTH", "JSON_KEYS"), ("LEVENSHTEIN", "EDIT_DISTANCE"),
     ("MAX", "MAX"), ("MIN", "MIN"), ("RAND", "RAND"), ("REGEXP_EXTRACT", "REGEXP_EXTRACT"),
     ("REGEXP_EXTRACT_ALL", "REGEXP_EXTRACT_ALL"), ("REGEXP_LIKE", "REGEXP_CONTAINS"),
     ("SAFE_DIVIDE", "SAFE_DIVIDE"), ("SHA", "SHA1"), ("SHA1_DIGEST", "SHA1"), ("STRING", "STRING"),
     ("TIME_FROM_PARTS", "TIME"), ("TIMESTAMP_FROM_PARTS", "DATETIME"),
     ("TIMESTAMPDIFF", "TIMESTAMP_DIFF"), ("TS_OR_DS_TO_DATETIME", "DATETIME"),
     ("TS_OR_DS_TO_TIME", "TIME"), ("TS_OR_DS_TO_TIMESTAMP", "TIMESTAMP"), ("UNHEX", "FROM_HEX"),
     ("UNIX_DATE", "UNIX_DATE"), ("UUID", "GENERATE_UUID"), ("VARIANCE_POP", "VAR_POP")]
  | .clickhouse =>
    [("ANY_VALUE", "any"), ("APPROX_DISTINCT", "uniq"), ("ARG_MAX", "argMax"),
     ("ARG_MIN", "argMin"), ("ARRAY_COMPACT", "arrayCompact"), ("ARRAY_CONCAT", "arrayConcat"),
     ("ARRAY_CONTAINS", "has"), ("ARRAY_DISTINCT", "arrayDistinct"), ("ARRAY_MAX", "arrayMax"),
     ("ARRAY_MIN", "arrayMin"), ("ARRAY_REVERSE", "arrayReverse"), ("ARRAY_SIZE", "LENGTH"),
     ("ARRAY_SLICE", "arraySlice"), ("ARRAY_SUM", "arraySum"), ("CHR", "CHAR"),
     ("COSINE_DISTANCE", "cosineDistance"), ("COUNT_IF", "countIf"),
     ("CURRENT_DATABASE", "CURRENT_DATABASE"), ("CURRENT_SCHEMAS", "CURRENT_SCHEMAS"),
     ("CURRENT_VERSION", "VERSION"), ("DATE_STR_TO_DATE", "toDate"), ("DATE_TRUNC", "dateTrunc"),
     ("ENDS_WITH", "endsWith"), ("EUCLIDEAN_DISTANCE", "L2Distance"), ("EXPLODE", "arrayJoin"),
     ("FARM_FINGERPRINT", "farmFingerprint64"), ("IS_NAN", "isNaN"),
     ("JAROWINKLER_SIMILARITY", "jaroWinklerSimilarity"), ("LAG", "lagInFrame"),
     ("LEAD", "leadInFrame"), ("LEVENSHTEIN", "editDistance"), ("MEDIAN", "median"),
     ("NULLIF", "nullIf"), ("PARSE_DATETIME", "parseDateTime"), ("RAND", "randCanonical"),
     ("REGEXP_LIKE", "match"), ("SHA", "SHA1"), ("SHA1_DIGEST", "SHA1"),
     ("STARTS_WITH", "startsWith"), ("STDDEV", "stddevSamp"), ("STRUCT", "tuple"),
     ("TRUNC", "trunc"), ("TYPEOF", "toTypeName"), ("VARIANCE", "varSamp"), ("XOR", "xor")]
  | .databricks | .spark => sparkNames
  | .hive => hiveNames
  | .duckdb =>
    [("APPROX_DISTINCT", "APPROX_COUNT_DISTINCT"), ("ARRAY_CONCAT", "LIST_CONCAT"),
     ("ARRAY_MAX", "LIST_MAX"), ("ARRAY_MIN", "LIST_MIN"), ("ARRAY_SIZE", "ARRAY_LENGTH"),
     ("ARRAY_SORT", "LIST_SORT"), ("ARRAY_SUM", "LIST_SUM"), ("BITWISE_AND_AGG", "BIT_AND"),
     ("BITWISE_COUNT", "BIT_COUNT"), ("BITWISE_OR_AGG", "BIT_OR"), ("BITWISE_XOR_AGG", "BIT_XOR"),
     ("COSINE_DISTANCE", "LIST_COSINE_DISTANCE"), ("CURRENT_VERSION", "VERSION"),
     ("ARRAY_APPEND", "LIST_APPEND"), ("ARRAY_DISTINCT", "LIST_DISTINCT"),
     ("BYTE_LENGTH", "OCTET_LENGTH"), ("DATE_BIN", "TIME_BUCKET"),
     ("DATE_FROM_PARTS", "MAKE_DATE"), ("DAY_OF_MONTH", "DAYOFMONTH"),
     ("DAY_OF_WEEK", "DAYOFWEEK"), ("DAY_OF_YEAR", "DAYOFYEAR"), ("DAYOFWEEK_ISO", "ISODOW"),
     ("EUCLIDEAN_DISTANCE", "LIST_DISTANCE"), ("EXPLODE", "UNNEST"), ("FILTER", "LIST_FILTER"),
     ("IS_INF", "ISINF"), ("IS_NAN", "ISNAN"),
     ("JAROWINKLER_SIMILARITY", "JARO_WINKLER_SIMILARITY"), ("JSON_OBJECTAGG", "JSON_GROUP_OBJECT"),
     ("MAP_SIZE", "CARDINALITY"), ("MD5_NUMBER_LOWER64", "MD5_NUMBER_LOWER"),
     ("MD5_NUMBER_UPPER64", "MD5_NUMBER_UPPER"),
     ("JSONB_EXISTS", "JSON_EXISTS"),
     ("LOGICAL_AND", "BOOL_AND"), ("LOGICAL_OR", "BOOL_OR"), ("PERCENTILE_CONT", "QUANTILE_CONT"),
     ("PERCENTILE_DISC", "QUANTILE_DISC"), ("RAND", "RANDOM"), ("REGEXP_LIKE", "REGEXP_MATCHES"),
     ("REGEXP_SPLIT", "STR_SPLIT_REGEX"), ("SHA", "SHA1"), ("SORT_ARRAY", "LIST_SORT"),
     ("SPLIT", "STR_SPLIT"), ("TIME_FROM_PARTS", "MAKE_TIME"),
     ("TIME_TO_UNIX", "EPOCH"), ("TIMESTAMP_FROM_PARTS", "MAKE_TIMESTAMP"),
     ("TRANSFORM", "LIST_TRANSFORM"), ("UNIX_MICROS", "EPOCH_US"), ("UNIX_MILLIS", "EPOCH_MS"),
     ("UNIX_SECONDS", "EPOCH"), ("UNIX_TO_TIME", "TO_TIMESTAMP"), ("VARIANCE_POP", "VAR_POP"),
     ("WEEK_OF_YEAR", "WEEKOFYEAR")]
  | .mysql => ("ARRAY_AGG", "GROUP_CONCAT") :: mysqlNames
  | .starrocks =>
    [("APPROX_DISTINCT", "APPROX_COUNT_DISTINCT"), ("ARRAY_TO_STRING", "ARRAY_JOIN"),
     ("CURRENT_VERSION", "CURRENT_VERSION"), ("FILTER", "ARRAY_FILTER"),
     ("FLATTEN", "ARRAY_FLATTEN"), ("REGEXP_LIKE", "REGEXP"), ("STR_TO_UNIX", "UNIX_TIMESTAMP"),
     ("TIME_STR_TO_DATE", "TO_DATE"), ("UNIX_TO_STR", "FROM_UNIXTIME")] ++ mysqlNames
  | .oracle =>
    [("LOGICAL_AND", "MIN"), ("LOGICAL_OR", "MAX"), ("RAND", "DBMS_RANDOM.VALUE"),
     ("STR_TO_DATE", "TO_DATE"), ("STR_TO_TIME", "TO_TIMESTAMP"), ("TIME_TO_STR", "TO_CHAR")]
  | .presto => prestoNames
  | .trino => ("CURRENT_VERSION", "VERSION") :: prestoNames
  | .snowflake =>
    [("APPROX_DISTINCT", "APPROX_COUNT_DISTINCT"), ("ARG_MAX", "MAX_BY"), ("ARG_MIN", "MIN_BY"),
     ("LOCALTIME", "CURRENT_TIME"), ("LOCALTIMESTAMP", "CURRENT_TIMESTAMP"),
     ("MAP", "OBJECT_CONSTRUCT"), ("ARRAY_CONCAT", "ARRAY_CAT"),
     ("ARRAY_INTERSECT", "ARRAY_INTERSECTION"), ("ARRAY_OVERLAPS", "ARRAYS_OVERLAP"),
     ("BITWISE_AND_AGG", "BITANDAGG"), ("BITWISE_COUNT", "BITCOUNT"),
     ("BITWISE_OR_AGG", "BITORAGG"), ("BITWISE_XOR_AGG", "BITXORAGG"),
     ("BYTE_LENGTH", "OCTET_LENGTH"), ("COSINE_DISTANCE", "VECTOR_COSINE_SIMILARITY"),
     ("DAY_OF_MONTH", "DAYOFMONTH"), ("DAY_OF_WEEK", "DAYOFWEEK"), ("DAY_OF_YEAR", "DAYOFYEAR"),
     ("DAYOFWEEK_ISO", "DAYOFWEEKISO"), ("DOT_PRODUCT", "VECTOR_INNER_PRODUCT"),
     ("ENDS_WITH", "ENDSWITH"), ("EUCLIDEAN_DISTANCE", "VECTOR_L2_DISTANCE"),
     ("EXPLODE", "FLATTEN"), ("GET_EXTRACT", "GET"), ("GETBIT", "GETBIT"),
     ("JSON_FORMAT", "TO_JSON"), ("JSON_KEYS", "OBJECT_KEYS"),
     ("JSON_OBJECT", "OBJECT_CONSTRUCT_KEEP_NULL"), ("LEVENSHTEIN", "EDITDISTANCE"),
     ("LOGICAL_AND", "BOOLAND_AGG"), ("LOGICAL_OR", "BOOLOR_AGG"),
     ("MANHATTAN_DISTANCE", "VECTOR_L1_DISTANCE"), ("MD5_DIGEST", "MD5_BINARY"), ("RAND", "RANDOM"),
     ("REGEXP_EXTRACT", "REGEXP_SUBSTR"), ("REGEXP_EXTRACT_ALL", "REGEXP_SUBSTR_ALL"),
     ("SHA", "SHA1"), ("SHA1_DIGEST", "SHA1_BINARY"), ("SHA2_DIGEST", "SHA2_BINARY"),
     ("SKEWNESS", "SKEW"), ("SORT_ARRAY", "ARRAY_SORT"), ("ST_POINT", "ST_MAKEPOINT"),
     ("STARTS_WITH", "STARTSWITH"), ("STRING_TO_ARRAY", "STRTOK_TO_ARRAY"), ("STUFF", "INSERT"),
     ("UNHEX", "HEX_DECODE_BINARY"), ("UNIX_TO_TIME", "TO_TIMESTAMP"), ("UUID", "UUID_STRING"),
     ("STDDEV_SAMP", "STDDEV"), ("WEEK_OF_YEAR", "WEEKISO"), ("XOR", "BOOLXOR"),
     ("YEAR_OF_WEEK", "YEAROFWEEK"), ("YEAR_OF_WEEK_ISO", "YEAROFWEEKISO")]
  | .sqlite =>
    [("ANY_VALUE", "MAX"), ("CHR", "CHAR"), ("CURRENT_VERSION", "SQLITE_VERSION"), ("IF", "IIF"),
     ("LEVENSHTEIN", "EDITDIST3"),
     ("LOGICAL_AND", "MIN"), ("LOGICAL_OR", "MAX"), ("RAND", "RANDOM")]
  | .tsql =>
    [("ANY_VALUE", "MAX"), ("ARRAY_TO_STRING", "STRING_AGG"), ("ATAN2", "ATN2"),
     ("CEIL", "CEILING"), ("CHR", "CHAR"), ("CURRENT_SCHEMA", "SCHEMA_NAME"),
     ("DATE_FROM_PARTS", "DATEFROMPARTS"), ("LENGTH", "LEN"), ("LN", "LOG"),
     ("REPEAT", "REPLICATE"), ("STDDEV", "STDEV"), ("TIME_FROM_PARTS", "TIMEFROMPARTS"),
     ("TIMESTAMP_FROM_PARTS", "DATETIMEFROMPARTS"), ("UUID", "NEWID"), ("VARIANCE", "VAR"),
     ("VARIANCE_POP", "VARP")]

/-- The least and the greatest of several values have the names of aggregates in these dialects. -/
def keepsAggregateName : Dialect → Bool
  | .ansi | .sqlite | .clickhouse | .oracle | .presto | .trino => true
  | _ => false

/-- Known functions whose name is not kept as written, even where names are. -/
def isSettled (d : Dialect) (standard : String) : Bool :=
  ["CONCAT", "CONCAT_WS", "CURRENT_DATE", "INITCAP", "LOG", "LPAD", "PARSE_JSON", "RPAD"].contains
    standard
  || (d == .bigquery && ["ARRAY_CONCAT", "JSON_ARRAY", "REGEXP_REPLACE"].contains standard)

/-- How a dialect writes the name of a known function, written so and with this many arguments. -/
def spelling (d : Dialect) (standard written : String) (count : Nat) : String :=
  if count > 1 && standard == "MAX" && !keepsAggregateName d then "GREATEST"
  else if count > 1 && standard == "MIN" && !keepsAggregateName d then "LEAST"
  else match (ownNames d).lookup standard with
    | some s => s
    | none =>
      if d == .oracle && standard == "COALESCE" && Text.upper written == "NVL" then "NVL"
      else if d == .tsql && standard == "COUNT"
        && Text.upper written == "COUNT_BIG" then "COUNT_BIG"
      else if d.keepsFunctionCase && !isSettled d standard then written else standard

end QueryFlow.Sql.Function
