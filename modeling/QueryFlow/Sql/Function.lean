import QueryFlow.Sql.Dialect
import QueryFlow.Sql.Function.Alias

/-!
The functions that are known by name: their other spellings and how many arguments they take. A
function that is not listed takes any arguments and keeps its name.
-/

namespace QueryFlow.Sql

structure Function where
  name : String
  spellings : List String
  least : Nat
  /-- No value means that there is no largest number of arguments. -/
  most : Option Nat
  deriving Repr, DecidableEq

namespace Function

def known (name : String) (spellings : List String) (least most : Nat) : Function :=
  ⟨name, spellings, least, some most⟩

/-- A function with other spellings and any number of arguments from the least one on. -/
def many (name : String) (spellings : List String) (least : Nat) : Function :=
  ⟨name, spellings, least, none⟩

def numberFunctions : List Function :=
  [known "ABS" [] 1 1, known "ACOS" [] 1 1, known "ACOSH" [] 1 1, known "ASIN" [] 1 1,
   known "ASINH" [] 1 1, known "ATAN" [] 1 2, known "ATAN2" [] 2 2, known "ATANH" [] 1 1,
   known "BITWISE_COUNT" [] 1 1, known "CBRT" [] 1 1, known "CEIL" ["CEILING"] 1 3,
   known "COS" [] 1 1, known "COSH" [] 1 1, known "COT" [] 1 1, known "COTH" [] 1 1,
   known "CSC" [] 1 1, known "CSCH" [] 1 1, known "DEGREES" [] 1 1, known "EXP" [] 1 1,
   known "FACTORIAL" [] 1 1, known "FLOOR" [] 1 3, known "FROM_BASE" [] 2 2,
   known "GETBIT" [] 2 3, known "INT64" [] 1 1, known "FLOAT64" [] 1 2,
   known "IS_INF" ["ISINF"] 1 1, known "IS_NAN" ["ISNAN"] 1 1, known "LN" [] 1 1,
   known "LOG" [] 1 2, many "LOG2" [] 1, many "LOG10" [] 1, many "MOD" [] 2, known "PI" [] 0 0,
   many "POWER" ["POW"] 2, known "RADIANS" [] 1 1, known "RAND" ["RANDOM"] 0 3,
   known "RANDN" [] 0 1, known "RANDSTR" [] 1 2, known "ROUND" [] 1 4, known "SAFE_ADD" [] 2 2,
   known "SAFE_DIVIDE" [] 2 2, known "SAFE_MULTIPLY" [] 2 2, known "SAFE_NEGATE" [] 1 1,
   known "SAFE_SUBTRACT" [] 2 2, known "SEC" [] 1 1, known "SECH" [] 1 1,
   known "SIGN" ["SIGNUM"] 1 1, known "SIN" [] 1 1, known "SINH" [] 1 1, known "SQRT" [] 1 1,
   known "TAN" [] 1 1, known "TANH" [] 1 1, known "TRUNC" ["TRUNCATE"] 1 3, known "UNIFORM" [] 2 4,
   known "WIDTH_BUCKET" [] 2 5, known "ZIPF" [] 3 3, known "RANGE_BUCKET" [] 2 2,
   known "COSINE_DISTANCE" [] 2 2, known "DOT_PRODUCT" [] 2 2, known "EUCLIDEAN_DISTANCE" [] 2 2,
   known "MANHATTAN_DISTANCE" [] 2 2, known "BITMAP_BIT_POSITION" [] 1 1,
   known "BITMAP_BUCKET_NUMBER" [] 1 1, known "BITMAP_COUNT" [] 1 1, known "LAX_FLOAT64" [] 1 1,
   known "LAX_INT64" [] 1 1, known "TO_DECFLOAT" [] 1 2, known "TRY_TO_DECFLOAT" [] 1 2]

def textFunctions : List Function :=
  [known "ASCII" [] 1 1, known "BASE64_DECODE_BINARY" [] 1 2, known "BASE64_DECODE_STRING" [] 1 2,
   known "BASE64_ENCODE" [] 1 3, known "BIT_LENGTH" [] 1 1, known "BYTE_LENGTH" [] 1 1,
   many "CHR" ["CHAR"] 1, many "COLLATE" [] 2, many "CONCAT" [] 0, many "CONCAT_WS" [] 0,
   known "CONTAINS" [] 2 3, known "LEVENSHTEIN" [] 1 6, many "ELT" [] 2,
   known "ENCODE" [] 2 2, known "ENDS_WITH" ["ENDSWITH"] 2 2, many "FORMAT" [] 1,
   known "FROM_BASE64" [] 1 1, many "HEX" [] 1, known "HEX_DECODE_STRING" [] 1 1,
   known "HEX_ENCODE" [] 1 2, many "INITCAP" [] 1, known "JAROWINKLER_SIMILARITY" [] 2 3,
   known "LEFT" [] 2 3, known "LENGTH" ["LEN", "CHAR_LENGTH", "CHARACTER_LENGTH"] 1 3,
   many "LOWER" ["LCASE"] 1, known "LOWER_HEX" [] 1 1, known "LPAD" ["LEFTPAD"] 1 4,
   known "LTRIM" [] 1 4, known "MD5" [] 1 1, many "MD5_DIGEST" [] 1, known "NORMALIZE" [] 1 3,
   known "NUMBER_TO_STR" [] 2 3, known "PARSE_URL" [] 1 4, known "REGEXP_COUNT" [] 2 4,
   known "REGEXP_EXTRACT" [] 2 7, known "REGEXP_EXTRACT_ALL" [] 2 7,
   known "REGEXP_FULL_MATCH" [] 2 3, known "REGEXP_I_LIKE" [] 2 3,
   known "REGEXP_INSTR" [] 2 7, known "REGEXP_LIKE" [] 2 4, known "REGEXP_REPLACE" [] 2 7,
   known "REGEXP_SPLIT" [] 2 3, known "REPEAT" [] 2 2, known "REPLACE" [] 2 3,
   known "REVERSE" [] 1 1, known "RIGHT" [] 2 3, known "RPAD" ["RIGHTPAD"] 1 4,
   known "RTRIM" [] 1 4, known "SHA" ["SHA1"] 1 1, known "SHA2" [] 1 2, known "SOUNDEX" [] 1 1,
   known "SPACE" [] 1 1, known "SPLIT" [] 2 5, known "SPLIT_PART" [] 2 5,
   known "STARTS_WITH" ["STARTSWITH"] 2 2, known "STRPOS" [] 2 5, known "INSTR" [] 2 5,
   many "LOCATE" [] 2, many "CHARINDEX" [] 2, known "STR_POSITION" [] 2 5,
   known "STRING_TO_ARRAY" ["SPLIT_BY_STRING"] 1 3, known "STRTOK" [] 1 3,
   known "STRTOK_TO_ARRAY" [] 1 2, known "SHA1_DIGEST" [] 1 1, known "SHA2_DIGEST" [] 1 2,
   known "STRING" [] 1 2, known "PAD" [] 4 4, known "COMPRESS" [] 1 2,
   known "DECOMPRESS_BINARY" [] 2 2, known "DECOMPRESS_STRING" [] 2 2,
   known "SOUNDEX_P123" [] 1 1, known "RTRIMMED_LENGTH" [] 1 1, known "TO_CODE_POINTS" [] 1 1,
   known "CODE_POINTS_TO_BYTES" [] 1 1, known "CODE_POINTS_TO_STRING" [] 1 1,
   known "TRY_BASE64_DECODE_BINARY" [] 1 2, known "TRY_BASE64_DECODE_STRING" [] 1 2,
   known "TRY_HEX_DECODE_BINARY" [] 1 1, known "TRY_HEX_DECODE_STRING" [] 1 1,
   known "MD5_NUMBER_LOWER64" [] 1 1, known "MD5_NUMBER_UPPER64" [] 1 1,
   many "FARM_FINGERPRINT" ["FARMFINGERPRINT64"] 1, known "SEARCH" [] 2 6,
   known "SAFE_CONVERT_BYTES_TO_STRING" [] 1 1, known "FROM_BASE32" [] 1 1,
   known "TO_BASE32" [] 1 1, known "LAX_STRING" [] 1 1,
   known "STUFF" ["INSERT"] 4 4, known "SUBSTRING" ["SUBSTR"] 1 4, known "SUBSTRING_INDEX" [] 3 3,
   known "TO_BASE64" [] 1 1, known "TO_BINARY" [] 1 3, known "TO_CHAR" [] 1 5, many "TO_HEX" [] 1,
   known "TO_NUMBER" [] 1 7, known "TRANSLATE" [] 3 3, known "UNHEX" [] 1 2,
   known "UNICODE" [] 1 1, many "UPPER" ["UCASE"] 1]

def timeFunctions : List Function :=
  [known "ADD_MONTHS" [] 2 3, known "CONVERT_TIMEZONE" [] 2 4, known "CURRENT_DATE" [] 0 1,
   known "CURRENT_DATETIME" [] 0 1, known "CURRENT_SCHEMA" [] 0 1, known "CURRENT_TIME" [] 0 1,
   known "CURRENT_TIMESTAMP" [] 0 2, known "CURRENT_USER" [] 0 1, many "DATE" [] 0,
   known "DATE_ADD" [] 2 3, known "DATE_BIN" [] 2 5, known "DATE_FROM_PARTS" ["DATEFROMPARTS"] 0 4,
   known "DATE_FROM_UNIX_DATE" [] 1 1, known "DATE_STR_TO_DATE" [] 1 1, known "DATE_SUB" [] 2 3,
   many "DATE_TO_DATE_STR" [] 1, known "DATE_TO_DI" [] 1 1, known "DATE_TRUNC" [] 2 4,
   known "DATEDIFF" ["DATE_DIFF"] 2 6, known "DATETIME" [] 1 2, known "DATETIME_ADD" [] 2 3,
   known "DATETIME_DIFF" [] 2 3, known "DATETIME_SUB" [] 2 3, known "DATETIME_TRUNC" [] 2 3,
   known "DAY" [] 1 1, known "DAY_OF_MONTH" ["DAYOFMONTH"] 1 1,
   known "DAY_OF_WEEK" ["DAYOFWEEK"] 1 1, known "DAYOFWEEK_ISO" ["ISODOW"] 1 1,
   known "DAY_OF_YEAR" ["DAYOFYEAR"] 1 1, known "DAYNAME" [] 1 2, known "DI_TO_DATE" [] 1 1,
   known "FROM_ISO8601_TIMESTAMP" [] 1 1, known "FROM_ISO8601_DATE" [] 1 1,
   known "TIME_SLICE" [] 3 4,
   known "TIMESTAMP_LTZ_FROM_PARTS" ["TIMESTAMPLTZFROMPARTS"] 0 7,
   known "TIMESTAMP_TZ_FROM_PARTS" ["TIMESTAMPTZFROMPARTS"] 0 8, known "GENERATE_DATE_ARRAY" [] 1 3,
   known "GENERATE_TIMESTAMP_ARRAY" [] 2 3, known "HOUR" [] 1 1, known "JUSTIFY_DAYS" [] 1 1,
   known "JUSTIFY_HOURS" [] 1 1, known "JUSTIFY_INTERVAL" [] 1 1,
   known "LAST_DAY" ["LAST_DAY_OF_MONTH"] 1 2, known "LOCALTIME" [] 0 1,
   known "LOCALTIMESTAMP" [] 0 1, known "MAKE_INTERVAL" [] 0 7, known "MINUTE" [] 1 1,
   known "MONTH" [] 1 1, known "MONTHNAME" [] 1 2, known "MONTHS_BETWEEN" [] 2 3,
   known "NEXT_DAY" [] 2 2, known "PARSE_DATETIME" [] 1 3, known "PARSE_TIME" [] 2 2,
   known "PREVIOUS_DAY" [] 2 2, known "QUARTER" [] 1 1, known "SECOND" [] 1 1,
   known "STR_TO_DATE" [] 1 3, known "STR_TO_TIME" [] 2 5, known "STR_TO_UNIX" [] 0 2,
   known "TIME" [] 0 2, known "TIME_ADD" [] 2 3, known "TIME_DIFF" [] 2 3,
   known "TIME_FROM_PARTS" ["TIMEFROMPARTS"] 3 7, known "TIME_STR_TO_DATE" [] 1 1,
   known "TIME_STR_TO_TIME" [] 1 2, known "TIME_STR_TO_UNIX" [] 1 1, known "TIME_SUB" [] 2 3,
   known "TIME_TO_STR" [] 2 4, many "TIME_TO_TIME_STR" [] 1, known "TIME_TO_UNIX" [] 1 1,
   known "TIME_TRUNC" [] 2 3, known "TIMESTAMP" [] 0 4, known "TIMESTAMP_ADD" [] 2 3,
   known "TIMESTAMPDIFF" ["TIMESTAMP_DIFF"] 2 3,
   known "TIMESTAMP_FROM_PARTS" ["TIMESTAMPFROMPARTS"] 0 11, known "TIMESTAMP_SUB" [] 2 3,
   known "TIMESTAMP_TRUNC" [] 2 4, known "TO_DATE" [] 1 5, known "TO_DAYS" [] 1 1,
   known "TO_TIMESTAMP" [] 1 7, known "TS_OR_DI_TO_DI" [] 1 1, known "TS_OR_DS_ADD" [] 2 4,
   known "TS_OR_DS_DIFF" [] 2 3, known "TS_OR_DS_TO_DATE" [] 1 3, many "TS_OR_DS_TO_DATE_STR" [] 1,
   known "TS_OR_DS_TO_TIME" [] 1 3, known "TS_OR_DS_TO_TIMESTAMP" [] 1 1, known "UNIX_DATE" [] 1 1,
   known "UNIX_MICROS" [] 1 1, known "UNIX_MILLIS" [] 1 1, known "UNIX_SECONDS" [] 1 1,
   known "UNIX_TO_STR" [] 1 2, known "UNIX_TO_TIME" [] 1 7, known "UNIX_TO_TIME_STR" [] 1 1,
   known "UTC_DATE" [] 0 0, known "UTC_TIME" [] 0 1, known "UTC_TIMESTAMP" [] 0 1,
   known "WEEK" [] 1 2, known "WEEK_OF_YEAR" ["WEEKOFYEAR"] 1 1, known "YEAR" [] 1 1,
   known "YEAR_OF_WEEK" ["YEAROFWEEK"] 1 1, known "YEAR_OF_WEEK_ISO" ["YEAROFWEEKISO"] 1 1]

def listFunctions : List Function :=
  [known "ARRAY_ALL" [] 2 2, known "ARRAY_ANY" [] 2 2, known "ARRAY_APPEND" [] 2 3,
   known "ARRAY_COMPACT" [] 1 1, many "ARRAY_CONCAT" ["ARRAY_CAT"] 1,
   many "ARRAY_CONSTRUCT_COMPACT" [] 0, known "ARRAY_CONTAINS" ["ARRAY_HAS"] 2 4,
   known "ARRAY_CONTAINS_ALL" ["ARRAY_HAS_ALL"] 2 2, known "ARRAY_DISTINCT" [] 1 2,
   known "ARRAY_EXCEPT" [] 2 3, known "FILTER" ["ARRAY_FILTER"] 2 2, known "ARRAY_FIRST" [] 1 1,
   known "ARRAY_INSERT" [] 3 4, many "ARRAY_INTERSECT" ["ARRAY_INTERSECTION"] 1,
   known "ARRAY_LAST" [] 1 1, known "ARRAY_MAX" [] 1 1, known "ARRAY_MIN" [] 1 1,
   known "ARRAY_OVERLAPS" [] 2 2, known "ARRAY_POSITION" [] 2 3, known "ARRAY_PREPEND" [] 2 3,
   known "ARRAY_REMOVE" [] 2 3, known "ARRAY_REMOVE_AT" [] 2 2, known "ARRAY_REVERSE" [] 1 1,
   known "ARRAY_SIZE" ["ARRAY_LENGTH"] 1 2, known "ARRAY_SLICE" [] 2 5, known "ARRAY_SORT" [] 1 2,
   known "ARRAY_SUM" [] 1 2, known "ARRAY_TO_STRING" ["ARRAY_JOIN"] 2 5, many "ARRAYS_ZIP" [] 0,
   many "EXPLODE" [] 1, many "EXPLODE_OUTER" [] 1, known "FLATTEN" [] 1 1,
   known "GENERATE_SERIES" [] 2 4, known "INLINE" [] 1 1, many "JSON_ARRAY_APPEND" [] 2,
   known "JSON_ARRAY_CONTAINS" [] 2 3, many "JSON_ARRAY_INSERT" [] 2, many "JSON_EXTRACT" [] 2,
   many "JSON_EXTRACT_SCALAR" [] 2, known "JSON_FORMAT" [] 0 4, known "JSON_KEYS" [] 1 2,
   many "JSON_REMOVE" [] 2, many "JSON_SET" [] 1, known "JSON_STRIP_NULLS" [] 1 3,
   known "JSON_TYPE" [] 1 2, known "JSONB_CONTAINS" [] 2 3, known "JSONB_EXISTS" [] 2 2,
   known "JSONB_EXTRACT" [] 2 2, known "JSONB_EXTRACT_SCALAR" [] 2 3, many "LIST" [] 0,
   known "MAP" [] 0 2, known "MAP_CAT" [] 2 2, known "MAP_CONTAINS_KEY" [] 2 2,
   many "MAP_DELETE" [] 2, known "MAP_FROM_ENTRIES" [] 1 1, known "MAP_INSERT" [] 2 4,
   known "MAP_KEYS" [] 1 1, many "MAP_PICK" [] 2, known "MAP_SIZE" [] 1 1,
   known "OBJECT_INSERT" [] 3 4, known "PARSE_JSON" ["JSON_PARSE"] 1 3, many "POSEXPLODE" [] 1,
   many "POSEXPLODE_OUTER" [] 1, known "REDUCE" [] 3 4, known "SORT_ARRAY" [] 1 3,
   known "STAR_MAP" [] 2 2, known "STR_TO_MAP" [] 1 4, many "STRUCT" [] 0,
   known "STRUCT_EXTRACT" [] 2 2, known "TO_ARRAY" [] 1 1, known "TO_MAP" [] 1 1,
   known "TRANSFORM" [] 2 2, known "XMLELEMENT" [] 1 3, known "XMLGET" [] 2 3,
   known "JSON_ARRAY" [] 0 4, known "JSON_BOOL" [] 1 1, known "JSON_CONTAINS" [] 2 3,
   known "JSON_EXISTS" [] 2 5, known "JSON_EXTRACT_ARRAY" [] 1 2,
   known "JSON_KEYS_AT_DEPTH" [] 1 3, known "JSON_VALUE_ARRAY" [] 1 2,
   known "EXPLODING_GENERATE_SERIES" [] 2 4, known "CHECK_JSON" [] 1 1, known "CHECK_XML" [] 1 2,
   known "GET_EXTRACT" [] 2 2, many "VAR_MAP" [] 0, many "READ_CSV" [] 1,
   known "ST_POINT" ["ST_MAKEPOINT"] 2 3, known "ST_DISTANCE" [] 2 3]

/-- Functions that choose a value, convert it or tell about it. -/
def choiceFunctions : List Function :=
  [many "COALESCE" ["IFNULL", "NVL"] 1, known "EXISTS" [] 1 2, known "CONVERT_TO_CHARSET" [] 2 3,
   known "EQUAL_NULL" [] 2 2, many "GREATEST" [] 1, many "GLOB" [] 2, known "IF" ["IIF"] 2 3,
   known "IS_ASCII" [] 1 1, many "LEAST" [] 1, many "LIKE" [] 2, known "NULLIF" [] 2 2,
   known "NVL2" [] 2 3, known "SESSION_USER" [] 0 0, known "TO_BOOLEAN" [] 1 2,
   known "TO_DOUBLE" [] 1 3, known "TO_VARIANT" [] 1 1, known "TYPEOF" [] 1 1,
   known "UUID" ["GEN_RANDOM_UUID", "GENERATE_UUID", "UUID_STRING"] 0 3, known "XOR" [] 2 3,
   known "BOOLAND" [] 2 3, known "BOOLOR" [] 2 3, known "BOOLNOT" [] 1 2, known "BOOLXOR" [] 2 3,
   known "CONNECT_BY_ROOT" [] 1 1, known "NEXT_VALUE_FOR" [] 1 2, known "TRY" [] 1 1,
   known "LAX_BOOL" [] 1 1, known "IS_NULL_VALUE" [] 1 1, known "IS_ARRAY" [] 1 1,
   known "OBJECT_ID" [] 1 2, known "CURRENT_DATABASE" [] 0 0, known "CURRENT_ROLE" [] 0 0,
   known "CURRENT_TIMEZONE" [] 0 0, known "CURRENT_VERSION" [] 0 0, known "CURRENT_SCHEMAS" [] 0 1]

/-- Functions that sum up many rows, or place a row among others. -/
def groupFunctions : List Function :=
  [known "ANY_VALUE" [] 1 1, many "ARG_MAX" ["ARGMAX", "MAX_BY"] 1,
   many "ARG_MIN" ["ARGMIN", "MIN_BY"] 1, known "APPROX_DISTINCT" ["APPROX_COUNT_DISTINCT"] 1 2,
   known "APPROX_QUANTILE" [] 1 5, known "APPROX_QUANTILES" [] 1 2, known "APPROX_TOP_K" [] 1 3,
   known "APPROX_TOP_SUM" [] 3 3, known "ARRAY_AGG" ["ARRAYAGG"] 1 2,
   known "ARRAY_CONCAT_AGG" [] 1 1, known "ARRAY_UNION_AGG" [] 1 1,
   known "ARRAY_UNIQUE_AGG" [] 1 1, known "AVG" [] 1 1, known "BITWISE_AND_AGG" [] 1 1,
   known "BITWISE_OR_AGG" [] 1 1, known "BITWISE_XOR_AGG" [] 1 1, known "CORR" [] 2 3,
   many "COUNT" [] 0, known "COUNT_IF" ["COUNTIF"] 1 2, known "COVAR_POP" [] 2 2,
   known "COVAR_SAMP" [] 2 2, many "CUME_DIST" [] 0, many "DENSE_RANK" [] 0, known "FIRST" [] 1 2,
   known "FIRST_VALUE" [] 1 1, known "GROUP_CONCAT" [] 1 3, many "GROUPING" [] 1,
   many "GROUPING_ID" [] 0, many "HLL" [] 1, known "JSON_ARRAYAGG" [] 1 5,
   known "JSONB_OBJECT_AGG" [] 2 2, known "KURTOSIS" [] 1 1, known "LAG" [] 1 3,
   known "LAST" [] 1 2, known "LAST_VALUE" [] 1 1, known "LEAD" [] 1 3,
   known "LOGICAL_AND" ["BOOL_AND", "BOOLAND_AGG"] 1 1,
   known "LOGICAL_OR" ["BOOL_OR", "BOOLOR_AGG"] 1 1, many "MAX" [] 1, known "MEDIAN" [] 1 1,
   many "MIN" [] 1, many "MINHASH" [] 1, known "MODE" [] 0 2, known "NTH_VALUE" [] 2 3,
   known "NTILE" [] 0 1, known "OBJECT_AGG" [] 2 2, many "PERCENT_RANK" [] 0,
   known "PERCENTILE_CONT" [] 1 2, known "PERCENTILE_DISC" [] 1 2, known "QUANTILE" [] 2 2,
   many "RANK" [] 0, known "REGR_AVGX" [] 2 2, known "REGR_AVGY" [] 2 2, known "REGR_COUNT" [] 2 2,
   known "REGR_INTERCEPT" [] 2 2, known "REGR_R2" [] 2 2, known "REGR_SLOPE" [] 2 2,
   known "REGR_SXX" [] 2 2, known "REGR_SXY" [] 2 2, known "REGR_SYY" [] 2 2,
   known "REGR_VALX" [] 2 2, known "REGR_VALY" [] 2 2, known "ROW_NUMBER" [] 0 1,
   known "SKEWNESS" [] 1 1, known "STDDEV" ["STDEV"] 1 1, known "STDDEV_POP" [] 1 1,
   known "STDDEV_SAMP" [] 1 1, known "SUM" [] 1 1,
   known "VARIANCE" ["VARIANCE_SAMP", "VAR_SAMP"] 1 1, known "VARIANCE_POP" ["VAR_POP"] 1 1,
   known "BOOLXOR_AGG" [] 1 1, known "BITMAP_CONSTRUCT_AGG" [] 1 1, known "BITMAP_OR_AGG" [] 1 1,
   many "HASH_AGG" [] 1, known "MINHASH_COMBINE" [] 1 1,
   known "APPROXIMATE_SIMILARITY" ["APPROXIMATE_JACCARD_INDEX"] 1 1,
   known "APPROX_TOP_K_ACCUMULATE" [] 1 2, known "APPROX_TOP_K_COMBINE" [] 1 2,
   known "APPROX_TOP_K_ESTIMATE" [] 1 2, known "APPROX_PERCENTILE_ACCUMULATE" [] 1 1,
   known "APPROX_PERCENTILE_COMBINE" [] 1 1, known "APPROX_PERCENTILE_ESTIMATE" [] 2 2]

def table : List Function :=
  numberFunctions ++ textFunctions ++ timeFunctions ++ listFunctions ++ choiceFunctions
    ++ groupFunctions

/-- The dialect gives the name of a known function to one that is not known. -/
def isForeign (d : Dialect) (upper : String) : Bool :=
  match d with
  | .clickhouse => upper == "TRANSFORM" || upper == "APPROX_TOP_SUM"
  | .duckdb => upper == "DATE_SUB" || upper == "GLOB"
  | _ => false

def find? (d : Dialect) (upper : String) : Option Function :=
  if isForeign d upper then none
  else
    let standard := (ownSpelling? d upper).getD upper
    table.find? fun f => f.name == standard || f.spellings.contains standard

def accepts (f : Function) (count : Nat) : Bool :=
  f.least ≤ count && (match f.most with | some m => count ≤ m | none => true)

/-- Standard names of the functions that sum up many rows. -/
def aggregateNames : List String :=
  ["COUNT", "SUM", "AVG", "MIN", "MAX", "ARRAY_AGG", "GROUP_CONCAT", "JSON_ARRAYAGG",
   "LOGICAL_AND", "LOGICAL_OR"]

/-- Names of functions that sum up many rows although they are not known otherwise. -/
def otherAggregateNames : List String :=
  ["count", "sum", "avg", "min", "max", "array_agg", "string_agg", "group_concat", "bool_and",
   "bool_or", "json_agg", "jsonb_agg"]

end Function

end QueryFlow.Sql
