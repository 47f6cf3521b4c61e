import QueryFlow.Sql.Function.Naming
import QueryFlow.Sql.Phrase

/-!
Patterns for known functions that a dialect says in other words.
-/

namespace QueryFlow.Sql.Function

/-- A pattern for a function with some number of arguments; no number means any. -/
structure Wording where
  name : String
  count : Option Nat
  pattern : String
  deriving Repr, DecidableEq

def always (name pattern : String) : Wording := ⟨name, none, pattern⟩

def exactly (count : Nat) (name pattern : String) : Wording := ⟨name, some count, pattern⟩

/-- A choice by cases where there is no function that chooses by nulls. -/
def nullChoices : List Wording :=
  [exactly 3 "NVL2" "CASE WHEN NOT %1 IS NULL THEN $2 ELSE $3 END",
   exactly 2 "NVL2" "CASE WHEN NOT %1 IS NULL THEN $2 END"]

/-- Either of two conditions, but not both. -/
def eitherOne : Wording := always "XOR" "(%1 AND (NOT $2)) OR ((NOT $1) AND %2)"

def blanks : Wording := always "SPACE" "REPEAT(' ', $1)"

/-- The last day of a month where no other unit can be asked for. -/
def lastDayOfMonth : Wording := always "LAST_DAY" "LAST_DAY($1)"

/-- The middle value where there is only a function for percentiles. -/
def halfPercentile : Wording := always "MEDIAN" "PERCENTILE_CONT($1, 0.5)"

/-- Present moments whose precision is not written. -/
def bareMoments : List Wording :=
  [always "CURRENT_TIMESTAMP" "CURRENT_TIMESTAMP", always "CURRENT_TIME" "CURRENT_TIME"]

/-- Percentiles that take what they order by behind them. -/
def orderedPercentiles : List Wording :=
  [exactly 2 "PERCENTILE_CONT" "PERCENTILE_CONT($2) WITHIN GROUP (ORDER BY $1)",
   exactly 2 "PERCENTILE_DISC" "PERCENTILE_DISC($2) WITHIN GROUP (ORDER BY $1)"]

/-- The present day in universal time where zones stand behind an operator. -/
def universalDay : Wording := always "UTC_DATE" "CURRENT_DATE AT TIME ZONE 'UTC'"

def documentOperators : List Wording :=
  [exactly 2 "JSONB_CONTAINS" "$1 ? $2", exactly 2 "JSONB_EXTRACT" "$1 #> $2",
   exactly 2 "JSONB_EXTRACT_SCALAR" "$1 #>> $2"]

def postgresWordings : List Wording :=
  nullChoices ++ orderedPercentiles ++ documentOperators ++
  [universalDay, always "UTC_TIMESTAMP" "CURRENT_TIMESTAMP", always "REGEXP_LIKE" "$1 ~ $2",
   always "ARRAY_CONTAINS" "CASE WHEN $2 IS NULL THEN NULL ELSE COALESCE($2 = ANY($1), FALSE) END",
   always "REGEXP_I_LIKE" "$1 ~* $2", exactly 1 "ARRAY_SIZE" "ARRAY_LENGTH($1, 1)",
   always "SAFE_DIVIDE" "CASE WHEN %2 <> 0 THEN CAST(%1 AS DOUBLE PRECISION) / %2 ELSE NULL END",
   eitherOne, blanks,
   always "INITCAP" "INITCAP($1)",
   always "MAP_FROM_ENTRIES" "",
   exactly 6 "LEVENSHTEIN" "LEVENSHTEIN_LESS_EQUAL(@1)",
   exactly 2 "JSON_OBJECT_AGG" "JSON_OBJECT_AGG($1, $2)",
   always "TIME_TO_STR" "TO_CHAR($1, $2)",
   always "TIME_TO_UNIX" "DATE_PART('epoch', $1)",
   exactly 2 "STR_TO_DATE" "TO_DATE($1, $2)", always "STR_TO_TIME" "TO_TIMESTAMP($1, $2)"]

def plainPostgresWordings : List Wording :=
  [always "MEDIAN" "PERCENTILE_CONT(0.5) WITHIN GROUP (ORDER BY $1)",
   always "LAST_DAY"
     "CAST(DATE_TRUNC('MONTH', $1) + INTERVAL '1 MONTH' - INTERVAL '1 DAY' AS DATE)",
   always "UUID" "GEN_RANDOM_UUID()",
   always "PARSE_JSON" "CAST($1 AS JSON)",
   exactly 1 "SHA2_DIGEST" "SHA256($1)",
   exactly 1 "SHA2" "ENCODE(SHA256($1), 'hex')",
   exactly 1 "UNIX_TO_TIME" "TO_TIMESTAMP($1)",
   exactly 2 "UNIX_TO_TIME" "TO_TIMESTAMP(CAST(%1 AS DOUBLE PRECISION) / POWER(10, $2))"]

def redshiftWordings : List Wording :=
  [lastDayOfMonth,
   exactly 3 "NVL2" "NVL2($1, $2, $3)", always "PARSE_JSON" "JSON_PARSE($1)",
   always "UTC_TIMESTAMP" "GETDATE()", always "UUID" "GEN_RANDOM_UUID()",
   exactly 1 "SHA2_DIGEST" "SHA2($1, 256)", exactly 2 "SHA2_DIGEST" "SHA2($1, $2)",
   exactly 2 "CONVERT_TIMEZONE" "CONVERT_TIMEZONE('UTC', $1, $2)",
   always "CONVERT_TIMEZONE" "CONVERT_TIMEZONE(@1)",
   exactly 1 "UNIX_TO_TIME" "(TIMESTAMP 'epoch' + $1 * INTERVAL '1 SECOND')",
   always "STARTS_WITH" "$1 LIKE $2 || '%%'",
   always "APPROX_DISTINCT" "APPROXIMATE COUNT(DISTINCT $1)"]

def mysqlWordings : List Wording :=
  nullChoices ++
  [always "UTC_DATE" "UTC_DATE()", always "UTC_TIME" "UTC_TIME(@1)",
   always "UTC_TIMESTAMP" "UTC_TIMESTAMP(@1)", lastDayOfMonth, halfPercentile,
   always "JSON_ARRAY_CONTAINS" "$1 MEMBER OF($2)",
   exactly 3 "TIMESTAMPDIFF" "TIMESTAMPDIFF($3, $2, $1)",
   exactly 3 "DATEDIFF" "DATEDIFF($1, $2)", exactly 1 "TRUNC" "TRUNCATE($1, 0)",
   always "UNICODE" "ORD(CONVERT($1 USING utf32))",
   always "TO_DAYS" "(DATEDIFF($1, '0000-01-01') + 1)",
   exactly 2 "CONVERT_TIMEZONE" "CONVERT_TZ($2, $1)",
   always "CONVERT_TIMEZONE" "CONVERT_TZ($3, $1, $2)", always "TS_OR_DS_TO_DATE" "DATE($1)",
   exactly 2 "STR_TO_DATE" "STR_TO_DATE($1, $2)", always "TIME_TO_STR" "DATE_FORMAT($1, $2)",
   always "TS_OR_DS_DIFF" "DATEDIFF($1, $2)"]

def hiveWordings : List Wording :=
  nullChoices ++
  [universalDay, lastDayOfMonth, always "SORT_ARRAY" "SORT_ARRAY(@1)",
   exactly 3 "ARG_MAX" "MAX_BY($1, $2)", exactly 3 "ARG_MIN" "MIN_BY($1, $2)",
   exactly 1 "SHA2" "SHA2($1, 256)",
   always "DATE_TO_DI" "CAST(DATE_FORMAT($1, 'yyyyMMdd') AS INT)",
   always "DI_TO_DATE" "TO_DATE(CAST($1 AS STRING), 'yyyyMMdd')",
   always "TS_OR_DI_TO_DI" "CAST(SUBSTR(REPLACE(CAST($1 AS STRING), '-', ''), 1, 8) AS INT)",
   always "MD5_DIGEST" "UNHEX(MD5($1))", always "DAYOFWEEK_ISO" "((DAYOFWEEK($1) %% 7) + 1)",
   exactly 1 "TS_OR_DS_TO_DATE" "TO_DATE($1)",
   always "TIME_TO_STR" "DATE_FORMAT($1, $2)",
   exactly 2 "JSON_EXTRACT" "GET_JSON_OBJECT($1, $2)",
   exactly 2 "JSON_EXTRACT_SCALAR" "GET_JSON_OBJECT($1, $2)"]

def plainHiveWordings : List Wording :=
  [halfPercentile, always "ARRAY_SORT" "SORT_ARRAY($1)", always "PARSE_JSON" "$1",
   exactly 2 "LEFT" "SUBSTRING($1, 1, $2)",
   exactly 2 "RIGHT" "SUBSTRING($1, LENGTH($1) - ($2 - 1))",
   always "ARRAY_TO_STRING" "CONCAT_WS($2, $1)",
   exactly 2 "STR_TO_DATE" "CAST(FROM_UNIXTIME(UNIX_TIMESTAMP($1, $2)) AS DATE)",
   exactly 2 "STR_TO_TIME" "CAST(FROM_UNIXTIME(UNIX_TIMESTAMP($1, $2)) AS TIMESTAMP)"]

def sparkWordings : List Wording :=
  [exactly 1 "STR_TO_DATE" "TO_DATE($1)", exactly 2 "STR_TO_DATE" "TO_DATE($1, $2)",
   exactly 2 "STR_TO_TIME" "TO_TIMESTAMP($1, $2)",
   exactly 1 "ARRAY_SUM" "AGGREGATE($1, 0, (acc, x) -> acc + x, acc -> acc)"]

def prestoWordings : List Wording :=
  nullChoices ++ bareMoments ++
  [eitherOne, blanks,
   exactly 2 "LEFT" "SUBSTR($1, 1, $2)",
   exactly 2 "RIGHT" "SUBSTR($1, LENGTH($1) - ($2 - 1))",
   always "LAST_DAY" "LAST_DAY_OF_MONTH($1)",
   always "DAY_OF_WEEK" "((DAY_OF_WEEK($1) %% 7) + 1)",
   halfPercentile, always "PARSE_JSON" "JSON_PARSE($1)",
   always "FIRST" "ARBITRARY(@1)", always "LAST" "ARBITRARY(@1)",
   always "INITCAP" "REGEXP_REPLACE($1, '(\\w)(\\w*)', x -> UPPER(x[1]) || LOWER(x[2]))",
   exactly 2 "REPLACE" "REPLACE($1, $2, '')",
   exactly 2 "REGEXP_REPLACE" "REGEXP_REPLACE($1, $2, '')",
   exactly 1 "SHA2" "SHA256($1)", exactly 1 "SHA2_DIGEST" "SHA256($1)", exactly 1 "CONCAT" "$1",
   always "SAFE_DIVIDE" "IF(%2 <> 0, CAST(%1 AS DOUBLE) / %2, NULL)",
   always "DATE_TO_DI" "CAST(DATE_FORMAT($1, '%%Y%%m%%d') AS INT)",
   always "DI_TO_DATE" "CAST(DATE_PARSE(CAST($1 AS VARCHAR), '%%Y%%m%%d') AS DATE)",
   always "TS_OR_DI_TO_DI" "CAST(SUBSTR(REPLACE(CAST($1 AS VARCHAR), '-', ''), 1, 8) AS INT)",
   always "TIME_STR_TO_UNIX" "TO_UNIXTIME(DATE_PARSE($1, '%%Y-%%m-%%d %%T'))",
   always "UNIX_TO_TIME_STR" "CAST(FROM_UNIXTIME($1) AS VARCHAR)",
   exactly 2 "UNIX_TO_STR" "DATE_FORMAT(FROM_UNIXTIME($1), $2)",
   always "TIME_TO_STR" "DATE_FORMAT($1, $2)",
   exactly 2 "STR_TO_DATE" "CAST(DATE_PARSE($1, $2) AS DATE)",
   always "STR_TO_TIME" "DATE_PARSE($1, $2)",
   exactly 1 "TS_OR_DS_TO_DATE" "CAST(CAST($1 AS TIMESTAMP) AS DATE)"]

def snowflakeWordings : List Wording :=
  orderedPercentiles ++
  [exactly 1 "APPROX_QUANTILE" "APPROX_PERCENTILE($1)",
   always "APPROX_QUANTILE" "APPROX_PERCENTILE($1, $2)",
   exactly 2 "COLLATE" "COLLATE($1, $2)", always "SORT_ARRAY" "ARRAY_SORT(@1)",
   always "ARRAY_OVERLAPS" "ARRAYS_OVERLAP($1, $2)", always "TO_NUMBER" "TO_NUMBER(@1)",
   exactly 2 "CONVERT_TIMEZONE" "CONVERT_TIMEZONE($1, $2)",
   always "CONVERT_TIMEZONE" "CONVERT_TIMEZONE(@1)",
   exactly 2 "JSON_EXTRACT" "GET_PATH($1, $2)",
   exactly 2 "JSON_EXTRACT_SCALAR" "JSON_EXTRACT_PATH_TEXT($1, $2)",
   exactly 2 "GENERATE_SERIES" "ARRAY_GENERATE_RANGE($1, %2 + 1)",
   exactly 3 "GENERATE_SERIES" "ARRAY_GENERATE_RANGE($1, %2 + 1, $3)",
   exactly 1 "APPROX_TOP_K" "APPROX_TOP_K($1, 1)",
   always "ARRAY_CONCAT_AGG" "ARRAY_FLATTEN(ARRAY_AGG($1))",
   always "CURRENT_SCHEMAS" "CURRENT_SCHEMAS()", always "LOWER_HEX" "TO_CHAR($1)",
   exactly 2 "REPLACE" "REPLACE($1, $2, '')",
   exactly 2 "REGEXP_REPLACE" "REGEXP_REPLACE($1, $2, '')",
   always "SAFE_DIVIDE" "IFF(%2 <> 0, %1 / %2, NULL)",
   always "REGEXP_I_LIKE" "REGEXP_LIKE($1, $2, 'i')",
   always "TIME_TO_UNIX" "EXTRACT(epoch_second FROM $1)",
   always "TIME_TO_STR" "TO_CHAR(CAST($1 AS TIMESTAMP), $2)",
   exactly 2 "STR_TO_DATE" "DATE($1, $2)", always "STR_TO_TIME" "TO_TIMESTAMP($1, $2)",
   exactly 1 "TS_OR_DS_TO_DATE" "TO_DATE($1)", blanks,
   always "XOR" "BOOLXOR($1, $2)", always "BOOLAND" "BOOLAND(@1)", always "BOOLOR" "BOOLOR(@1)",
   always "BOOLNOT" "BOOLNOT($1)", always "UTC_TIMESTAMP" "CURRENT_TIMESTAMP('UTC')",
   always "UTC_DATE" "CAST(CONVERT_TIMEZONE('UTC', CURRENT_TIMESTAMP()) AS DATE)",
   always "UTC_TIME" "CAST(CONVERT_TIMEZONE('UTC', CURRENT_TIMESTAMP()) AS TIME)"]

def bigqueryWordings : List Wording :=
  nullChoices ++
  [halfPercentile, exactly 2 "COLLATE" "COLLATE($1, $2)",
   exactly 2 "ARRAY_REMOVE" "ARRAY(SELECT _u FROM UNNEST($1) AS _u WHERE _u <> $2)",
   always "ARRAY_CONTAINS" "EXISTS(SELECT 1 FROM UNNEST($1) AS _col WHERE _col = $2)",
   exactly 3 "ARG_MAX" "MAX_BY($1, $2)", exactly 3 "ARG_MIN" "MIN_BY($1, $2)",
   exactly 1 "SPLIT" "SPLIT($1, ',')", blanks, exactly 1 "SHA2" "SHA256($1)",
   always "TIME_TO_STR" "FORMAT_DATE($2, $1)", always "MD5_DIGEST" "MD5($1)",
   exactly 1 "SHA2_DIGEST" "SHA256($1)",
   exactly 2 "STR_TO_DATE" "PARSE_DATE($2, $1)", always "STR_TO_TIME" "PARSE_TIMESTAMP($2, $1)",
   always "LOWER_HEX" "TO_HEX($1)"]

def clickhouseWordings : List Wording :=
  nullChoices ++
  [exactly 2 "FILTER" "arrayFilter($2, $1)", always "CONTAINS" "POSITION($1, $2) > 0",
   exactly 2 "ARRAY_REMOVE" "arrayFilter(_u -> _u <> $2, $1)",
   exactly 2 "SPLIT" "splitByString($2, $1)", exactly 3 "SPLIT" "splitByString($2, $1, $3)",
   exactly 2 "REGEXP_SPLIT" "splitByRegexp($2, $1)",
   exactly 3 "REGEXP_SPLIT" "splitByRegexp($2, $1, $3)", always "XOR" "xor(@1)",
   exactly 3 "ARG_MAX" "argMax($1, $2)", exactly 3 "ARG_MIN" "argMin($1, $2)",
   always "TIME_TO_STR" "formatDateTime($1, $2)", exactly 1 "SHA2" "SHA256($1)",
   always "MD5_DIGEST" "MD5($1)", exactly 1 "SHA2_DIGEST" "SHA256($1)",
   exactly 2 "JSON_EXTRACT" "JSONExtractString($1, $2)",
   exactly 2 "JSON_EXTRACT_SCALAR" "JSONExtractString($1, $2)"]

def duckdbWordings : List Wording :=
  nullChoices ++ bareMoments ++
  [always "PARSE_JSON" "JSON($1)", always "UNIX_SECONDS" "CAST(EPOCH($1) AS BIGINT)",
   always "YEAR_OF_WEEK" "EXTRACT(ISOYEAR FROM $1)",
   always "YEAR_OF_WEEK_ISO" "EXTRACT(ISOYEAR FROM $1)",
   always "ARRAY_UNIQUE_AGG" "LIST(DISTINCT $1)",
   exactly 2 "EQUAL_NULL" "$1 IS NOT DISTINCT FROM $2",
   exactly 2 "ARRAY_REMOVE" "LIST_FILTER($1, LAMBDA _u : _u <> $2)",
   always "ARRAY_COMPACT" "LIST_FILTER($1, LAMBDA _u : NOT _u IS NULL)", always "UUID" "UUID()",
   always "SPACE" "REPEAT(' ', CAST($1 AS BIGINT))", always "UTC_TIMESTAMP" "CURRENT_TIMESTAMP",
   always "UTC_DATE" "CAST(CURRENT_TIMESTAMP AT TIME ZONE 'UTC' AS DATE)",
   always "UTC_TIME" "CURRENT_TIME",
   always "REGR_VALX" "CASE WHEN $1 IS NULL THEN CAST(NULL AS DOUBLE) ELSE $2 END",
   always "REGR_VALY" "CASE WHEN $2 IS NULL THEN CAST(NULL AS DOUBLE) ELSE $1 END",
   always "STUFF" "SUBSTRING($1, 1, %2 - 1) || $4 || SUBSTRING($1, %2 + %3)",
   always "BOOLNOT" "NOT ($1)", always "IS_NULL_VALUE" "JSON_TYPE($1) = 'NULL'",
   always "IS_ARRAY" "JSON_TYPE($1) = 'ARRAY'", always "RTRIMMED_LENGTH" "LENGTH(RTRIM($1))",
   always "CHECK_JSON"
     "CASE WHEN $1 IS NULL OR $1 = '' OR JSON_VALID($1) THEN NULL ELSE 'Invalid JSON' END",
   always "BITMAP_BIT_POSITION" "(CASE WHEN $1 > 0 THEN %1 - 1 ELSE ABS($1) END) %% 32768",
   always "TO_VARIANT" "CAST($1 AS VARIANT)",
   always "SHA1_DIGEST" "UNHEX(SHA1($1))", always "SHA2_DIGEST" "UNHEX(SHA256($1))",
   exactly 0 "CURRENT_SCHEMAS" "CURRENT_SCHEMAS(TRUE)", exactly 1 "BASE64_ENCODE" "TO_BASE64($1)",
   exactly 1 "BASE64_DECODE_BINARY" "FROM_BASE64($1)",
   exactly 1 "BASE64_DECODE_STRING" "DECODE(FROM_BASE64($1))",
   exactly 2 "JSON_EXTRACT_ARRAY" "CAST($1 -> $2 AS JSON[])",
   exactly 2 "JSON_VALUE_ARRAY" "CAST($1 -> $2 AS TEXT[])",
   exactly 3 "ARRAY_TO_STRING"
     "ARRAY_TO_STRING(LIST_TRANSFORM($1, x -> COALESCE(x, $3)), $2)",
   exactly 1 "TO_BOOLEAN" ("CASE WHEN UPPER(CAST($1 AS TEXT)) = 'ON' THEN TRUE "
     ++ "WHEN UPPER(CAST($1 AS TEXT)) = 'OFF' THEN FALSE "
     ++ "WHEN ISNAN(TRY_CAST($1 AS REAL)) OR ISINF(TRY_CAST($1 AS REAL)) "
     ++ "THEN ERROR('TO_BOOLEAN: Non-numeric values NaN and INF are not supported') "
     ++ "ELSE CAST($1 AS BOOLEAN) END"),
   exactly 2 "REGEXP_COUNT"
     "CASE WHEN $2 = '' THEN 0 ELSE LENGTH(REGEXP_EXTRACT_ALL($1, $2)) END",
   exactly 3 "REGEXP_COUNT"
     "CASE WHEN $2 = '' THEN 0 ELSE LENGTH(REGEXP_EXTRACT_ALL(SUBSTRING($1, $3), $2)) END",
   exactly 2 "JSON_EXTRACT" "$1 -> $2", exactly 2 "JSON_EXTRACT_SCALAR" "$1 ->> $2",
   always "XOR" "XOR($1, $2)", exactly 1 "SHA2" "SHA256($1)", always "MD5_DIGEST" "UNHEX(MD5($1))",
   always "SAFE_DIVIDE" "CASE WHEN %2 <> 0 THEN %1 / %2 ELSE NULL END",
   always "REGEXP_I_LIKE" "REGEXP_MATCHES($1, $2, 'i')",
   always "TIME_STR_TO_DATE" "CAST($1 AS DATE)",
   always "TIME_STR_TO_UNIX" "EPOCH(CAST($1 AS TIMESTAMP))",
   always "UNIX_TO_TIME_STR" "CAST(TO_TIMESTAMP($1) AS TEXT)",
   always "DATE_TO_DI" "CAST(STRFTIME($1, '%%Y%%m%%d') AS INT)",
   always "DI_TO_DATE" "CAST(STRPTIME(CAST($1 AS TEXT), '%%Y%%m%%d') AS DATE)",
   always "TS_OR_DI_TO_DI" "CAST(SUBSTR(REPLACE(CAST($1 AS TEXT), '-', ''), 1, 8) AS INT)",
   always "TIME_TO_STR" "STRFTIME($1, $2)", always "STR_TO_TIME" "STRPTIME($1, $2)",
   exactly 2 "STR_TO_DATE" "CAST(STRPTIME($1, $2) AS DATE)",
   exactly 2 "STR_TO_UNIX" "EPOCH(STRPTIME($1, $2))",
   exactly 2 "UNIX_TO_STR" "STRFTIME(TO_TIMESTAMP($1), $2)",
   always "JSON_FORMAT" "CAST(TO_JSON($1) AS TEXT)"]

def oracleWordings : List Wording :=
  [lastDayOfMonth, exactly 1 "TO_NUMBER" "TO_NUMBER($1)", exactly 2 "DATE_TRUNC" "TRUNC($2, $1)",
   always "DATE_STR_TO_DATE" "TO_DATE($1, 'YYYY-MM-DD')", always "UNICODE" "ASCII(UNISTR($1))"]

def tsqlWordings : List Wording :=
  nullChoices ++
  [always "PARSE_JSON" "$1",
   exactly 2 "JSON_EXTRACT" "ISNULL(JSON_QUERY($1, $2), JSON_VALUE($1, $2))",
   exactly 2 "JSON_EXTRACT_SCALAR" "ISNULL(JSON_QUERY($1, $2), JSON_VALUE($1, $2))",
   always "LAST_DAY" "EOMONTH($1)", always "MD5" "HASHBYTES('MD5', $1)",
   always "SHA" "HASHBYTES('SHA1', $1)", exactly 1 "SHA2" "HASHBYTES('SHA2_256', $1)",
   exactly 1 "CONCAT" "$1", always "SHA1_DIGEST" "HASHBYTES('SHA1', $1)",
   always "CURRENT_TIMESTAMP" "GETDATE(@1)", always "CURRENT_DATE" "GETDATE(@1)",
   always "NUMBER_TO_STR" "FORMAT(@1)", exactly 1 "TRUNC" "ROUND($1, 0, 1)",
   exactly 2 "TRUNC" "ROUND($1, $2, 1)", always "TIME_TO_STR" "FORMAT($1, $2)"]

def sqliteWordings : List Wording :=
  nullChoices ++ bareMoments ++
  [always "PARSE_JSON" "$1", exactly 2 "GREATEST" "MAX(COALESCE($1, $2), COALESCE($2, $1))",
   exactly 2 "LEAST" "MIN(COALESCE($1, $2), COALESCE($2, $1))",
   exactly 3 "GREATEST" "MAX(COALESCE($1, $2, $3), COALESCE($2, $1, $3), COALESCE($3, $1, $2))",
   exactly 3 "LEAST" "MIN(COALESCE($1, $2, $3), COALESCE($2, $1, $3), COALESCE($3, $1, $2))",
   exactly 2 "JSON_EXTRACT" "$1 -> $2", exactly 2 "JSON_EXTRACT_SCALAR" "$1 ->> $2",
   always "DATE_STR_TO_DATE" "$1", exactly 1 "TIME_STR_TO_TIME" "$1",
   always "TS_OR_DS_TO_TIMESTAMP" "$1",
   always "TIME_TO_STR" "STRFTIME($2, $1)"]

def commonWordings : List Wording :=
  [always "SORT_ARRAY" "ARRAY_SORT($1)", always "ARRAY_CONTAINS_ALL" "$1 @@> $2",
   always "ARRAY_OVERLAPS" "$1 && $2", exactly 2 "COLLATE" "$1 COLLATE $2",
   always "UTC_DATE" "CURRENT_DATE('UTC')", always "UTC_TIME" "CURRENT_TIME('UTC')",
   always "UTC_TIMESTAMP" "CURRENT_TIMESTAMP('UTC')",
   exactly 2 "XOR" "$1 XOR $2", always "CONVERT_TO_CHARSET" "CONVERT(@1)",
   always "CONNECT_BY_ROOT" "CONNECT_BY_ROOT $1", exactly 1 "NEXT_VALUE_FOR" "NEXT VALUE FOR $1",
   always "TO_MAP" "MAP $1", always "EXISTS" "EXISTS($1)",
   always "BOOLAND" "(($1) AND ($2))", always "BOOLOR" "(($1) OR ($2))",
   exactly 3 "CEIL" "CEIL($1 TO $3)",
   exactly 4 "ARRAY_INSERT" "ARRAY_INSERT($1, %2 + (0 - $4), $3)",
   exactly 3 "TO_NUMBER" "TO_NUMBER($1, $2)", always "LOWER_HEX" "LOWER(HEX($1))",
   always "VAR_MAP" "MAP($1, $2)"]

def ownWordings : Dialect → List Wording
  | .postgres => plainPostgresWordings ++ postgresWordings
  | .redshift => redshiftWordings ++ postgresWordings
  | .snowflake => snowflakeWordings
  | .oracle => oracleWordings
  | .hive => plainHiveWordings ++ hiveWordings
  | .spark => always "PARSE_JSON" "$1" :: (sparkWordings ++ hiveWordings)
  | .databricks =>
    exactly 3 "NVL2" "NVL2($1, $2, $3)" :: (sparkWordings ++ hiveWordings)
  | .tsql => tsqlWordings
  | .sqlite => sqliteWordings
  | .duckdb => duckdbWordings
  | .starrocks =>
    [exactly 2 "JSON_EXTRACT" "$1 -> $2", exactly 2 "JSON_EXTRACT_SCALAR" "$1 ->> $2",
     exactly 2 "ST_DISTANCE" "ST_DISTANCE_SPHERE(ST_X($1), ST_Y($1), ST_X($2), ST_Y($2))"]
      ++ mysqlWordings
  | .mysql =>
    [exactly 2 "JSON_EXTRACT_SCALAR" "$1 ->> $2", always "PARSE_JSON" "$1"] ++ mysqlWordings
  | .clickhouse => clickhouseWordings
  | .bigquery => bigqueryWordings
  | .presto => prestoWordings
  | .trino =>
    [always "ARRAY_UNIQUE_AGG" "ARRAY_AGG(DISTINCT $1)",
     exactly 1 "ARRAY_SUM" "REDUCE($1, 0, (acc, x) -> acc + x, acc -> acc)"] ++ prestoWordings
  | .ansi => []

/-- The pattern by which a dialect writes a known function with this many arguments. -/
def pattern? (d : Dialect) (name : String) (count : Nat) : Option String :=
  ((ownWordings d ++ commonWordings).find? fun w =>
    w.name == name && (w.count.isNone || w.count == some count)).map (·.pattern)

end QueryFlow.Sql.Function
