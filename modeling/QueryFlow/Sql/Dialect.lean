/-!
The SQL dialects and the habits by which they differ when a text is read: quotes, escapes, comment
marks and the meaning of a few operators. How names of types and functions are written back is kept
with those names.
-/

namespace QueryFlow.Sql

/-- A supported dialect; `ansi` is the plain language without additions. -/
inductive Dialect where
  | ansi | bigquery | clickhouse | databricks | duckdb | hive | mysql | oracle | postgres | presto
  | redshift | snowflake | spark | sqlite | starrocks | trino | tsql
  deriving Repr, DecidableEq, Inhabited

/-- Where a null stands among the other values when an order does not say it. -/
inductive NullOrder where
  | small | large | last
  deriving Repr, DecidableEq

inductive BarsMeaning where
  | concatenation | disjunction
  deriving Repr, DecidableEq

namespace Dialect

def name : Dialect → String
  | ansi => "ansi"
  | bigquery => "bigquery"
  | clickhouse => "clickhouse"
  | databricks => "databricks"
  | duckdb => "duckdb"
  | hive => "hive"
  | mysql => "mysql"
  | oracle => "oracle"
  | postgres => "postgres"
  | presto => "presto"
  | redshift => "redshift"
  | snowflake => "snowflake"
  | spark => "spark"
  | sqlite => "sqlite"
  | starrocks => "starrocks"
  | trino => "trino"
  | tsql => "tsql"

def all : List Dialect :=
  [ansi, bigquery, clickhouse, databricks, duckdb, hive, mysql, oracle, postgres, presto, redshift,
   snowflake, spark, sqlite, starrocks, trino, tsql]

def ofName? (s : String) : Option Dialect := all.find? (·.name == s)

theorem mem_all (d : Dialect) : d ∈ all := by cases d <;> decide

theorem ofName?_name (d : Dialect) : ofName? d.name = some d := by cases d <;> decide

/-- Identifiers may be put in back quotes and in nothing else. -/
def onlyBackQuotes : Dialect → Bool
  | bigquery | databricks | hive | mysql | spark | starrocks => true
  | _ => false

def takesBackQuotes (d : Dialect) : Bool := d.onlyBackQuotes || d == clickhouse || d == sqlite

/-- Identifiers may be put in square brackets. -/
def takesBrackets (d : Dialect) : Bool := d == sqlite || d == tsql

def identifierQuotes (d : Dialect) : Char × Char :=
  if d.onlyBackQuotes then (Char.ofNat 96, Char.ofNat 96)
  else if d == tsql then ('[', ']') else (Char.ofNat 34, Char.ofNat 34)

/-- A backslash escapes the next character of a string. -/
def backslashEscapes : Dialect → Bool
  | bigquery | clickhouse | databricks | hive | mysql | redshift | snowflake | spark
  | starrocks => true
  | _ => false

/-- A quote inside a string may be written twice. -/
def doubledQuotes : Dialect → Bool
  | bigquery | databricks | hive | spark => false
  | _ => true

/-- A quote inside a written string has a backslash in front of it, not another quote. -/
def writesBackslashQuote : Dialect → Bool
  | bigquery | databricks | hive | redshift | snowflake | spark => true
  | _ => false

def hashComments : Dialect → Bool
  | bigquery | clickhouse | mysql | starrocks => true
  | _ => false

def slashComments : Dialect → Bool
  | snowflake => true
  | _ => false

def digitWords : Dialect → Bool
  | clickhouse | databricks | hive | mysql | spark | starrocks => true
  | _ => false

def underscoredNumbers : Dialect → Bool
  | clickhouse | duckdb => true
  | _ => false

/-- The dialect behaves as postgres does in its operators. -/
def likePostgres : Dialect → Bool
  | postgres | redshift => true
  | _ => false

/-- The dialect behaves as mysql does in its operators. -/
def likeMysql : Dialect → Bool
  | mysql | starrocks => true
  | _ => false

def likeHive : Dialect → Bool
  | databricks | hive | spark => true
  | _ => false

/-- The distance of two dates is asked for by its unit, the start and the end, in this order. -/
def unitComesFirst : Dialect → Bool
  | clickhouse | databricks | duckdb | presto | redshift | snowflake | spark | trino | tsql => true
  | _ => false

def bars (d : Dialect) : BarsMeaning :=
  if d.likeMysql then .disjunction else .concatenation

def caretIsPower : Dialect → Bool
  | postgres | redshift | duckdb => true
  | _ => false

/-- A select list may start with a number of rows to keep. -/
def readsTop : Dialect → Bool
  | oracle | redshift | snowflake | tsql => true
  | _ => false

/-- Where nulls stand by default. -/
def nullOrder : Dialect → NullOrder
  | oracle | postgres | redshift | snowflake => .large
  | clickhouse | duckdb | presto | trino => .last
  | _ => .small

/-- Nulls come first in an order that goes up, or down, and says nothing about them. -/
def nullsComeFirst (d : Dialect) (down : Bool) : Bool :=
  match d.nullOrder with
  | .small => !down
  | .large => down
  | .last => false

/-- A type may have any name; elsewhere an unknown name is no type. -/
def namedTypes : Dialect → Bool
  | bigquery | clickhouse | databricks | hive | mysql | redshift | snowflake | spark | starrocks
  | trino => false
  | _ => true

/-- The digits of a number in base sixteen are small letters where they are letters. -/
def smallHexDigits : Dialect → Bool
  | bigquery | redshift => true
  | _ => false

/-- Unknown functions keep the spelling of their name. -/
def keepsFunctionCase : Dialect → Bool
  | bigquery | clickhouse => true
  | _ => false

end Dialect

end QueryFlow.Sql
