/-!
The help texts of the program.
-/

namespace QueryFlow.CommandLine.Help

def lines (ls : List String) : String := String.join (ls.map (· ++ "\n"))

def program : String := lines
  ["usage: sqlflow [-h] [--log-level LOG_LEVEL]",
   "               \x7bvisualize,lineage,serve,dialects\x7d ...",
   "",
   "SQL Flow Visualizer — Turn SQL queries into data-flow graphs.",
   "",
   "positional arguments:",
   "  \x7bvisualize,lineage,serve,dialects\x7d",
   "                        Available commands",
   "    visualize           Build the flow graph of the queries in a SQL file",
   "    lineage             Print the column lineage of the queries in a SQL file",
   "    serve               Launch the HTTP API",
   "    dialects            List supported SQL dialects",
   "",
   "options:",
   "  -h, --help            show this help message and exit",
   "  --log-level LOG_LEVEL",
   "                        Log level (DEBUG, INFO, WARNING, ...). Default:",
   "                        SQLFLOW_LOG_LEVEL or WARNING"]

/-- What the help of both kinds of analysis says behind the usage. -/
def analysis : List String :=
  ["",
   "positional arguments:",
   "  file                  SQL file to analyze",
   "",
   "options:",
   "  -h, --help            show this help message and exit",
   "  --schema SCHEMA       Schema metadata: a .json table list or a file of",
   "                        CREATE TABLE statements",
   "  --dialect DIALECT     SQL dialect. Supported: ansi, bigquery, clickhouse,",
   "                        databricks, duckdb, hive, mysql, oracle, postgres,",
   "                        presto, redshift, snowflake, spark, sqlite, starrocks,",
   "                        trino, tsql",
   "  --format \x7btext,json\x7d  Output format (default: text)"]

def visualize : String := lines <|
  ["usage: sqlflow visualize [-h] [--schema SCHEMA] [--dialect DIALECT]",
   "                         [--format \x7btext,json\x7d] [--layout]",
   "                         file"] ++ analysis ++
  ["  --layout              Compute node positions with Graphviz (JSON output",
   "                        only)"]

def lineage : String := lines <|
  ["usage: sqlflow lineage [-h] [--schema SCHEMA] [--dialect DIALECT]",
   "                       [--format \x7btext,json\x7d]",
   "                       file"] ++ analysis

def serve : String := lines
  ["usage: sqlflow serve [-h] [--host HOST] [--port PORT]",
   "",
   "options:",
   "  -h, --help   show this help message and exit",
   "  --host HOST  Host to bind to (default: 127.0.0.1)",
   "  --port PORT  Port to bind to (default: 8000)"]

def dialects : String := lines
  ["usage: sqlflow dialects [-h]",
   "",
   "options:",
   "  -h, --help  show this help message and exit"]

def command (name : String) : String :=
  match name with
  | "visualize" => visualize
  | "lineage" => lineage
  | "serve" => serve
  | _ => dialects

end QueryFlow.CommandLine.Help
