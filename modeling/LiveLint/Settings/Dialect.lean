import LiveLint.Text.Basic

/-!
# SQL dialects

The grammars that the linter understands.
-/

namespace LiveLint

/-- A grammar of SQL. -/
inductive Dialect where
  | ansi | athena | bigquery | clickhouse | databricks | db2 | duckdb | exasol | greenplum | hive
  | impala | mariadb | materialize | mysql | oracle | postgres | redshift | snowflake | soql
  | sparksql | sqlite | starrocks | teradata | trino | tsql | vertica
deriving DecidableEq

namespace Dialect

/-- Every dialect, in alphabetical order. -/
def all : List Dialect :=
  [.ansi, .athena, .bigquery, .clickhouse, .databricks, .db2, .duckdb, .exasol, .greenplum, .hive,
   .impala, .mariadb, .materialize, .mysql, .oracle, .postgres, .redshift, .snowflake, .soql,
   .sparksql, .sqlite, .starrocks, .teradata, .trino, .tsql, .vertica]

/-- The name of a dialect. -/
def name : Dialect → Text
  | .ansi => "ansi"
  | .athena => "athena"
  | .bigquery => "bigquery"
  | .clickhouse => "clickhouse"
  | .databricks => "databricks"
  | .db2 => "db2"
  | .duckdb => "duckdb"
  | .exasol => "exasol"
  | .greenplum => "greenplum"
  | .hive => "hive"
  | .impala => "impala"
  | .mariadb => "mariadb"
  | .materialize => "materialize"
  | .mysql => "mysql"
  | .oracle => "oracle"
  | .postgres => "postgres"
  | .redshift => "redshift"
  | .snowflake => "snowflake"
  | .soql => "soql"
  | .sparksql => "sparksql"
  | .sqlite => "sqlite"
  | .starrocks => "starrocks"
  | .teradata => "teradata"
  | .trino => "trino"
  | .tsql => "tsql"
  | .vertica => "vertica"

end Dialect

end LiveLint
