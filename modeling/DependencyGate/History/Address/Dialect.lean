import DependencyGate.History.Address

/-!
# Dialects

A dialect has drivers and holds other members besides them. `checkScheme` accepts the
schemes of the built-in dialect with a driver that is always there, and says what is wrong
with all others.
-/

namespace DependencyGate.History

structure Dialect where
  name : String
  /-- The drivers, each an add-on that may be missing. -/
  drivers : List String
  /-- Names in the dialect that are not drivers. -/
  members : List String

namespace Dialect

def commonMembers : List String :=
  ["json", "dml", "types", "dialect", "insert", "Insert", "BLOB", "BOOLEAN", "CHAR", "DATE",
   "DATETIME", "DECIMAL", "FLOAT", "INTEGER", "JSON", "NUMERIC", "REAL", "SMALLINT", "TEXT", "TIME",
   "TIMESTAMP", "VARCHAR", "__all__", "__builtins__", "__cached__", "__class__", "__dict__",
   "__doc__", "__file__", "__init__", "__loader__", "__name__", "__package__", "__path__",
   "__spec__"]

def membersWithout (missing : List String) : List String :=
  commonMembers.filter fun m => !(missing.contains m)

def file : Dialect where
  name := "sqlite"
  drivers := ["base", "pysqlite", "aiosqlite", "pysqlcipher"]
  members := membersWithout ["types"]

def builtinDrivers : List String := ["base", "pysqlite"]

def all : List Dialect :=
  [file,
   { name := "postgresql"
     drivers :=
       ["base", "psycopg2", "psycopg", "psycopg_async", "asyncpg", "pg8000", "psycopg2cffi"]
     members := membersWithout ["BLOB", "DATETIME", "DECIMAL"] ++
       ["ARRAY", "BIGINT", "BIT", "BYTEA", "CIDR", "CITEXT", "DOMAIN", "DOUBLE_PRECISION", "ENUM",
        "HSTORE", "INET", "INTERVAL", "JSONB", "JSONPATH", "MACADDR", "MACADDR8", "MONEY", "OID",
        "REGCLASS", "REGCONFIG", "TSQUERY", "TSVECTOR", "UUID", "All", "Any", "array", "array_agg",
        "aggregate_order_by", "ExcludeConstraint", "hstore", "ranges", "Range", "MultiRange", "ext",
        "named_types", "operators", "pg_catalog", "arraylib"] },
   { name := "mysql"
     drivers := ["base", "mysqldb", "pymysql", "aiomysql", "asyncmy", "cymysql", "mariadbconnector",
       "mysqlconnector", "pyodbc"]
     members := commonMembers ++
       ["BIGINT", "BINARY", "BIT", "DOUBLE", "ENUM", "LONGBLOB", "LONGTEXT", "MEDIUMBLOB",
        "MEDIUMINT", "MEDIUMTEXT", "NCHAR", "NVARCHAR", "SET", "TINYBLOB", "TINYINT", "TINYTEXT",
        "VARBINARY", "YEAR", "enumerated", "expression", "match", "reflection", "reserved_words"] },
   { name := "mariadb"
     drivers := ["base", "mysqldb", "pymysql", "aiomysql", "asyncmy", "cymysql", "mariadbconnector",
       "mysqlconnector", "pyodbc"]
     members :=
       ["json", "dml", "types", "enumerated", "expression", "reflection", "reserved_words"] },
   { name := "oracle"
     drivers := ["base", "cx_oracle", "oracledb", "oracledb_async"]
     members := membersWithout
         ["json", "dml", "insert", "Insert", "BOOLEAN", "DATETIME", "DECIMAL", "INTEGER", "JSON",
          "NUMERIC", "SMALLINT", "TEXT", "TIME"] ++
       ["BFILE", "BINARY_DOUBLE", "BINARY_FLOAT", "CLOB", "DOUBLE_PRECISION", "INTERVAL", "LONG",
        "NCHAR", "NCLOB", "NUMBER", "NVARCHAR", "NVARCHAR2", "RAW", "ROWID", "VARCHAR2",
        "dictionary"] },
   { name := "mssql"
     drivers := ["base", "pyodbc", "pymssql", "aioodbc"]
     members := membersWithout ["dml", "types", "insert", "Insert", "BLOB", "BOOLEAN"] ++
       ["BIGINT", "BINARY", "BIT", "DATETIME2", "DATETIMEOFFSET", "DOUBLE_PRECISION", "IMAGE",
        "MONEY", "NCHAR", "NTEXT", "NVARCHAR", "ROWVERSION", "SMALLDATETIME", "SMALLMONEY",
        "SQL_VARIANT", "TINYINT", "UNIQUEIDENTIFIER", "VARBINARY", "XML", "information_schema"] }]

def ofName? (name : String) : Option Dialect := all.find? fun d => d.name == name

def checkDriver (d : Dialect) (driver : String) : Except AddressFault Unit :=
  if d.drivers.contains driver then
    if d.name == file.name && builtinDrivers.contains driver then .ok () else .error .missingDriver
  else if d.members.contains driver then .error .notDriver
  else .error .unknownDialect

/-- Accepts the scheme of an address whose database can be opened. -/
def checkScheme (scheme : List String) : Except AddressFault Unit :=
  match scheme with
  | [name] =>
    match ofName? name with
    | some d => d.checkDriver "base"
    | none => .error .unknownDialect
  | [name, driver] =>
    match ofName? name with
    | some d => d.checkDriver driver
    | none => .error .unknownDialect
  | _ => .error .manyDrivers

end Dialect
end DependencyGate.History
