import RightsStore.Backend.Members
import RightsStore.DatabaseUrl

namespace RightsStore

inductive Backend
  | sqlite
  | postgresql
  | mysql
  | mariadb
  | oracle
  | mssql
  deriving DecidableEq, Repr

inductive BackendFault
  | unknown (name : List Char)
  | overlong
  | noDriver (m : Member)
  | missingPackage (name : String)
  deriving DecidableEq, Repr

def BackendFault.message : BackendFault → String
  | .unknown name => "Can't load plugin: sqlalchemy.dialects:" ++ .ofList name
  | .overlong => "too many values to unpack (expected 2)"
  | .noDriver m => m.complaint
  | .missingPackage name => s!"No module named '{name}'"

namespace Backend

def all : List Backend := [.sqlite, .postgresql, .mysql, .mariadb, .oracle, .mssql]

def name : Backend → String
  | .sqlite => "sqlite"
  | .postgresql => "postgresql"
  | .mysql => "mysql"
  | .mariadb => "mariadb"
  | .oracle => "oracle"
  | .mssql => "mssql"

def mysqlDrivers : List (String × Option String) := [
  ("base", some "MySQLdb"), ("mysqldb", some "MySQLdb"), ("pymysql", some "pymysql"),
  ("mysqlconnector", some "mysql"), ("mariadbconnector", some "mariadb"),
  ("aiomysql", some "aiomysql"), ("asyncmy", some "asyncmy"), ("cymysql", some "cymysql"),
  ("pyodbc", some "pyodbc")]

/-- The drivers, each with the package that it needs; `base` stands for the one that is used when
none is named. -/
def drivers : Backend → List (String × Option String)
  | .sqlite => [("base", none), ("pysqlite", none), ("aiosqlite", some "aiosqlite"),
      ("pysqlcipher", some "pysqlcipher3")]
  | .postgresql => [("base", some "psycopg"), ("psycopg", some "psycopg"),
      ("psycopg_async", some "psycopg"), ("psycopg2", some "psycopg2"),
      ("psycopg2cffi", some "psycopg2cffi"),
      ("asyncpg", some "asyncpg"), ("pg8000", some "pg8000")]
  | .mysql => mysqlDrivers
  | .mariadb => mysqlDrivers
  | .oracle => [("base", some "oracledb"), ("oracledb", some "oracledb"),
      ("oracledb_async", some "oracledb"), ("cx_oracle", some "cx_Oracle")]
  | .mssql => [("base", some "pyodbc"), ("pyodbc", some "pyodbc"), ("pymssql", some "pymssql"),
      ("aioodbc", some "aioodbc"), ("mssqlpython", some "mssql_python")]

def members : Backend → List (String × Member)
  | .sqlite => Member.sqlite
  | .postgresql => Member.postgresql
  | .mysql => Member.mysql
  | .mariadb => Member.mariadb
  | .oracle => Member.oracle
  | .mssql => Member.mssql

def driver? (packages : List String) (b : Backend) (name : String) :
    Option (Except BackendFault Unit) :=
  match b.drivers.lookup name with
  | some none => some (.ok ())
  | some (some package) =>
    some (if packages.contains package then .ok () else .error (.missingPackage package))
  | none => (b.members.lookup name).map fun m => .error (.noDriver m)

def find? (packages : List String) (name driver : String) :
    Option (Except BackendFault Backend) :=
  match Member.beside.lookup name with
  | some members => (members.lookup driver).map fun m => .error (.noDriver m)
  | none =>
    match all.find? (·.name = name) with
    | none => none
    | some b => (b.driver? packages driver).map fun found => found.map fun _ => b

def ofUrl (packages : List String) (url : DatabaseUrl) : Except BackendFault Backend :=
  let (name, driver) := url.parts
  let driver := driver.getD "base".toList
  if driver.contains '+' then .error .overlong
  else
    (find? packages (.ofList name) (.ofList driver)).getD
      (.error (.unknown (url.driverName.map fun c => if c = '+' then '.' else c)))

end Backend

end RightsStore
