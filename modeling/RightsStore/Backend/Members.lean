namespace RightsStore

/-- A name that is no driver's. An enumeration repeats only what it was asked for. -/
inductive Member
  | part (name : String)
  | type (name : String)
  | value (kind : String)
  | enumeration
  deriving DecidableEq, Repr

namespace Member

def complaint : Member → String
  | .part name => s!"module '{name}' has no attribute 'dialect'"
  | .type name => s!"type object '{name}' has no attribute 'dialect'"
  | .value kind => s!"'{kind}' object has no attribute 'dialect'"
  | .enumeration => "dialect"

def function : Member := .value "function"

def typesNamed (names : List String) : List (String × Member) := names.map fun n => (n, .type n)

def functionsNamed (names : List String) : List (String × Member) := names.map ((·, function))

def partsNamed (package : String) (names : List String) : List (String × Member) :=
  names.map fun n => (n, .part (package ++ "." ++ n))

def operations : List (String × Member) :=
  (["__delattr__", "__eq__", "__ge__", "__getattribute__", "__gt__", "__hash__", "__init__",
    "__le__", "__lt__", "__ne__", "__repr__", "__setattr__", "__str__"].map
    ((·, .value "method-wrapper"))) ++
  ["__dir__", "__format__", "__getstate__", "__init_subclass__", "__new__", "__reduce__",
    "__reduce_ex__", "__sizeof__", "__subclasshook__"].map
    ((·, .value "builtin_function_or_method"))

def description : List (String × Member) := [
  ("__name__", .value "str"), ("__doc__", .value "NoneType"), ("__package__", .value "str"),
  ("__loader__", .value "SourceFileLoader"), ("__spec__", .value "ModuleSpec"),
  ("__file__", .value "str"), ("__cached__", .value "str"), ("__builtins__", .value "dict"),
  ("__annotations__", .value "dict"), ("__dict__", .value "dict"), ("__class__", .type "module")]

def common : List (String × Member) :=
  ("__path__", .value "list") :: ("__all__", .value "tuple") :: description ++ operations

def sqlite : List (String × Member) :=
  partsNamed "sqlalchemy.dialects.sqlite" ["json", "dml"] ++
  typesNamed ["BLOB", "BOOLEAN", "CHAR", "DATE", "DATETIME", "DECIMAL", "FLOAT", "INTEGER", "JSON",
    "JSONB", "NUMERIC", "REAL", "SMALLINT", "TEXT", "TIME", "TIMESTAMP", "VARCHAR", "Insert"] ++
  functionsNamed ["insert"] ++ [("dialect", .type "SQLiteDialect_pysqlite")] ++ common

def rangeTypes : List (String × Member) := typesNamed ["AbstractMultiRange", "AbstractRange",
  "AbstractSingleRange", "DATEMULTIRANGE", "DATERANGE", "INT4MULTIRANGE", "INT4RANGE",
  "INT8MULTIRANGE", "INT8RANGE", "MultiRange", "NUMMULTIRANGE", "NUMRANGE", "Range", "TSMULTIRANGE",
  "TSRANGE", "TSTZMULTIRANGE", "TSTZRANGE"]

def searchTypes : List (String × Member) := typesNamed ["phraseto_tsquery", "plainto_tsquery",
  "to_tsquery", "to_tsvector", "ts_headline", "websearch_to_tsquery"]

def postgresql : List (String × Member) :=
  partsNamed "sqlalchemy.dialects.postgresql" ["_psycopg_common", "bitstring", "dml", "ext", "json",
    "named_types", "operators", "pg_catalog", "ranges", "types"] ++
  [("arraylib", .part "sqlalchemy.dialects.postgresql.array"), ("ModuleType", .type "module")] ++
  typesNamed ["ARRAY", "array", "BIGINT", "BIT", "BOOLEAN", "BYTEA", "BitString", "CHAR", "CIDR",
    "CITEXT", "CreateDomainType", "CreateEnumType", "DATE", "DOMAIN", "DOUBLE_PRECISION",
    "DropDomainType", "DropEnumType", "ENUM", "ExcludeConstraint", "FLOAT", "HSTORE", "hstore",
    "INET", "INTEGER", "INTERVAL", "JSON", "JSONB", "JSONPATH", "MACADDR", "MACADDR8", "MONEY",
    "NUMERIC", "NamedType", "OID", "REAL", "REGCLASS", "REGCONFIG", "SMALLINT", "TEXT", "TIME",
    "TIMESTAMP", "TSQUERY", "TSVECTOR", "UUID", "VARCHAR", "aggregate_order_by", "Insert"] ++
  rangeTypes ++ searchTypes ++
  functionsNamed ["All", "Any", "array_agg", "distinct_on", "insert"] ++
  [("dialect", .type "PGDialect_psycopg")] ++ common

def mysqlParts : List String := ["_mariadb_shim", "dml", "enumerated", "expression", "json",
  "mariadb", "reflection", "reserved_words", "types"]

def mysql : List (String × Member) :=
  partsNamed "sqlalchemy.dialects.mysql" mysqlParts ++
  typesNamed ["BIGINT", "BINARY", "BIT", "BLOB", "BOOLEAN", "CHAR", "DATE", "DATETIME", "DECIMAL",
    "DOUBLE", "ENUM", "FLOAT", "INET4", "INET6", "INTEGER", "JSON", "LONGBLOB", "LONGTEXT",
    "MEDIUMBLOB", "MEDIUMINT", "MEDIUMTEXT", "NCHAR", "NUMERIC", "NVARCHAR", "REAL", "SET",
    "SMALLINT", "TEXT", "TIME", "TIMESTAMP", "TINYBLOB", "TINYINT", "TINYTEXT", "VARBINARY",
    "VARCHAR", "YEAR", "Insert", "match"] ++
  functionsNamed ["insert", "limit"] ++ [("dialect", .type "MySQLDialect_mysqldb")] ++ common

def mariadb : List (String × Member) :=
  partsNamed "sqlalchemy.dialects.mysql" ("provision" :: mysqlParts)

def oracle : List (String × Member) :=
  partsNamed "sqlalchemy.dialects.oracle" ["dictionary", "json", "types", "vector"] ++
  typesNamed ["BFILE", "BINARY_DOUBLE", "BINARY_FLOAT", "BLOB", "BOOLEAN", "CHAR", "CLOB", "DATE",
    "DOUBLE_PRECISION", "FLOAT", "INTERVAL", "JSON", "LONG", "NCHAR", "NCLOB", "NUMBER", "NVARCHAR",
    "RAW", "REAL", "ROWID", "SparseVector", "TIMESTAMP", "VARCHAR", "VARCHAR2", "VECTOR",
    "VectorIndexConfig"] ++
  [("NVARCHAR2", .type "NVARCHAR"), ("ModuleType", .type "module")] ++
  ["VectorDistanceType", "VectorIndexType", "VectorStorageFormat", "VectorStorageType"].map
    ((·, .enumeration)) ++
  [("dialect", .type "OracleDialect_oracledb")] ++ common

def mssql : List (String × Member) :=
  partsNamed "sqlalchemy.dialects.mssql" ["information_schema", "json"] ++
  typesNamed ["BIGINT", "BINARY", "BIT", "CHAR", "DATE", "DATETIME", "DATETIME2", "DATETIMEOFFSET",
    "DECIMAL", "DOUBLE_PRECISION", "FLOAT", "IMAGE", "INTEGER", "JSON", "MONEY", "NCHAR", "NTEXT",
    "NUMERIC", "NVARCHAR", "REAL", "ROWVERSION", "SMALLDATETIME", "SMALLINT", "SMALLMONEY",
    "SQL_VARIANT", "TEXT", "TIME", "TIMESTAMP", "TINYINT", "UNIQUEIDENTIFIER", "VARBINARY",
    "VARCHAR", "XML"] ++
  functionsNamed ["try_cast"] ++ [("dialect", .type "MSDialect_pyodbc")] ++ common

def shared : List (String × Member) :=
  typesNamed ["Any", "Column", "ColumnCollection", "ColumnCollectionConstraint", "Index",
    "Iterable", "Mapping"] ++
  ["Optional", "Union", "_OnConflictConstraintT", "_OnConflictIndexElementsT",
    "_OnConflictIndexWhereT", "_OnConflictSetT", "_OnConflictWhereT"].map ((·, .enumeration)) ++
  [("annotations", .value "_Feature"), ("roles", .part "sqlalchemy.sql.roles")] ++ description ++
  operations

def registry : List (String × Member) :=
  [("Any", .type "Any"), ("Callable", .type "Callable"), ("Type", .type "type"),
    ("Optional", .enumeration), ("TYPE_CHECKING", .value "bool"),
    ("annotations", .value "_Feature"), ("util", .part "sqlalchemy.util"), ("_auto_fn", function),
    ("registry", .value "PluginLoader"), ("plugins", .value "PluginLoader"),
    ("__all__", .value "tuple")] ++ description ++ operations

def directory : List (String × Member) :=
  [("__name__", .value "str"), ("__doc__", .value "NoneType"), ("__package__", .value "str"),
    ("__loader__", .value "NamespaceLoader"), ("__spec__", .value "ModuleSpec"),
    ("__path__", .value "_NamespacePath"), ("__file__", .value "NoneType"),
    ("__annotations__", .value "dict"), ("__dict__", .value "dict"),
    ("__class__", .type "module")] ++ operations

def beside : List (String × List (String × Member)) :=
  [("_typing", shared), ("__init__", registry), ("__pycache__", directory)]

end Member

end RightsStore
