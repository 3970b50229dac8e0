/-! Words that cannot stand bare as a name: reserved words and the names of types and functions. -/
namespace TypoSearch.Sql

def keywords : List String := [
  "all", "analyse", "analyze", "and", "any", "array", "as", "asc", "asymmetric", "authorization",
  "between", "bigint", "binary", "bit", "boolean", "both", "case", "cast", "char", "character",
  "check", "coalesce", "collate", "collation", "column", "concurrently", "constraint", "create",
  "cross", "current_catalog", "current_date", "current_role", "current_schema", "current_time",
  "current_timestamp", "current_user", "dec", "decimal", "default", "deferrable", "desc",
  "distinct", "do", "else", "end", "except", "exists", "extract", "false", "fetch", "float", "for",
  "foreign", "freeze", "from", "full", "grant", "greatest", "group", "grouping", "having", "ilike",
  "in", "initially", "inner", "inout", "int", "integer", "intersect", "interval", "into", "is",
  "isnull", "join", "json", "lateral", "leading", "least", "left", "like", "limit", "localtime",
  "localtimestamp", "national", "natural", "nchar", "none", "normalize", "not", "notnull", "null",
  "nullif", "numeric", "offset", "on", "only", "or", "order", "out", "outer", "overlaps", "overlay",
  "placing", "position", "precision", "primary", "real", "references", "returning", "right", "row",
  "select", "session_user", "setof", "similar", "smallint", "some", "substring", "symmetric",
  "system_user", "table", "tablesample", "then", "time", "timestamp", "to", "trailing", "treat",
  "trim", "true", "union", "unique", "user", "using", "values", "varchar", "variadic", "verbose",
  "when", "where", "window", "with", "xmlattributes", "xmlconcat", "xmlelement", "xmlexists",
  "xmlforest", "xmlnamespaces", "xmlparse", "xmlpi", "xmlroot", "xmlserialize", "xmltable"]

end TypoSearch.Sql
