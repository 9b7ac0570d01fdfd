/-!
# Identifiers in statement text

A name is written as it is when the store reads it back unchanged, and between double
quotes otherwise.  A double quote inside a quoted name is written twice.
-/

namespace InstanceDirectory
namespace Identifier

/-- Words that the store does not take for names unless they are quoted. -/
def reservedWords : List String := [
    "all", "analyse", "analyze", "and", "any", "array", "as", "asc", "asymmetric",
    "authorization", "between", "binary", "both", "case", "cast", "check", "collate", "column",
    "constraint", "create", "cross", "current_catalog", "current_date", "current_role",
    "current_schema", "current_time", "current_timestamp", "current_user", "default",
    "deferrable", "desc", "distinct", "do", "else", "end", "except", "false", "fetch", "for",
    "foreign", "freeze", "from", "full", "grant", "group", "having", "ilike", "in", "initially",
    "inner", "intersect", "into", "is", "isnull", "join", "leading", "left", "like", "limit",
    "localtime", "localtimestamp", "natural", "new", "not", "notnull", "null", "of", "off",
    "offset", "old", "on", "only", "or", "order", "outer", "over", "overlaps", "placing",
    "primary", "references", "returning", "right", "select", "session_user", "similar", "some",
    "symmetric", "table", "then", "to", "trailing", "true", "union", "unique", "user", "using",
    "variadic", "verbose", "when", "where", "window", "with"
  ]

/-- A character that a name may hold without being quoted, in either case of a letter. -/
def isLegal (c : Char) : Bool :=
  c.isAlphanum || c == '_' || c == '$' || c == '\u0130' || c == '\u0131' || c == '\u017F'
    || c == '\u212A'

/-- A legal character that has another form in lower case. -/
def isUpper (c : Char) : Bool :=
  c.isUpper || c == '\u0130' || c == '\u212A'

/-- A character that a name cannot begin with unless it is quoted. -/
def isIllegalStart (c : Char) : Bool :=
  c.isDigit || c == '$'

/-- A name without one line break at its end. -/
def withoutFinalBreak (name : List Char) : List Char :=
  if name.getLast? = some '\n' then name.dropLast else name

/-- Decide whether all characters are legal; a single line break at the end is tolerated. -/
def allLegal (name : List Char) : Bool :=
  let body := withoutFinalBreak name
  !body.isEmpty && body.all isLegal

/-- Decide whether a name has to be quoted. -/
def needsQuotes (name : String) : Bool :=
  let chars := name.toList
  chars.isEmpty || (chars.take 1).any isIllegalStart || !allLegal chars || chars.any isUpper
    || reservedWords.contains name

/-- A name between double quotes. -/
def quote (name : List Char) : List Char :=
  '"' :: name.flatMap (fun c => if c = '"' then ['"', '"'] else [c]) ++ ['"']

/-- A name as statement text. -/
def write (name : String) : String :=
  if needsQuotes name then String.ofList (quote name.toList) else name

end Identifier
end InstanceDirectory
