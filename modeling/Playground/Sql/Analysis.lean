import Playground.Sql.Scan

/-! What the statements of a SQL script do, by their leading keywords, and what is wrong with them. -/
namespace Playground.Sql

inductive Operation where
  | select | insert | update | delete | create | drop | unknown
  deriving DecidableEq, Repr

namespace Operation

def ofKeyword : String → Operation
  | "SELECT" | "WITH" => .select
  | "INSERT" => .insert
  | "UPDATE" => .update
  | "DELETE" => .delete
  | "CREATE" => .create
  | "DROP" => .drop
  | _ => .unknown

def name : Operation → String
  | .select => "SELECT"
  | .insert => "INSERT"
  | .update => "UPDATE"
  | .delete => "DELETE"
  | .create => "CREATE"
  | .drop => "DROP"
  | .unknown => "UNKNOWN"

def description : Operation → String
  | .select => "SELECT - Query data"
  | .insert => "INSERT - Add data"
  | .update => "UPDATE - Modify data"
  | .delete => "DELETE - Remove data"
  | .create => "CREATE - Create table/database"
  | .drop => "DROP - Delete table/database"
  | .unknown => "Unknown"

end Operation

def keyword (statement : List Char) : List Char :=
  Text.dropEndWhile (· == '(') (statement.takeWhile (!Text.isBlank ·))

def operation (statement : List Char) : Operation :=
  .ofKeyword (String.ofList (Text.upperAscii (keyword statement)))

def words (statement : List Char) : List (List Char) :=
  statement.splitOnP (!Text.isIdentifierChar ·)

def hasWord (statement : List Char) (word : String) : Bool :=
  (words statement).any fun w => Text.upperAscii w == word.toList

def missesFrom (statement : List Char) : Bool :=
  operation statement == .select && !hasWord statement "FROM"

structure Analysis where
  operations : List Operation
  issues : List String
  deriving DecidableEq, Repr

def fromIssues (statements : List (List Char)) : List String :=
  let numbered := statements.length > 1
  (statements.zipIdx 1).filterMap fun (statement,number) =>
    if missesFrom statement then
      some (if numbered then s!"SELECT statement missing FROM clause (statement {number})"
        else "SELECT statement missing FROM clause")
    else none

def analyze (source : List Char) : Analysis :=
  let statements := statements source
  let operations := statements.map operation
  let issues := fromIssues statements
  { operations
    issues :=
      if operations.all (· == .unknown) then "No valid SQL command detected" :: issues
      else issues }

def Analysis.distinctOperations (analysis : Analysis) : List Operation :=
  let seen := analysis.operations.foldl (fun seen op => if seen.contains op then seen else seen ++ [op]) []
  if seen.isEmpty then [.unknown] else seen

end Playground.Sql
