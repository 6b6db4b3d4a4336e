import Intake.Problem
import Intake.Settings.Basic
import Intake.Text.Quoted
import Intake.Text.Letter

/-! Addresses of databases: a dialect, perhaps a user, a host and a port, the name of the database,
and options. Only databases in files and in memory can be reached; they have no host and no user. -/

namespace Intake

/-- An address. -/
structure Address where
  dialect : String
  user : Option String := none
  password : Option String := none
  host : Option String := none
  port : Option Int := none
  database : Option String := none
  options : List (String × String) := []
  deriving DecidableEq, Repr

namespace Address

/-- Why an address leads to no database. -/
inductive Refusal where
  | unparsable
  | unreadablePort (text : String)
  | emptyPort
  | unknownDialect (name : String)
  /-- The dialect needs a part that is not there. -/
  | missingDriver (name : String)
  /-- The database is not in a file or in memory. -/
  | misplaced (address : String)
  deriving DecidableEq, Repr

def Refusal.message : Refusal → String
  | unparsable => "Could not parse SQLAlchemy URL from given URL string"
  | unreadablePort text => "invalid literal for int() with base 10: " ++ Text.quote text
  | emptyPort => "Port argument must be an integer or None"
  | unknownDialect name => "Can't load plugin: sqlalchemy.dialects:" ++ name
  | missingDriver name => "No module named " ++ Text.quote name
  | misplaced address =>
    "Invalid SQLite URL: " ++ address ++ "\nValid SQLite URL forms are " ++
      "sqlite:///:memory: or sqlite:////absolute/path/to/file.db"

/-- What is reported of a refusal; some are nothing to report but end the program. -/
def Refusal.problem? : Refusal → Option Problem
  | emptyPort | missingDriver _ => none
  | r => some (.database (some ("Database engine creation failed: " ++ r.message))
      (some "create_engine") [])

/-! ### Reading -/

/-- What stands in front of the last `c`, and what stands behind it. -/
def cutLast (c : Char) (s : List Char) : Option (List Char × List Char) :=
  match s.reverse.span (· != c) with
  | (_, []) => none
  | (behind, _ :: front) => some (front.reverse, behind.reverse)

/-- The dialect, and what stands behind it. -/
def readDialect? (s : List Char) : Option (List Char × List Char) :=
  let (name, rest) := s.span fun c => Text.isWordChar c || c == '+'
  if name.isEmpty then none
  else (Text.dropStart? "://".toList rest).map fun rest => (name, rest)

/-- The user and the password, if there are any, and what stands behind them. -/
def readUser (s : List Char) : Option (List Char) × Option (List Char) × List Char :=
  let (run, rest) := s.span fun c => c != ':' && c != '/'
  let withoutPassword : Option (List Char) × Option (List Char) × List Char :=
    match cutLast '@' run with
    | some (user, behind) => (some user, none, behind ++ rest)
    | none => (none, none, s)
  match rest with
  | ':' :: rest =>
    match rest.span (· != '@') with
    | (password, '@' :: behind) => (some run, some password, behind)
    | _ => withoutPassword
  | _ => withoutPassword

/-- The host, if there is one, and what stands behind it. A host in brackets may hold colons. -/
def readHost (s : List Char) : Option (List Char) × List Char :=
  let plain : Option (List Char) × List Char :=
    match s.span fun c => c != '/' && c != ':' && c != '?' with
    | ([], rest) => (none, rest)
    | (host, rest) => (some host, rest)
  match s with
  | '[' :: rest =>
    let (run, behind) := rest.span fun c => c != '/' && c != '?'
    match cutLast ']' run with
    | some (c :: host, tail) => (some (c :: host), tail ++ behind)
    | _ => plain
  | _ => plain

/-- The port, if there is one, and what stands behind it. -/
def readPort : List Char → Option (List Char) × List Char
  | ':' :: rest =>
    let (port, rest) := rest.span fun c => c != '/' && c != '?'
    (some port, rest)
  | rest => (none, rest)

/-- The name of the database, if there is one, and what stands behind it. -/
def readDatabase : List Char → Option (List Char) × List Char
  | '/' :: rest =>
    let (name, rest) := rest.span (· != '?')
    (some name, rest)
  | rest => (none, rest)

/-- An option, if it has a value. -/
def readOption? (s : List Char) : Option (String × String) :=
  let plain (s : List Char) : String :=
    String.ofList (Text.percentDecoded (s.map fun c => if c = '+' then ' ' else c))
  match Text.cut '=' s with
  | (_, none) => none
  | (_, some []) => none
  | (name, some value) => some (plain name, plain value)

def readOptions : List Char → List (String × String)
  | '?' :: rest => (Text.pieces '&' (rest.takeWhile (· != '\n'))).filterMap readOption?
  | _ => []

def portNumber (port : Option (List Char)) : Except Refusal (Option Int) :=
  match port with
  | none => .ok none
  | some [] => .error .emptyPort
  | some digits =>
    match Number.count? digits with
    | some n => .ok (some n)
    | none => .error (.unreadablePort (String.ofList digits))

def read (s : String) : Except Refusal Address :=
  match readDialect? s.toList with
  | none => .error .unparsable
  | some (dialect, rest) => do
    let (user, password, rest) := readUser rest
    let (host, rest) := readHost rest
    let (port, rest) := readPort rest
    let (database, rest) := readDatabase rest
    let decoded (s : List Char) : String := String.ofList (Text.percentDecoded s)
    return {
      dialect := String.ofList dialect
      user := user.map decoded
      password := password.map decoded
      host := host.map String.ofList
      port := ← portNumber port
      database := database.map String.ofList
      options := readOptions rest }

/-! ### Writing -/

def userText (a : Address) (hidesPassword : Bool) : String :=
  let encoded (s : String) : String :=
    let isPlain (c : Char) : Bool := Text.isUnreserved c || c == ' ' || c == '+'
    String.ofList (Text.percentEncoded isPlain s.toList)
  match a.user with
  | none => ""
  | some user =>
    let password := a.password.map fun p => ":" ++ if hidesPassword then "***" else encoded p
    encoded user ++ password.getD "" ++ "@"

def hostText (a : Address) : String :=
  let host := a.host.map fun h => if h.toList.contains ':' then "[" ++ h ++ "]" else h
  host.getD "" ++ ((a.port.map fun p => ":" ++ toString p).getD "")

/-- The options, in the order of their names. -/
def optionsText (a : Address) : String :=
  let encoded (s : String) : List Char :=
    (Text.percentEncoded (fun c => Text.isUnreserved c || c == ' ') s.toList).map fun c =>
      if c = ' ' then '+' else c
  let sorted := a.options.mergeSort fun x y => decide (x.1 ≤ y.1)
  let texts := sorted.map fun (name, value) => encoded name ++ '=' :: encoded value
  if texts.isEmpty then "" else String.ofList ('?' :: Text.joined ['&'] texts)

def text (a : Address) (hidesPassword : Bool) : String :=
  a.dialect ++ "://" ++ a.userText hidesPassword ++ a.hostText ++
    ((a.database.map ("/" ++ ·)).getD "") ++ a.optionsText

/-! ### Reaching the database -/

/-- The part that a dialect needs, if it needs one, provided that the dialect is known. -/
def driver? : String → Option (Option String)
  | "sqlite" | "sqlite+pysqlite" => some none
  | "postgresql" | "postgresql+psycopg2" => some (some "psycopg2")
  | "mysql" | "mysql+mysqldb" | "mariadb" | "mariadb+mysqldb" => some (some "MySQLdb")
  | "oracle" | "oracle+cx_oracle" => some (some "cx_Oracle")
  | "mssql" | "mssql+pyodbc" => some (some "pyodbc")
  | _ => none

/-- Whether the address names a host or a user. -/
def isRemote (a : Address) : Bool :=
  a.user.any (!·.isEmpty) || a.password.any (!·.isEmpty) || a.host.any (!·.isEmpty) ||
    a.port.any (· != 0)

/-- The address with all that a database in a file or in memory needs. -/
def check (a : Address) : Except Refusal Address :=
  match driver? a.dialect with
  | none => .error (.unknownDialect (a.dialect.map fun c => if c = '+' then '.' else c))
  | some (some name) => .error (.missingDriver name)
  | some none => if a.isRemote then .error (.misplaced (a.text false)) else .ok a

/-- The address that the settings name. -/
def ofSettings (s : DatabaseSettings) : Except Refusal Address := do
  check (← read s.url)

/-- The path of the file that holds the database; there is none if it is in memory. -/
def path? (a : Address) : Option String := a.database.filter fun d => d != "" && d != ":memory:"

end Address

namespace DatabaseSettings

/-- Whether the database is in a file or in memory. -/
def isLocal (s : DatabaseSettings) : Bool := (Text.dropStart? "sqlite".toList s.url.toList).isSome

/-- Whether all sessions share one connection. -/
def isShared (s : DatabaseSettings) : Bool :=
  s.isLocal && (Text.occursIn ":memory:".toList s.url.toList || s.url == "sqlite://" ||
    s.url == "sqlite:///")

end DatabaseSettings

end Intake
