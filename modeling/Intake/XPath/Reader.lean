import Intake.XPath.Error
import Intake.XPath.Expression
import Intake.XPath.Number
import Intake.Xml.Scan

/-! Reading path expressions. Operators bind in six ranks below those of signs, unions and paths,
and operators of one rank group to the left. A path that ends early, or goes on behind its end, is
no expression. -/

namespace Intake.XPath

/-- An expression and the text behind it. -/
abbrev Outcome := Except Error (Expr × List Char)

/-- The text behind blanks. -/
def skip (s : List Char) : List Char := Xml.skipSpaces s

/-- Operators as they are written, by rank; the longer of two that begin alike comes first. -/
def operators : List (List (String × Operator)) :=
  [[("or", .or)], [("and", .and)], [("=", .equal), ("!=", .unequal)],
    [("<=", .atMost), ("<", .less), (">=", .atLeast), (">", .greater)],
    [("+", .plus), ("-", .minus)], [("*", .times), ("div", .quotient), ("mod", .remainder)]]

/-- The operator of a rank at the beginning of a text. -/
def operator? (rank : Nat) (s : List Char) : Option (Operator × List Char) :=
  (operators.getD rank []).findSome? fun (text, op) => (Xml.expect? text s).map (op, ·)

/-- Names that mean a kind of nodes when a parenthesis follows. -/
def nodeKinds : List String := ["comment", "text", "processing-instruction", "node"]

/-- Whether a path step, and not a primary expression, begins here; nothing if neither does. -/
def beginsStep? (s : List Char) : Option Bool :=
  match s with
  | [] => none
  | c :: rest =>
    if c = '$' || c = '(' || c.isDigit || c = '\'' || c = '"' then some false
    else if c = '.' then some (!(rest.head?.map Char.isDigit).getD false)
    else if c = '*' || c = '/' || c = '@' then some true
    else
      match Xml.looseName? s with
      | none => none
      | some (name, rest) =>
        if (skip rest).head? = some '(' then
          some (nodeKinds.contains name || (Text.cut ':' name.toList).2.any (·.head? == some ':'))
        else some true

/-- A literal between marks. -/
def literal (s : List Char) : Except Error (String × List Char) :=
  match s with
  | mark :: rest =>
    if mark = '"' || mark = '\'' then
      match rest.dropWhile (· != mark) with
      | _ :: after => .ok (String.ofList (rest.takeWhile (· != mark)), after)
      | [] => .error .unfinishedLiteral
    else .error .literalExpected
  | [] => .error .literalExpected

/-- A test on the kind of nodes, behind its name and opening parenthesis. -/
def kindTest (name : String) (s : List Char) : Except Error (NodeTest × List Char) := do
  let s := skip s
  let (test, s) ← match name with
    | "comment" => pure (NodeTest.comment, s)
    | "node" => pure (.node, s)
    | "text" => pure (.text, s)
    | "processing-instruction" =>
      if s.head? = some ')' then pure (.instruction none, s)
      else (literal s).map fun (target, s) => (.instruction (some target), skip s)
    | _ => .error .notAnExpression
  match s with
  | ')' :: rest => return (test, rest)
  | _ => .error .unclosed

/-- A node test whose name has been read already. -/
def namedTest (name : String) (s : List Char) : Except Error (NodeTest × List Char) :=
  match skip s, s with
  | '(' :: rest, _ => kindTest name rest
  | _, ':' :: '*' :: rest => .ok (.any (some name), rest)
  | _, ':' :: rest =>
    match Xml.plainName? rest with
    | some (localName, rest) => .ok (.named (some name) localName, rest)
    | none => .error .notAnExpression
  | rest, _ => .ok (.named none name, rest)

def nodeTest (s : List Char) : Except Error (NodeTest × List Char) :=
  match skip s with
  | '*' :: rest => .ok (.any none, rest)
  | s =>
    match Xml.plainName? s with
    | some (name, rest) => namedTest name rest
    | none => .error .notAnExpression

/-- An axis and a node test, both as they may be abbreviated. -/
def axisAndTest (s : List Char) : Except Error (Axis × NodeTest × List Char) :=
  match s with
  | '*' :: rest => .ok (.child, .any none, rest)
  | '@' :: rest => (nodeTest rest).map fun (test, rest) => (.attribute, test, rest)
  | s =>
    match Xml.plainName? s with
    | none => (nodeTest s).map fun (test, rest) => (.child, test, rest)
    | some (name, rest) =>
      match Axis.ofName? name, skip rest with
      | some axis, ':' :: ':' :: rest =>
        (nodeTest rest).map fun (test, rest) => (axis, test, rest)
      | some _, after => (namedTest name after).map fun (test, rest) => (.child, test, rest)
      | none, _ => (namedTest name rest).map fun (test, rest) => (.child, test, rest)

/-- Whether a step may follow a single slash at the beginning of a path. -/
def followsSlash (s : List Char) : Bool :=
  match s with
  | c :: _ => c.isAlpha || c == '_' || c == '.' || c == '@' || c == '*'
  | [] => false

mutual

/-- An expression of operators from a rank on. Every reader here spends `fuel` on each reader it
calls. -/
def readRank : Nat → Nat → List Char → Outcome
  | 0, _, _ => .error .notAnExpression
  | fuel + 1, rank, s =>
    if 6 ≤ rank then readSigned fuel s
    else
      match readRank fuel (rank + 1) s with
      | .ok (left, s) => readMore fuel rank left (skip s)
      | .error e => .error e

/-- The operators and operands that follow a left operand. -/
def readMore : Nat → Nat → Expr → List Char → Outcome
  | 0, _, _, _ => .error .notAnExpression
  | fuel + 1, rank, left, s =>
    match operator? rank s with
    | none => .ok (left, s)
    | some (op, s) =>
      match readRank fuel (rank + 1) (skip s) with
      | .ok (right, s) => readMore fuel rank (.binary op left right) (skip s)
      | .error e => .error e

/-- A union with signs in front. -/
def readSigned : Nat → List Char → Outcome
  | 0, _ => .error .notAnExpression
  | fuel + 1, s =>
    match skip s with
    | '-' :: rest =>
      match readSigned fuel rest with
      | .ok (.negated e, s) => .ok (.numeric e, s)
      | .ok (.numeric e, s) => .ok (.negated e, s)
      | .ok (e, s) => .ok (.negated e, s)
      | .error e => .error e
    | s =>
      match readPath fuel s with
      | .ok (left, s) => readUnion fuel left (skip s)
      | .error e => .error e

/-- The paths that follow a left member of a union. -/
def readUnion : Nat → Expr → List Char → Outcome
  | 0, _, _ => .error .notAnExpression
  | fuel + 1, left, s =>
    match s with
    | '|' :: rest =>
      match readPath fuel (skip rest) with
      | .ok (right, s) => readUnion fuel (.binary .union left right) (skip s)
      | .error e => .error e
    | s => .ok (left, s)

/-- A location path, or a primary expression with predicates and steps behind it. -/
def readPath : Nat → List Char → Outcome
  | 0, _ => .error .notAnExpression
  | fuel + 1, s =>
    let s := skip s
    match beginsStep? s with
    | none => .error .notAnExpression
    | some true =>
      if s.head? = some '/' then readAbsolute fuel .root s else readSteps fuel .context s
    | some false =>
      match readPrimary fuel s with
      | .error e => .error e
      | .ok (e, s) =>
        match readFilters fuel e (skip s) with
        | .error e => .error e
        | .ok (e, '/' :: '/' :: rest) => readSteps fuel e.anywhere (skip rest)
        | .ok (e, '/' :: rest) => readSteps fuel e ('/' :: rest)
        | .ok (e, s) => .ok (e, s)

/-- A path that begins with slashes. -/
def readAbsolute : Nat → Expr → List Char → Outcome
  | 0, _, _ => .error .notAnExpression
  | fuel + 1, start, s =>
    let next : Outcome :=
      match s with
      | '/' :: '/' :: rest => readSteps fuel start.anywhere (skip rest)
      | _ :: rest =>
        let rest := skip rest
        if followsSlash rest then readSteps fuel start rest else .ok (start, rest)
      | [] => .ok (start, [])
    match next with
    | .ok (e, '/' :: rest) => readAbsolute fuel e ('/' :: rest)
    | result => result

/-- Steps between slashes, which may begin with slashes themselves. -/
def readSteps : Nat → Expr → List Char → Outcome
  | 0, _, _ => .error .notAnExpression
  | fuel + 1, start, s =>
    let (start, s) := match skip s with
      | '/' :: '/' :: rest => (start.anywhere, skip rest)
      | '/' :: rest => (start, skip rest)
      | s => (start, s)
    match readStep fuel start s with
    | .error e => .error e
    | .ok (e, s) =>
      match skip s with
      | '/' :: rest => readSteps fuel e ('/' :: rest)
      | s => .ok (e, s)

def readStep : Nat → Expr → List Char → Outcome
  | 0, _, _ => .error .notAnExpression
  | fuel + 1, start, s =>
    match skip s with
    | '.' :: '.' :: rest => .ok (.step start .parent .node [], skip rest)
    | '.' :: rest => .ok (start, skip rest)
    | s =>
      match axisAndTest s with
      | .error e => .error e
      | .ok (axis, test, s) =>
        match readPredicates fuel [] (skip s) with
        | .ok (predicates, s) => .ok (.step start axis test predicates, s)
        | .error e => .error e

/-- Predicates, reversed so far. -/
def readPredicates : Nat → List Expr → List Char → Except Error (List Expr × List Char)
  | 0, _, _ => .error .notAnExpression
  | fuel + 1, taken, s =>
    match s with
    | '[' :: rest =>
      match readRank fuel 0 (skip rest) with
      | .error e => .error e
      | .ok (e, ']' :: rest) => readPredicates fuel (e :: taken) (skip rest)
      | .ok _ => .error .openPredicate
    | s => .ok (taken.reverse, s)

/-- The predicates behind a primary expression. -/
def readFilters : Nat → Expr → List Char → Outcome
  | 0, _, _ => .error .notAnExpression
  | fuel + 1, e, s =>
    match readPredicates fuel [] s with
    | .ok (predicates, s) => .ok (predicates.foldl .filtered e, s)
    | .error e => .error e

/-- A variable, a number, a literal, a call, or an expression between parentheses. -/
def readPrimary : Nat → List Char → Outcome
  | 0, _ => .error .notAnExpression
  | fuel + 1, s =>
    match s with
    | '$' :: rest =>
      match Xml.writtenName? rest with
      | some (name, rest) => .ok (.variable name.qualifier name.localName, rest)
      | none => .error .variableExpected
    | '(' :: rest =>
      match readRank fuel 0 (skip rest) with
      | .error e => .error e
      | .ok (e, ')' :: rest) => .ok (e, rest)
      | .ok _ => .error .notAnExpression
    | c :: rest =>
      if c = '\'' || c = '"' then (literal (c :: rest)).map fun (text, s) => (.literal text, s)
      else
        match unsignedNumber? (c :: rest) with
        | some (x, rest) => .ok (.number x, rest)
        | none =>
          match Xml.writtenName? (c :: rest) with
          | none => .error .notAnExpression
          | some (name, rest) =>
            match skip rest with
            | '(' :: rest =>
              match readArguments fuel [] (skip rest) with
              | .ok (arguments, s) => .ok (.call name.qualifier name.localName arguments, s)
              | .error e => .error e
            | _ => .error .notAnExpression
    | [] => .error .notAnExpression

/-- The arguments of a call, reversed so far, and the closing parenthesis; the end of the path
closes them too where an argument could begin. -/
def readArguments : Nat → List Expr → List Char → Except Error (List Expr × List Char)
  | 0, _, _ => .error .notAnExpression
  | fuel + 1, taken, s =>
    match s with
    | [] => .ok (taken.reverse, [])
    | s =>
      if taken.isEmpty && s.head? = some ')' then .ok ([], s.drop 1)
      else
        match readRank fuel 0 s with
        | .error e => .error e
        | .ok (e, ')' :: rest) => .ok ((e :: taken).reverse, rest)
        | .ok (e, ',' :: rest) => readArguments fuel (e :: taken) (skip rest)
        | .ok _ => .error .notAnExpression

end

def Expr.read (path : String) : Except Error Expr :=
  let s := path.toList
  match readRank (16 * s.length + 32) 0 (skip s) with
  | .ok (e, []) => .ok e
  | .ok _ => .error .notAnExpression
  | .error e => .error e

end Intake.XPath
