import Provision.Toml.Scalar
import Provision.Toml.Table

/-!
# Statements of a document

A document is a list of lines; each binds a key, names a table, adds a member to an array of tables,
or says nothing. Values may stand inside one another fewer than eighty deep, and keys have fewer than
eighty parts.
-/

namespace Provision.Toml

def nestingLimit : Nat := 80

def isBareKeyChar (c : Char) : Bool :=
  Text.isDigit c || Text.isLetter c || c = '-' || c = '_'

def readKeyPart (chars : List Char) : Option (String × List Char) :=
  match chars with
  | '"' :: rest => (readBasic rest).map fun read => (String.ofList read.1, read.2)
  | '\'' :: rest => (readLiteral rest).map fun read => (String.ofList read.1, read.2)
  | _ =>
      let bare := chars.takeWhile isBareKeyChar
      if bare.isEmpty then none else some (String.ofList bare, chars.dropWhile isBareKeyChar)

def readKeyParts : Nat → List Char → Option (List String × List Char)
  | 0, _ => none
  | parts + 1, chars =>
      match readKeyPart (skipBlanks chars) with
      | none => none
      | some (part, after) =>
          match skipBlanks after with
          | '.' :: rest =>
              (readKeyParts parts rest).map fun read => (part :: read.1, read.2)
          | rest => some ([part], rest)

/-- A key: the way to the table it is bound in, and its name there. -/
structure Key where
  path : List String
  name : String
  deriving DecidableEq

def readKey (chars : List Char) : Option (Key × List Char) :=
  match readKeyParts (nestingLimit - 1) chars with
  | some (parts, rest) => parts.getLast?.map fun name => (⟨parts.dropLast, name⟩, rest)
  | none => none

def skipComment : List Char → List Char
  | '#' :: rest => rest.dropWhile isPlain
  | chars => chars

/-- The rest after the end of a line, which is a line break or the end of the document. -/
def afterLine? (chars : List Char) : Option (List Char) :=
  match skipComment (skipBlanks chars) with
  | [] => some []
  | rest => afterNewline? rest

def skipGaps : Nat → List Char → List Char
  | 0, chars => chars
  | steps + 1, chars =>
      let rest := skipComment (skipBlanks chars)
      match afterNewline? rest with
      | some next => skipGaps steps next
      | none => skipBlanks chars

mutual

/-- Reads a value that stands inside `depth` others. -/
def readValue : Nat → Nat → List Char → Option (Value × List Char)
  | 0, _, _ => none
  | steps + 1, depth, chars =>
      match readText? chars with
      | some (content, rest) => some (.text (String.ofList content), rest)
      | none =>
          match chars with
          | '[' :: rest =>
              if depth + 1 < nestingLimit then
                (readElements steps (depth + 1) rest).map fun read => (.array read.1, read.2)
              else none
          | '\x7b' :: rest =>
              if depth + 1 < nestingLimit then
                match skipBlanks rest with
                | '\x7d' :: after => some (.table [], after)
                | inner =>
                    (readPairs steps (depth + 1) [] inner).map fun read =>
                      (.table (entryValues read.1), read.2)
              else none
          | _ => readScalar chars

def readElements : Nat → Nat → List Char → Option (List Value × List Char)
  | 0, _, _ => none
  | steps + 1, depth, chars =>
      match skipGaps chars.length chars with
      | ']' :: rest => some ([], rest)
      | inner =>
          match readValue steps depth inner with
          | none => none
          | some (element, after) =>
              match skipGaps after.length after with
              | ',' :: rest =>
                  (readElements steps depth rest).map fun read => (element :: read.1, read.2)
              | ']' :: rest => some ([element], rest)
              | _ => none

def readPairs : Nat → Nat → Entries → List Char → Option (Entries × List Char)
  | 0, _, _, _ => none
  | steps + 1, depth, entries, chars =>
      match readKey chars with
      | some (key, '=' :: after) =>
          match readValue steps depth (skipBlanks after) with
          | none => none
          | some (content, after) =>
              match entries.bind key.path key.name content with
              | none => none
              | some entries =>
                  match skipBlanks after with
                  | ',' :: rest => readPairs steps depth entries rest
                  | '\x7d' :: rest => some (entries, rest)
                  | _ => none
      | _ => none

end

/-- A line that says something: a key is bound, a table is named, or a member is added to an array of
tables. -/
inductive Statement where
  | bind (key : Key) (content : Value)
  | table (key : Key)
  | member (key : Key)

def readStatement (chars : List Char) : Option (Statement × List Char) :=
  match chars with
  | '[' :: '[' :: rest =>
      match readKey rest with
      | some (key, ']' :: ']' :: after) => (afterLine? after).map fun next => (.member key, next)
      | _ => none
  | '[' :: rest =>
      match readKey rest with
      | some (key, ']' :: after) => (afterLine? after).map fun next => (.table key, next)
      | _ => none
  | _ =>
      match readKey chars with
      | some (key, '=' :: after) =>
          match readValue (2 * after.length + 4) 0 (skipBlanks after) with
          | some (content, after) =>
              (afterLine? after).map fun next => (.bind key content, next)
          | none => none
      | _ => none

def readStatements : Nat → List Char → Option (List Statement)
  | 0, _ => none
  | lines + 1, chars =>
      match skipBlanks chars with
      | [] => some []
      | '#' :: rest =>
          match afterLine? ('#' :: rest) with
          | some next => readStatements lines next
          | none => none
      | rest =>
          match afterNewline? rest with
          | some next => readStatements lines next
          | none =>
              match readStatement rest with
              | some (statement, next) => (readStatements lines next).map (statement :: ·)
              | none => none

def statements? (content : String) : Option (List Statement) :=
  match content.toList with
  | '\uFEFF' :: chars => readStatements (chars.length + 1) chars
  | chars => readStatements (chars.length + 1) chars

end Provision.Toml
