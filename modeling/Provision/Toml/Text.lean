import Provision.Text.Digits

/-!
# Strings of a document

A basic string stands between double quotes and has escapes; a literal string stands between single
quotes and has none; both have a form between triple quotes that may span lines. `basicEscaped` is the
writer of basic strings.
-/

namespace Provision.Toml

open Text (hexDigit? upperHexDigit)

/-- Whether a character may stand for itself in a string or a comment: all but the controls, of which
only the tab may. -/
def isPlain (c : Char) : Bool :=
  c = '\t' || (0x20 ≤ c.toNat && c.toNat ≠ 0x7F)

def scalar? (number : Nat) : Option Char :=
  if valid : number.isValidChar then some (Char.ofNatAux number valid) else none

/-- What follows the backslash of an escape: a letter that stands for a character, or a letter that
announces a number of so many hexadecimal digits. -/
inductive Escape where
  | character (c : Char)
  | number (digits : Nat)

def escape? (letter : Char) : Option Escape :=
  match letter with
  | 'b' => some (.character '\x08')
  | 't' => some (.character '\t')
  | 'n' => some (.character '\n')
  | 'f' => some (.character '\x0c')
  | 'r' => some (.character '\r')
  | '"' => some (.character '"')
  | '\\' => some (.character '\\')
  | 'u' => some (.number 4)
  | 'U' => some (.number 8)
  | _ => none

inductive Position where
  | between
  | afterBackslash
  | inNumber (missing value : Nat)

def readBasicFrom : Position → List Char → Option (List Char × List Char)
  | _, [] => none
  | .between, c :: rest =>
      if c = '"' then some ([], rest)
      else if c = '\\' then readBasicFrom .afterBackslash rest
      else if isPlain c then
        (readBasicFrom .between rest).map fun read => (c :: read.1, read.2)
      else none
  | .afterBackslash, c :: rest =>
      match escape? c with
      | some (.character escaped) =>
          (readBasicFrom .between rest).map fun read => (escaped :: read.1, read.2)
      | some (.number digits) => readBasicFrom (.inNumber digits 0) rest
      | none => none
  | .inNumber missing value, c :: rest =>
      match hexDigit? c with
      | none => none
      | some digit =>
          let value := value * 16 + digit
          if missing ≤ 1 then
            match scalar? value with
            | some character =>
                (readBasicFrom .between rest).map fun read => (character :: read.1, read.2)
            | none => none
          else readBasicFrom (.inNumber (missing - 1) value) rest

def readBasic (chars : List Char) : Option (List Char × List Char) :=
  readBasicFrom .between chars

/-- One character in a basic string: quotes, backslashes and controls are escaped, all else stands for
itself. -/
def basicEscapedChar (c : Char) : List Char :=
  if c = '"' then ['\\', '"']
  else if c = '\\' then ['\\', '\\']
  else if c.toNat < 0x20 ∨ c.toNat = 0x7F then
    ['\\', 'u', '0', '0', upperHexDigit (c.toNat / 16), upperHexDigit (c.toNat % 16)]
  else [c]

def basicEscaped (content : List Char) : List Char :=
  content.flatMap basicEscapedChar

def readLiteral : List Char → Option (List Char × List Char)
  | [] => none
  | c :: rest =>
      if c = '\'' then some ([], rest)
      else if isPlain c then (readLiteral rest).map fun read => (c :: read.1, read.2)
      else none

/-- The rest after a line break, which is a line feed with or without a carriage return before it. -/
def afterNewline? : List Char → Option (List Char)
  | '\n' :: rest => some rest
  | '\r' :: '\n' :: rest => some rest
  | _ => none

def skipBlanks (chars : List Char) : List Char :=
  chars.dropWhile fun c => c = ' ' || c = '\t'

def skipLines : Nat → List Char → List Char
  | 0, chars => chars
  | steps + 1, chars =>
      let rest := skipBlanks chars
      match afterNewline? rest with
      | some next => skipLines steps next
      | none => rest

def readHex : Nat → Nat → List Char → Option (Nat × List Char)
  | 0, value, rest => some (value, rest)
  | digits + 1, value, c :: rest =>
      match hexDigit? c with
      | some digit => readHex digits (value * 16 + digit) rest
      | none => none
  | _ + 1, _, [] => none

def readEscape : List Char → Option (Char × List Char)
  | [] => none
  | letter :: rest =>
      match escape? letter with
      | some (.character escaped) => some (escaped, rest)
      | some (.number digits) =>
          match readHex digits 0 rest with
          | some (value, rest) => (scalar? value).map fun character => (character, rest)
          | none => none
      | none => none

/-- Reads a string up to its closing triple quote. A run of three to five quotes ends it, the first of
four or five belonging to the string; a backslash at the end of a line drops the blank up to the next
visible character, where there are escapes. -/
def readMultiline (quote : Char) (hasEscapes : Bool) :
    Nat → List Char → Option (List Char × List Char)
  | 0, _ => none
  | _ + 1, [] => none
  | steps + 1, c :: rest =>
      if c = quote then
        let run := (c :: rest).takeWhile (· = quote)
        let after := (c :: rest).dropWhile (· = quote)
        if run.length < 3 then
          (readMultiline quote hasEscapes steps after).map fun read => (run ++ read.1, read.2)
        else if run.length ≤ 5 then some (run.drop 3, after)
        else none
      else if c = '\\' ∧ hasEscapes then
        match afterNewline? (skipBlanks rest) with
        | some next => readMultiline quote hasEscapes steps (skipLines next.length next)
        | none =>
            match readEscape rest with
            | some (character, next) =>
                (readMultiline quote hasEscapes steps next).map fun read =>
                  (character :: read.1, read.2)
            | none => none
      else
        match afterNewline? (c :: rest) with
        | some next =>
            (readMultiline quote hasEscapes steps next).map fun read => ('\n' :: read.1, read.2)
        | none =>
            if isPlain c then
              (readMultiline quote hasEscapes steps rest).map fun read => (c :: read.1, read.2)
            else none

/-- Reads what follows an opening triple quote; a line break right after it does not count. -/
def readTripleQuoted (quote : Char) (hasEscapes : Bool) (chars : List Char) :
    Option (List Char × List Char) :=
  let body := (afterNewline? chars).getD chars
  readMultiline quote hasEscapes (body.length + 1) body

def readText? : List Char → Option (List Char × List Char)
  | '"' :: '"' :: '"' :: rest => readTripleQuoted '"' true rest
  | '"' :: rest => readBasic rest
  | '\'' :: '\'' :: '\'' :: rest => readTripleQuoted '\'' false rest
  | '\'' :: rest => readLiteral rest
  | _ => none

end Provision.Toml
