import RSource.Text.CharClass
import RSource.Token

/-! # The first token of a text

`scan c cs` classifies the first token of the text `c :: cs` and says how many characters of `cs`
belong to it. The token is thus always a beginning of the text and never empty. Every class has a
function of its own that measures the characters behind the first one; an unfinished string runs
to the end of the text, and a character that starts no token is `unknown` by itself. -/

namespace RSource.Token

def isNameStart (c : Char) : Bool :=
  Text.isAlphabetic c || c == '.' || c == '_'

def isNameContinue (c : Char) : Bool :=
  Text.isAlphanumeric c || c == '.' || c == '_'

/-- The operators other than `%...%`, every one before its own beginnings. -/
def operators : List String :=
  ["<<-", "->>", ":::", "<-", "->", "|>", "::", "<=", ">=", "==", "!=", "&&", "||", "**", "+",
    "-", "*", "/", "^", "<", ">", "!", "&", "|", "~", "?", ":", "$", "@", "=", ";", "\\"]

def runLength (p : Char → Bool) (cs : Text) : Nat :=
  (cs.takeWhile p).length

/-- The length of a quoted body with its closing `quote`; a backslash takes the next character
with it, and a body without a closing quote is all of the text. -/
def quotedLength (quote : Char) : Text → Nat
  | [] => 0
  | '\\' :: _ :: cs => quotedLength quote cs + 2
  | c :: cs => if c = quote then 1 else quotedLength quote cs + 1

def find? (pattern : Text) : Text → Option Nat
  | [] => if pattern.isEmpty then some 0 else none
  | c :: cs => if pattern.isPrefixOf (c :: cs) then some 0 else (find? pattern cs).map (· + 1)

def rawCloser? : Char → Option Char
  | '(' => some ')'
  | '[' => some ']'
  | '\x7b' => some '\x7d'
  | _ => none

/-- The length of a raw string behind its `r`: a quote, dashes, a bracket, the body, and the same
backwards. There is none if the text does not start with such an opening; a raw string that is
not closed is all of the text. -/
def rawLength? : Text → Option Nat
  | [] => none
  | quote :: cs =>
    if quote = '"' ∨ quote = '\'' then
      let dashes := runLength (· == '-') cs
      match cs.drop dashes with
      | [] => none
      | opener :: body =>
        (rawCloser? opener).map fun closer =>
          let terminator := closer :: (List.replicate dashes '-' ++ [quote])
          match find? terminator body with
          | some i => 2 + dashes + i + terminator.length
          | none => 2 + dashes + body.length
    else none

def hexLength (cs : Text) : Nat :=
  let digits := 1 + runLength Text.isHexDigit (cs.drop 1)
  match cs.drop digits with
  | 'p' :: rest | 'P' :: rest =>
    match rest with
    | '+' :: more | '-' :: more => digits + 2 + runLength Text.isDigit more
    | _ => digits + 1 + runLength Text.isDigit rest
  | _ => digits

def exponentLength : Text → Nat
  | e :: s :: cs =>
    if e = 'e' ∨ e = 'E' then
      if s = '+' ∨ s = '-' then
        match runLength Text.isDigit cs with
        | 0 => 0
        | n => n + 2
      else
        match runLength Text.isDigit (s :: cs) with
        | 0 => 0
        | n => n + 1
    else 0
  | _ => 0

def decimalLength (first : Char) (cs : Text) : Nat :=
  let whole := runLength Text.isDigit cs
  let fraction :=
    match cs.drop whole with
    | '.' :: rest => if first = '.' then 0 else 1 + runLength Text.isDigit rest
    | _ => 0
  whole + fraction + exponentLength (cs.drop (whole + fraction))

def numberLength (first : Char) (cs : Text) : Nat :=
  let isHex := first == '0' && (cs.head? == some 'x' || cs.head? == some 'X')
  let body := if isHex then hexLength cs else decimalLength first cs
  match cs.drop body with
  | 'L' :: _ | 'i' :: _ => body + 1
  | _ => body

def nameKind (name : Text) : Kind :=
  if isKeyword (String.ofList name) then .keyword else .identifier

/-- The first token of `c :: cs`: its kind, and how many characters of `cs` belong to it. -/
def scan (c : Char) (cs : Text) : Kind × Nat :=
  if c = '\n' then (.newline, 0)
  else if c = '\r' then
    match cs with
    | '\n' :: _ => (.newline, 1)
    | _ => (.whitespace, runLength Text.isInlineBlank cs)
  else if Text.isInlineBlank c then (.whitespace, runLength Text.isInlineBlank cs)
  else if c = '#' then (.comment, runLength (fun d => d != '\n' && d != '\r') cs)
  else if c = '"' ∨ c = '\'' then (.string, quotedLength c cs)
  else if c = '\x60' then (.identifier, quotedLength c cs)
  else if Text.isDigit c then (.number, numberLength c cs)
  else if c = '.' ∧ cs.head?.any Text.isDigit then (.number, numberLength c cs)
  else if isNameStart c then
    match (if c = 'r' ∨ c = 'R' then rawLength? cs else none) with
    | some n => (.string, n)
    | none =>
      let n := runLength isNameContinue cs
      (nameKind (c :: cs.take n), n)
  else if c = '(' then (.openParen, 0)
  else if c = '\x7b' then (.openBrace, 0)
  else if c = '[' then (.openBracket, 0)
  else if c = ')' then (.closeParen, 0)
  else if c = '\x7d' then (.closeBrace, 0)
  else if c = ']' then (.closeBracket, 0)
  else if c = ',' then (.comma, 0)
  else if c = '%' then
    let n := runLength (fun d => d != '%' && d != '\n') cs
    match cs.drop n with
    | '%' :: _ => (.operator, n + 1)
    | _ => (.unknown, 0)
  else
    match operators.find? fun op => op.toList.isPrefixOf (c :: cs) with
    | some op => (.operator, op.length - 1)
    | none => (.unknown, 0)

end RSource.Token
