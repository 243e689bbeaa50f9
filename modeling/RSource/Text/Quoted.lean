import RSource.Text.Bytes
import RSource.Unicode.GraphemeExtend
import RSource.Unicode.Unprintable

/-! # Quoted text

A text between double quotes in which everything that cannot be read off the page is escaped:
quotes and backslashes, the usual control characters by a letter, and combining or unprintable
characters by their code point. -/

namespace RSource.Text

def escapeLetter? : Char → Option Char
  | '\x00' => some '0'
  | '\t' => some 't'
  | '\r' => some 'r'
  | '\n' => some 'n'
  | '"' => some '"'
  | '\\' => some '\\'
  | _ => none

def isPlain (c : Char) : Bool :=
  !Unicode.graphemeExtend.contains c && !Unicode.unprintable.contains c

def quoteChar (c : Char) : Text :=
  match escapeLetter? c with
  | some e => ['\\', e]
  | none =>
    if isPlain c then [c]
    else '\\' :: 'u' :: '\x7b' :: (Nat.toDigits 16 c.toNat ++ ['\x7d'])

def quote (t : Text) : String :=
  String.ofList ('"' :: (t.flatMap quoteChar ++ ['"']))

end RSource.Text
