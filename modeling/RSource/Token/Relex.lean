import RSource.Token.Change
import RSource.Token.Lexer

/-! # Tokens after an edit

`relex` computes the tokens of an edited text from those of the text before the edit. The tokens of
the lines before the edited one are kept. Lexing starts again at the first token of the edited line
and goes on until, behind the edit, a token starts where an old token started; from there on the
old tokens are taken over, moved by the edit's growth. -/

namespace RSource.Token

def withoutEos (tokens : List Token) : List Token :=
  match tokens.getLast? with
  | some t => if t.kind = .endOfStream then tokens.dropLast else tokens
  | none => tokens

def coveredLength (tokens : List Token) : Nat :=
  (tokens.getLast?.map stop).getD 0

def fits (change : Change) (oldLength newLength : Nat) : Bool :=
  change.start ≤ change.oldStop && change.start ≤ change.newStop
    && change.newStop ≤ newLength && change.oldStop ≤ oldLength
    && (oldLength : Int) + change.delta == newLength

/-- The leading tokens that end at or before `offset`, up to the last line break among them. -/
def linesBefore (tokens : List Token) (offset : Nat) : List Token :=
  let before := tokens.takeWhile fun t => t.stop ≤ offset
  (before.reverse.dropWhile fun t => t.kind ≠ .newline).reverse

/-- The tokens of `rest`, which stands at offset `pos` of a text of `total` bytes, until behind
`change` an old token starts at the same place; from there on the old tokens, moved. -/
def resync (old : List Token) (change : Change) (total pos : Nat) : Text → List Token
  | [] => [eos pos]
  | c :: cs =>
    let s := scan c cs
    let token : Token := ⟨s.1, pos, Text.byteLength (c :: cs.take s.2)⟩
    let met :=
      if change.newStop ≤ pos then old.dropWhile fun t => (t.start : Int) ≠ pos - change.delta
      else []
    match met with
    | [] => token :: resync old change total token.stop (cs.drop s.2)
    | t :: ts => (t :: ts).map (·.shift change.delta) ++ [eos total]
termination_by rest => rest.length
decreasing_by simp only [List.length_drop, List.length_cons]; omega

/-- The tokens of `text`, given the tokens `previous` of the text before `change`. A change that
does not fit the two texts leads to a full tokenization. -/
def relex (previous : List Token) (text : Text) (change : Change) : List Token :=
  let old := withoutEos previous
  let total := text.byteLength
  if fits change (coveredLength old) total then
    let kept := linesBefore old change.start
    let offset := coveredLength kept
    kept ++ resync old change total (text.floorBoundary offset) (text.dropBytes offset)
  else tokenizeAll text

end RSource.Token
