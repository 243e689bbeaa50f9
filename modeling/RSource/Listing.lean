import RSource.Grammar.Parse
import RSource.Tree.Describe

/-! # Listings of source text

A listing shows the tokens of a text, one a line, and on demand the outline of its tree. -/

namespace RSource

def Token.line (t : Token) (source : Text) : String :=
  t.span.render ++ " " ++ t.kind.name ++ " " ++ Text.quote (t.text source) ++ "\n"

/-- The listing of a text. Blanks, line breaks and comments are shown only with `trivia`, and the
tree only with `tree`. -/
def listing (source : Text) (trivia tree : Bool) : String :=
  let shown := (Token.tokenizeAll source).filter fun t => trivia || !t.kind.isTrivia
  let tokens := String.join (shown.map (·.line source))
  if tree then tokens ++ "\n" ++ (Grammar.parse source).describe source else tokens

end RSource
