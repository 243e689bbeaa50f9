/-! # Sample scripts

Scripts of a given size, always the same for the same number: function definitions, calls into the
sample library, and plain assignments. -/

namespace RSource.Sample

structure Size where
  files : Nat
  functions : Nat
  calls : Nat
  extra : Nat
  deriving DecidableEq, Repr, Inhabited

def Size.small : Size := ⟨10, 5, 5, 5⟩

def Size.medium : Size := ⟨50, 10, 10, 10⟩

def Size.large : Size := ⟨200, 20, 20, 20⟩

def calls : List String :=
  ["aov(y ~ x, data = df, qr = TRUE)",
    "legend(\"topright\", legend = labels, bty = \"n\", lty = 1)",
    "paste(\"a\", \"b\", sep = \"-\")",
    "stats::lm(y ~ x, df)",
    "head(df, 10)"]

def functionText (n i : Nat) : String :=
  s!"func_{n}_{i} <- function(x, y = {i + 1}, ...) \x7b\n"
    ++ s!"    result <- x + y * {i + 1}\n"
    ++ "    if (is.na(result)) \x7b\n        return(NULL)\n    \x7d\n    result\n\x7d\n\n"

def callText (n i : Nat) : String :=
  let call := (calls[(n + i) % calls.length]?).getD ""
  s!"res_{n}_{i} <- {call}\n"

def extraText (n i : Nat) : String :=
  s!"var_{n}_{i} <- c({i}, {i + 1})\n"

def script (n : Nat) (size : Size) : String :=
  String.join ((List.range size.functions).map (functionText n))
    ++ String.join ((List.range size.calls).map (callText n))
    ++ String.join ((List.range size.extra).map (extraText n))

end RSource.Sample
