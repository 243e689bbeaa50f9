import RSource.Grammar.Parse
import RSource.Token.Relex

/-! # Snapshots

A snapshot is the complete parsed form of one version of a document. It is built from the text
alone, or with the help of an older snapshot and the region that has changed since. -/

namespace RSource.Document

structure Snapshot where
  version : Nat
  text : Text
  tokens : List Token
  tree : Tree
  deriving Inhabited

namespace Snapshot

def parse (version : Nat) (text : Text) : Snapshot :=
  let tokens := Token.tokenizeAll text
  ⟨version, text, tokens, Grammar.build text tokens⟩

/-- The snapshot of a text, built with the tokens of `base` outside the changed region. -/
def reparse (base : Snapshot) (version : Nat) (text : Text) (change : Change) : Snapshot :=
  let tokens := Token.relex base.tokens text change
  ⟨version, text, tokens, Grammar.build text tokens⟩

end Snapshot

structure Request where
  version : Nat
  text : Text
  base : Snapshot
  change? : Option Change
  incremental : Bool
  deriving Inhabited

def Request.run (r : Request) : Snapshot :=
  match r.change? with
  | some change =>
    if r.incremental then Snapshot.reparse r.base r.version r.text change
    else Snapshot.parse r.version r.text
  | none => Snapshot.parse r.version r.text

end RSource.Document
