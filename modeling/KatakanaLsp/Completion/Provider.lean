import KatakanaLsp.Completion.Item
import KatakanaLsp.Logging.Record
import KatakanaLsp.Text.Quoted
import KatakanaLsp.Url.Parse

/-!
# Completion providers

A provider answers a request context with candidates and says which characters should make the
editor ask. It may look at the context as it likes. The dialect's own provider offers every
candidate on every request and looks at the context only to report that it ignores it; a fixed
provider offers a list of its own.
-/

namespace KatakanaLsp

/-- A place in a document, both numbers from zero. -/
structure Position where
  line : Nat
  character : Nat
  deriving DecidableEq, Repr

namespace Completion

/-- What a request says about where and why it is made. -/
structure Context where
  uri : Url
  position : Position
  triggerKind : Option Int
  triggerCharacter : Option String
  deriving DecidableEq, Repr

/-- The context of a request that says no more than where it is made. -/
def Context.at (uri : Url) (position : Position) : Context := ⟨uri, position, none, none⟩

/-- A source of candidates: what it offers for a request, in the order of presentation, which
characters should make the editor ask, and what it reports when it is asked. -/
structure Provider where
  candidatesAt : Context → List Candidate
  triggerCharacters : List String
  reportAt : Context → List Logging.Record

namespace Provider

/-- The provider of the dialect. -/
def dialect (triggerCharacters : List String) : Provider where
  candidatesAt _ := candidates
  triggerCharacters := triggerCharacters
  reportAt context :=
    [⟨.trace, .completion, "Ignoring completion context " ++ context.uri.text ++ ":"
      ++ Decimal.text context.position.line ++ ":" ++ Decimal.text context.position.character
      ++ " (trigger " ++ Text.quotedOption context.triggerCharacter ++ ")"⟩]

/-- The provider that offers the same candidates on every request, and no characters. -/
def fixed (candidates : List Candidate) : Provider := ⟨fun _ => candidates, [], fun _ => []⟩

end Provider

end Completion

end KatakanaLsp
