import MergeBench.Number.Integer
import MergeBench.Text.CodePoint

namespace MergeBench.Yaml

/-- Why no data can be read from a text, as far as its characters decide. -/
inductive SyntaxError where
  | malformed
  | noCharacter (number : Nat)
  | version (e : Number.IntegerError)
  | tooDeep
  deriving DecidableEq, Repr

/-- Collections inside each other, at most. -/
def nestingLimit : Nat := 490

/-- A tag as it is written: a handle, if there is one, and the rest. -/
structure TagName where
  handle : Option String
  suffix : String
  deriving DecidableEq, Repr

inductive Directive where
  | version (major : Int)
  | tag (handle replacement : String)
  | other
  deriving DecidableEq, Repr

inductive Token where
  | directive (d : Directive)
  | documentStart
  | documentEnd
  | blockSequence
  | blockMapping
  | blockEnd
  | flowSequence
  | flowMapping
  | flowSequenceEnd
  | flowMappingEnd
  | key
  | value
  | blockEntry
  | flowEntry
  | alias (name : String)
  | anchor (name : String)
  | tag (name : TagName)
  | scalar (text : String) (plain : Bool)
  | brokenScalar (points : List Text.CodePoint)
  | fault (e : SyntaxError)
  deriving DecidableEq, Repr

end MergeBench.Yaml
