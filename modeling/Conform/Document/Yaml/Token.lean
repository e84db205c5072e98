import Conform.Document.Yaml.Source
import Conform.Document.Yaml.Property

/-!
# Tokens of a YAML document

Indentation and the one-line keys of block mappings are made explicit by the tokens, so that
what is made of them is an ordinary bracketed language.

Where the text of a document makes no sense its tokens end with a fault. A document may be refused
for what its tokens say before that place is reached, and then the fault does not count.
-/

namespace Conform.Yaml

/-- **A token.** -/
inductive Token where
  | directive (d : Directive)
  | documentStart
  | documentEnd
  | blockSequenceStart
  | blockMappingStart
  /-- The end of a block sequence or mapping. -/
  | blockEnd
  | flowSequenceStart
  | flowSequenceEnd
  | flowMappingStart
  | flowMappingEnd
  /-- The comma of a flow collection. -/
  | flowEntry
  /-- The hyphen of a block sequence. -/
  | blockEntry
  | key
  | value
  /-- The name of an anchor, in place of a node. -/
  | reference (name : String)
  | anchor (name : String)
  | tag (t : TagName)
  | scalar (text : String) (plain : Bool)
deriving DecidableEq, Repr

/-- **The tokens of a document**, up to the place where its text makes no sense. -/
structure TokenStream where
  tokens : List Token
  /-- What is wrong with the text after the tokens, if anything is. -/
  fault : Option DocumentFault := none

namespace TokenStream

/-- The next token, if there is one. -/
def head? (s : TokenStream) : Parsed (Option Token) :=
  match s.tokens, s.fault with
  | [], some f => throw f
  | ts, _ => return ts.head?

/-- A stream without its first token. -/
def tail (s : TokenStream) : TokenStream := { s with tokens := s.tokens.drop 1 }

end TokenStream

end Conform.Yaml
