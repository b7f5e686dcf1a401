import NumberingPlan.Text.Charset

/-! What makes a text no XML document. A document is refused as a whole, so the causes serve the
reader of this code and not the reader of a message. -/
namespace NumberingPlan.Xml

/-- Why a text is no XML document. -/
inductive Fault where
  | badEncoding
  | illegalCharacter
  | badDeclaration
  | badName
  | unfinished
  | badComment
  | badInstruction
  | badDoctype
  | badReference
  | undefinedEntity
  | recursiveEntity
  | externalEntity
  | unbalancedEntity
  | entityExplosion
  | badTag
  | badText
  | repeatedAttribute
  | badNamespace
  | mismatchedTag
  | noElement
  | trailingContent
  | badCharset (fault : Text.Charset.Fault)
  deriving DecidableEq, Repr

end NumberingPlan.Xml
