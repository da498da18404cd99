/-!
Why a text is not a YAML document, or not one whose content can be used.
-/
set_option autoImplicit false

namespace RemoteDevice.Yaml

inductive Fault where
  /-- A control or another character that no document may hold. -/
  | forbiddenCharacter
  /-- No token starts with the character. -/
  | unexpectedCharacter
  /-- A text that has to be a key is not followed by a colon. -/
  | missingColon
  /-- An entry, a key or a value begins where none may begin. -/
  | misplacedIndicator
  | malformedDirective
  | malformedName
  | malformedTag
  | malformedBlockHeader
  /-- A tab stands where only spaces may indent. -/
  | misplacedTab
  | unterminatedQuote
  | malformedEscape
  /-- A colon in a flow collection that neither ends a key nor belongs to a text. -/
  | ambiguousColon
  | unexpectedToken
  | unsupportedVersion
  | repeatedDirective
  | undefinedTagHandle
  | undefinedAnchor
  | severalDocuments
  | nestedTooDeeply
  | tooManyAliases
  | repeatedKey
  | missingKey
  /-- A node of another kind is asked for. -/
  | unfitNode
  /-- A tag asks for a kind of scalar that the text does not spell. -/
  | unfitScalar
  | integerTooLarge
  /-- The fuel of a reading loop is spent; every loop starts with enough of it. -/
  | exhausted
deriving DecidableEq, Repr

end RemoteDevice.Yaml
