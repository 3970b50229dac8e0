/-! Tokens of a settings document. Indentation appears as starts and ends of block collections. -/
namespace TypoSearch.Yaml

inductive Token where
  | version (major : Nat)
  | tagDirective (handle target : String)
  | otherDirective
  | documentStart
  | documentEnd
  | blockSequenceStart
  | blockMappingStart
  | blockEnd
  | sequenceStart
  | sequenceEnd
  | mappingStart
  | mappingEnd
  | entry
  | separator
  | key
  | value
  | alias (name : String)
  | anchor (name : String)
  | tag (handle : Option String) (name : String)
  | scalar (text : String) (isPlain : Bool)
  | beyond (code : Nat)
  deriving DecidableEq, Repr

end TypoSearch.Yaml
