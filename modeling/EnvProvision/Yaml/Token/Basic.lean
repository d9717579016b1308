import EnvProvision.Yaml.Tag

namespace EnvProvision.Yaml

-- The tokens of a document. The indentation of blocks appears as start and end tokens, and the key
-- of a mapping is marked before its first token.
inductive Token where
  | version (major minor : Nat)
  | handle (name : String) (stem : Tag)
  | documentStart
  | documentEnd
  | sequenceStart
  | mappingStart
  | blockEnd
  | flowSequenceStart
  | flowSequenceEnd
  | flowMappingStart
  | flowMappingEnd
  | item
  | comma
  | key
  | value
  | alias (name : String)
  | anchor (name : String)
  | tag (handle : String) (tag : Tag)
  | scalar (text : String) (plain : Bool)
  deriving Repr, DecidableEq

end EnvProvision.Yaml
