import Portcullis.Codec.Agent
import Portcullis.Codec.Policy
import Portcullis.Settings
/-! Settings as JSON. A field that is left out has its standard value. -/
namespace Portcullis
open Json

namespace GeneratorSettings

def toJson (s : GeneratorSettings) : Json :=
  ofFields [("endpoint", ofString s.endpoint), ("timeout_secs", ofWord s.timeoutSeconds),
    ("api_key_env", Policy.optionalText s.keyVariable)]

def ofJson? (v : Json) : Option GeneratorSettings := do
  let r ← v.record? ["endpoint", "timeout_secs", "api_key_env"]
  return { endpoint := ← r.fieldOr? "endpoint" standard.endpoint text?
           timeoutSeconds := ← r.fieldOr? "timeout_secs" standard.timeoutSeconds word?
           keyVariable := ← r.fieldOr? "api_key_env" none (nullable? text?) }

end GeneratorSettings

namespace Settings

def toJson (s : Settings) : Json :=
  ofFields [("generator", s.generator.toJson), ("vocabulary", s.vocabulary.toJson)]

def ofJson? (v : Json) : Option Settings := do
  let r ← v.record? ["generator", "vocabulary"]
  return { generator := ← r.fieldOr? "generator" .standard GeneratorSettings.ofJson?
           vocabulary := ← r.fieldOr? "vocabulary" .standard Vocabulary.ofJson? }

end Settings

end Portcullis
