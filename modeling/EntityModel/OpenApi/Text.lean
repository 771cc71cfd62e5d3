import EntityModel.Banner
import EntityModel.OpenApi.Document
import EntityModel.Yaml.Encode

/-! # The text of an OpenAPI document

The document of a schema as YAML, under a banner. -/

namespace EntityModel.OpenApi

/-- The banner as comments. -/
def bannerText (b : Banner) : String := String.join (b.lines.map fun line => "# " ++ line ++ "\n")

/-- The text of a schema's document. -/
def generate (title : String) (b : Banner) (s : Schema) : Except GenerateError String := do
  let document ← document title s
  return bannerText b ++ Yaml.encode document

end EntityModel.OpenApi
