import E2Node.Config.File
import E2Node.Json.Value
import E2Node.Toml.Document
import E2Node.Yaml.Value

namespace E2Node

inductive ConfigFormat
  | yaml
  | toml
  | json
  deriving DecidableEq

def ConfigFormat.named? : String → Option ConfigFormat
  | "yaml" | "yml" => some .yaml
  | "toml" => some .toml
  | "json" => some .json
  | _ => none

def ConfigFormat.defaultName : String := "yaml"

inductive ConfigError
  | unsupported (format : String)
  | unreadable (format : ConfigFormat)
  | refused (fault : ConfigFault)
  | noFile (name : String)
  deriving DecidableEq

def ConfigError.message : ConfigError → String
  | .unsupported format => s!"Unsupported configuration format: {format}"
  | .unreadable _ => "Unreadable configuration"
  | .refused fault => fault.message
  | .noFile name => s!"reading configuration {name}"

namespace Configuration

def read? : ConfigFormat → List Char → Option Configuration
  | .yaml, s => (Yaml.parse s).bind fun (v, anchors) => (Yaml.dialect anchors).configuration v
  | .toml, s => (Toml.parse s).bind Toml.dialect.configuration
  | .json, s => (Json.parse s).bind Json.dialect.configuration

def checked (c : Configuration) : Except ConfigError Configuration :=
  match c.fault? with
  | some fault => .error (.refused fault)
  | none => .ok c

def parse (text : String) (format : String) : Except ConfigError Configuration :=
  match ConfigFormat.named? format with
  | none => .error (.unsupported format)
  | some f =>
      match read? f text.toList with
      | none => .error (.unreadable f)
      | some c => c.checked

/-- The configuration in a file with this name and content. -/
def ofFile (name : String) (content : Option (List UInt8)) : Except ConfigError Configuration :=
  match content.bind fun bs => String.fromUTF8? ⟨bs.toArray⟩ with
  | none => .error (.noFile name)
  | some text => parse text ((FileName.suffix? name).getD ConfigFormat.defaultName)

def toJson (c : Configuration) : String := String.ofList (Json.ofConfiguration c).render

end Configuration

end E2Node
