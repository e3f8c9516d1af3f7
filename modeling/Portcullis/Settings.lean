import Portcullis.Generation
import Portcullis.Text.Blank
import Portcullis.Time.Span
import Portcullis.Toml.Reader
import Portcullis.Toml.Record
/-! Settings: where the generator is, how long it has, and what it is told to use.

Settings are written in TOML, and everything has a standard value, so an empty document
is complete. What is written has to make sense: there has to be an endpoint and some
time to wait for it. -/
namespace Portcullis

structure GeneratorSettings where
  /-- Where requests go. -/
  endpoint : String
  /-- How long a generator may take. -/
  timeoutSeconds : UInt64
  /-- The environment variable that holds the generator's key, if it needs one. -/
  keyVariable : Option String
  deriving DecidableEq, Repr

def GeneratorSettings.standard : GeneratorSettings :=
  ⟨"http://localhost:8080/v1/policies/generate", 30, none⟩

def GeneratorSettings.timeout (s : GeneratorSettings) : Span := .ofSeconds s.timeoutSeconds.toNat

structure Settings where
  generator : GeneratorSettings
  vocabulary : Vocabulary
  deriving DecidableEq, Repr

def Settings.standard : Settings := ⟨.standard, .standard⟩

open Toml

def GeneratorSettings.ofToml? (v : Toml) : Option GeneratorSettings := do
  let r ← v.record? ["endpoint", "timeout_secs", "api_key_env"]
  return { endpoint := ← fieldOr? r "endpoint" standard.endpoint text?
           timeoutSeconds := ← fieldOr? r "timeout_secs" standard.timeoutSeconds word?
           keyVariable := ← fieldOr? r "api_key_env" none fun v => v.text?.map some }

def Vocabulary.ofToml? (v : Toml) : Option Vocabulary := do
  let r ← v.record? ["namespace", "actions", "resources"]
  return { entityRoot := ← fieldOr? r "namespace" standard.entityRoot text?
           actions := ← fieldOr? r "actions" standard.actions (list? text?)
           resources := ← fieldOr? r "resources" standard.resources (list? text?) }

namespace Settings

def ofToml? (v : Toml) : Option Settings := do
  let r ← v.record? ["generator", "vocabulary"]
  return { generator := ← fieldOr? r "generator" .standard GeneratorSettings.ofToml?
           vocabulary := ← fieldOr? r "vocabulary" .standard Vocabulary.ofToml? }

/-- What is wrong with settings, if anything is. -/
def fault? (s : Settings) : Option String :=
  if Text.allBlank s.generator.endpoint.toList then some "generator.endpoint must not be empty"
  else if s.generator.timeoutSeconds = 0 then
    some "generator.timeout_secs must be greater than zero"
  else none

/-- The settings a document describes. -/
def parse (document : String) : Except Failure Settings :=
  match (Toml.parse? document).bind ofToml? with
  | none => .error (.configuration "failed to parse config TOML")
  | some s =>
    match s.fault? with
    | some reason => .error (.configuration reason)
    | none => .ok s

end Settings

end Portcullis
