/-!
The errors that hosts, managers and plugin discovery report to one another. An
error has a kind, which programs test, and a message, which people read.
-/

namespace AssetLink

inductive ErrorKind
  | inputValidation
  | type
  | notImplemented
  | configuration
  | wholeBatch
deriving DecidableEq, Repr

namespace ErrorKind

def all : List ErrorKind :=
  [inputValidation, type, notImplemented, configuration, wholeBatch]

def code : ErrorKind → String
  | inputValidation => "INPUT_VALIDATION"
  | type => "TYPE_ERROR"
  | notImplemented => "NOT_IMPLEMENTED"
  | configuration => "CONFIGURATION"
  | wholeBatch => "WHOLE_BATCH"

def name : ErrorKind → String
  | inputValidation => "input_validation"
  | type => "type"
  | notImplemented => "not_implemented"
  | configuration => "configuration"
  | wholeBatch => "whole_batch"

def ofName? (name : String) : Option ErrorKind :=
  all.find? (·.name == name)

end ErrorKind

structure AssetError where
  kind : ErrorKind
  message : String
deriving DecidableEq, Repr

namespace AssetError

def inputValidation (message : String) : AssetError :=
  ⟨.inputValidation, message⟩

def type (message : String) : AssetError :=
  ⟨.type, message⟩

def notImplemented (message : String) : AssetError :=
  ⟨.notImplemented, message⟩

def configuration (message : String) : AssetError :=
  ⟨.configuration, message⟩

def wholeBatch (message : String) : AssetError :=
  ⟨.wholeBatch, message⟩

/-- Type errors are a special case of input validation. -/
def isInputValidation (e : AssetError) : Bool :=
  e.kind = .inputValidation || e.kind = .type

def unsupportedKind (kind : String) : AssetError :=
  .type s!"type '{kind}' is not supported"

def nonStringArgument (argument kind : String) : AssetError :=
  .type s!"{argument} must be a string, got '{kind}'"

def kindMismatch (key expected got : String) : AssetError :=
  .type s!"property '{key}' expects a value of type '{expected}', got '{got}'"

def emptyArgument (argument : String) : AssetError :=
  .inputValidation s!"{argument} must not be empty"

end AssetError

end AssetLink
