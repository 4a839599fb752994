import Schemata.Validator.Basic
/-!
# Choice — booleans, and strings out of a list
-/
namespace Schemata

def Validator.boolean (typeMessage : Option String) : Validator Bool where
  run v path :=
    match v with
    | .bool b => .success b
    | other => mismatch path .invalidType "boolean" other typeMessage
  toValue := .bool

def quoted (s : String) : String := "'" ++ s ++ "'"

/-- What a value that is no option is called: a string by its own text, anything else by its type. -/
def receivedText : Value → String
  | .string s => quoted s
  | v => v.typeName

def Validator.enumeration (options : List String) (message : Option String) : Validator String where
  run v path :=
    let refused : Outcome (Verdict String) := .failure (.single ⟨path, .invalidEnum, message.getD
      ("invalid enum value, expected " ++ " | ".intercalate (options.map quoted) ++ ", received " ++ receivedText v)⟩)
    match v with
    | .string s => if s ∈ options then .success s else refused
    | _ => refused
  toValue := .string

end Schemata
