import Dossier.Value.Basic
import Dossier.Number.Notation

/-!
# Issues

What is wrong with a value that was read against a record type: a kind and the path to the value.
Every kind has a short code and a message for the author of the data.
-/

set_option autoImplicit false

namespace Dossier.Schema

/-- One step of a path: a key of an object, or a number, which is a position in a list or a key
that is a number. -/
inductive Step where
  | key (name : String)
  | index (n : Int)
  deriving DecidableEq, Repr

inductive Problem where
  | missing
  | notText
  | notFlag
  | flagUnreadable
  | notWhole
  | wholeUnreadable
  | wholeWithFraction
  | wholeTooLarge
  | notFinite
  | notNumber
  | numberUnreadable
  | notAmong (options : List String)
  | notLiteral (options : List String)
  | notObject
  | notList
  | notRecord (name : String)
  | below (least : Int)
  | above (most : Int)
  | nullCharacter
  | frozen
  deriving DecidableEq, Repr

structure Issue where
  problem : Problem
  path : List Step
  deriving DecidableEq, Repr

def optionsText : List String → String
  | [] => ""
  | [a] => "'" ++ a ++ "'"
  | [a, b] => "'" ++ a ++ "' or '" ++ b ++ "'"
  | a :: rest => "'" ++ a ++ "', " ++ optionsText rest

namespace Problem

def code : Problem → String
  | .missing => "missing"
  | .notText => "string_type"
  | .notFlag => "bool_type"
  | .flagUnreadable => "bool_parsing"
  | .notWhole => "int_type"
  | .wholeUnreadable => "int_parsing"
  | .wholeWithFraction => "int_from_float"
  | .wholeTooLarge => "int_parsing_size"
  | .notFinite => "finite_number"
  | .notNumber => "float_type"
  | .numberUnreadable => "float_parsing"
  | .notAmong _ => "enum"
  | .notLiteral _ => "literal_error"
  | .notObject => "dict_type"
  | .notList => "list_type"
  | .notRecord _ => "model_type"
  | .below _ => "greater_than_equal"
  | .above _ => "less_than_equal"
  | .nullCharacter => "value_error"
  | .frozen => "frozen_instance"

def message : Problem → String
  | .missing => "Field required"
  | .notText => "Input should be a valid string"
  | .notFlag => "Input should be a valid boolean"
  | .flagUnreadable => "Input should be a valid boolean, unable to interpret input"
  | .notWhole => "Input should be a valid integer"
  | .wholeUnreadable => "Input should be a valid integer, unable to parse string as an integer"
  | .wholeWithFraction => "Input should be a valid integer, got a number with a fractional part"
  | .wholeTooLarge => "Unable to parse input string as an integer, exceeded maximum size"
  | .notFinite => "Input should be a finite number"
  | .notNumber => "Input should be a valid number"
  | .numberUnreadable => "Input should be a valid number, unable to parse string as a number"
  | .notAmong options => "Input should be " ++ optionsText options
  | .notLiteral options => "Input should be " ++ optionsText options
  | .notObject => "Input should be a valid dictionary"
  | .notList => "Input should be a valid list"
  | .notRecord name => "Input should be a valid dictionary or instance of " ++ name
  | .below least => "Input should be greater than or equal to " ++ Number.intText least
  | .above most => "Input should be less than or equal to " ++ Number.intText most
  | .nullCharacter => "Value error, embedded null byte"
  | .frozen => "Instance is frozen"

end Problem

def Issue.under (step : Step) (i : Issue) : Issue := { i with path := step :: i.path }

def Step.toValue : Step → Value
  | .key name => .text name
  | .index n => .int n

def Issue.toValue (i : Issue) : Value :=
  .object [("type", .text i.problem.code), ("loc", .list (i.path.map Step.toValue)),
    ("msg", .text i.problem.message)]

end Dossier.Schema
