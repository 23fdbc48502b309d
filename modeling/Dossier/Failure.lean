import Dossier.Schema.Issue
import Dossier.Value.Display

/-!
# Failures

Everything that can go wrong, by cause. A reported failure has a message for the user and details
as data, and belongs to a family: configuration, placeholders, data source or request. A fault
comes from below: a number or date out of range, values that cannot be ordered or merged, a path
that cannot be read, a file that is no text, or the data source itself.
-/

set_option autoImplicit false

namespace Dossier

open Schema

/-- Families of reported failures. The general one takes in all others. -/
inductive Family where
  | general
  | configuration
  | placeholder
  | source
  | request
  deriving DecidableEq, Repr

inductive Fault where
  | numberTooLarge
  | dateOutOfRange
  | incomparable
  | notMergeable
  | notAKey
  | missingPart
  | notANumber
  | textForNumber
  | timeBeyondCalendar
  | rowNotIterable
  | rowNotPairs
  | noSuchMember
  | undecodableText
  | tooManyDigits
  | tooDeep
  | isFolder
  | nameTooLong
  | noHome
  | notAPath
  | malformedSetting
  | noSuchData
  | sourceFailed (message : String)
  deriving DecidableEq, Repr

inductive Failure where
  | plain (family : Family) (message : String) (details : Fields)
  | malformedFile (file path : String)
  | notAnObject (file path : String)
  | invalidEntry (entry file path : String) (issues : List Issue)
  | invalidComposition (issues : List Issue)
  | invalidCategoryField (name : String)
  | unknownCriterion (name : String)
  | unsupportedControl (control : Value)
  | duplicateCriterion (name : String)
  | duplicateProofType (proofType : String)
  | definitionNotFound (proofType : String) (path : Option String)
  | invalidToken (token : String)
  | tokenRecursion (token : String) (limit : Int)
  | pendingLookup (dataSet : String)
  | pendingChoices (dataSet : String)
  | invalidDataSet (dataSet : String)
  | pageLimit (dataSet : String) (limit : Int)
  | unknownProofType (proofType : Value)
  | proofTypeMismatch (expected : String) (received : Value)
  | invalid (issues : List Issue)
  | fault (cause : Fault)
  deriving Repr, Inhabited

def Family.name : Family → String
  | .general => "ProofSpecError"
  | .configuration => "ConfigurationError"
  | .placeholder => "TokenError"
  | .source => "DataSourceError"
  | .request => "RequestError"

def Family.lineage : Family → List String
  | .general => [Family.general.name]
  | f => [f.name, Family.general.name]

def Fault.name : Fault → String
  | .numberTooLarge => "OverflowError"
  | .dateOutOfRange => "OverflowError"
  | .incomparable => "TypeError"
  | .notMergeable => "TypeError"
  | .notAKey => "TypeError"
  | .missingPart => "AttributeError"
  | .notANumber => "TypeError"
  | .textForNumber => "ValueError"
  | .timeBeyondCalendar => "OSError"
  | .rowNotIterable => "TypeError"
  | .rowNotPairs => "ValueError"
  | .noSuchMember => "ValueError"
  | .undecodableText => "UnicodeDecodeError"
  | .tooManyDigits => "ValueError"
  | .tooDeep => "RecursionError"
  | .isFolder => "IsADirectoryError"
  | .nameTooLong => "OSError"
  | .noHome => "RuntimeError"
  | .notAPath => "TypeError"
  | .malformedSetting => "SettingsError"
  | .noSuchData => "KeyError"
  | .sourceFailed _ => "RuntimeError"

namespace Failure

def family? : Failure → Option Family
  | .plain f _ _ => some f
  | .malformedFile .. => some .configuration
  | .notAnObject .. => some .configuration
  | .invalidEntry .. => some .configuration
  | .invalidComposition _ => some .configuration
  | .invalidCategoryField _ => some .configuration
  | .unknownCriterion _ => some .configuration
  | .unsupportedControl _ => some .configuration
  | .duplicateCriterion _ => some .configuration
  | .duplicateProofType _ => some .configuration
  | .definitionNotFound .. => some .configuration
  | .invalidToken _ => some .placeholder
  | .tokenRecursion .. => some .placeholder
  | .pendingLookup _ => some .source
  | .pendingChoices _ => some .source
  | .invalidDataSet _ => some .source
  | .pageLimit .. => some .source
  | .unknownProofType _ => some .request
  | .proofTypeMismatch .. => some .request
  | .invalid _ => none
  | .fault _ => none

def lineage (e : Failure) : List String :=
  let own : List String := match e with
    | .unknownCriterion _ => ["UnknownCriterionError"]
    | .unsupportedControl _ => ["UnsupportedFieldTypeError"]
    | .duplicateCriterion _ => ["DuplicateCriteriaFieldError"]
    | .duplicateProofType _ => ["DuplicateProofTypeError"]
    | .definitionNotFound .. => ["DefinitionNotFoundError"]
    | .invalidToken _ => ["InvalidTokenError"]
    | .tokenRecursion .. => ["TokenRecursionError", "InvalidTokenError"]
    | .pendingLookup _ => ["PendingLookupError"]
    | .pendingChoices _ => ["PendingCriteriaDataError"]
    | .invalidDataSet _ => ["InvalidDataSetError"]
    | .pageLimit .. => ["PaginationLimitError"]
    | .unknownProofType _ => ["UnknownProofTypeError"]
    | .proofTypeMismatch .. => ["ProofTypeMismatchError"]
    | .invalid _ => ["ValidationError"]
    | .fault cause => [cause.name]
    | _ => []
  own ++ (e.family?.map Family.lineage).getD []

def name (e : Failure) : String := e.lineage.headD ""

def message : Failure → String
  | .plain _ m _ => m
  | .malformedFile file _ => "Malformed JSON in " ++ file
  | .notAnObject file _ => file ++ " must contain a JSON object"
  | .invalidEntry entry file _ _ => "Invalid entry '" ++ entry ++ "' in " ++ file
  | .invalidComposition _ => "Proof specification overrides produced an invalid specification"
  | .invalidCategoryField _ => "Invalid proof category field."
  | .unknownCriterion name => "Unable to find criterion named " ++ name
  | .unsupportedControl control =>
    "Unrecognized or unsupported criteria field type: " ++ control.display
  | .duplicateCriterion _ => "A criteria field with that name already exists."
  | .duplicateProofType t => "Duplicate proof type: " ++ t
  | .definitionNotFound t _ => "No definition found for proof type: " ++ t
  | .invalidToken t => "Invalid token: " ++ t
  | .tokenRecursion t limit =>
    "Token resolution exceeded " ++ Number.intText limit ++ " passes at: " ++ t
  | .pendingLookup d =>
    "Pending response received for proof specification lookup data set: " ++ d
  | .pendingChoices d => "Pending response received for criteria field data set: " ++ d
  | .invalidDataSet d => "Invalid criteria field data set: " ++ d
  | .pageLimit d limit =>
    "Data set " ++ d ++ " exceeded " ++ Number.intText limit ++ " pages"
  | .unknownProofType t => "Unrecognized Hypersync proof type: " ++ t.display
  | .proofTypeMismatch expected received =>
    "Proof type mismatch, expected: " ++ expected ++ ", received: " ++ received.display
  | .invalid _ => ""
  | .fault (.sourceFailed m) => m
  | .fault _ => ""

def details : Failure → Fields
  | .plain _ _ d => d
  | .malformedFile _ path => [("path", .text path)]
  | .notAnObject _ path => [("path", .text path)]
  | .invalidEntry _ _ path issues =>
    [("path", .text path), ("errors", .list (issues.map Issue.toValue))]
  | .invalidComposition issues => [("errors", .list (issues.map Issue.toValue))]
  | .invalidCategoryField name => [("field", .text name)]
  | .unknownCriterion name => [("name", .text name)]
  | .unsupportedControl control => [("type", .text control.display)]
  | .duplicateCriterion name => [("name", .text name)]
  | .duplicateProofType t => [("proof_type", .text t)]
  | .definitionNotFound t path =>
    [("proof_type", .text t), ("path", (path.map Value.text).getD .null)]
  | .invalidToken t => [("token", .text t)]
  | .tokenRecursion t limit => [("token", .text t), ("max_passes", .int limit)]
  | .pendingLookup d => [("data_set", .text d)]
  | .pendingChoices d => [("data_set", .text d)]
  | .invalidDataSet d => [("data_set", .text d)]
  | .pageLimit d limit => [("data_set", .text d), ("max_pages", .int limit)]
  | .unknownProofType t => [("proof_type", t)]
  | .proofTypeMismatch expected received =>
    [("expected", .text expected), ("received", received)]
  | .invalid _ => []
  | .fault _ => []

def text (e : Failure) : String :=
  match e.details with
  | [] => e.message
  | d => e.message ++ " | Details: " ++ (Value.object d).display

def statusCode? (e : Failure) : Option Nat :=
  if e.family? = some .request then some 400 else none

def isConfiguration (e : Failure) : Bool := e.family? == some .configuration

end Failure

end Dossier
