import Dossier.Failure

/-!
# Failures by name

A reported failure may be raised by its name with arguments. Its details then hold the arguments as
they were given, which may be no texts.
-/

set_option autoImplicit false

namespace Dossier.Failure

def arity (name : String) : Nat × Nat :=
  if ["ProofSpecError", "ConfigurationError", "TokenError", "DataSourceError", "RequestError",
      "DefinitionNotFoundError"].contains name then (1, 2)
  else if ["TokenRecursionError", "PaginationLimitError",
      "ProofTypeMismatchError"].contains name then (2, 2)
  else (1, 1)

def named? (name : String) (args : List Value) : Option Failure :=
  let first := args.headD .null
  let second := (args.drop 1).headD .null
  let s := first.display
  let details := second.object?.getD []
  match name with
  | "ProofSpecError" => some (.plain .general s details)
  | "ConfigurationError" => some (.plain .configuration s details)
  | "TokenError" => some (.plain .placeholder s details)
  | "DataSourceError" => some (.plain .source s details)
  | "RequestError" => some (.plain .request s details)
  | "UnknownCriterionError" => some (.unknownCriterion s)
  | "UnsupportedFieldTypeError" => some (.unsupportedControl first)
  | "DuplicateCriteriaFieldError" => some (.duplicateCriterion s)
  | "DuplicateProofTypeError" => some (.duplicateProofType s)
  | "DefinitionNotFoundError" => some (.definitionNotFound s second.text?)
  | "InvalidTokenError" => some (.invalidToken s)
  | "TokenRecursionError" => second.int?.map (.tokenRecursion s)
  | "PendingLookupError" => some (.pendingLookup s)
  | "PendingCriteriaDataError" => some (.pendingChoices s)
  | "InvalidDataSetError" => some (.invalidDataSet s)
  | "PaginationLimitError" => second.int?.map (.pageLimit s)
  | "UnknownProofTypeError" => some (.unknownProofType first)
  | "ProofTypeMismatchError" => some (.proofTypeMismatch s second)
  | _ => none

theorem named?_name {name : String} {args : List Value} {e : Failure}
    (h : named? name args = some e) : e.name = name := by
  unfold named? at h
  dsimp only at h
  split at h
  case h_12 | h_16 =>
    obtain ⟨limit, -, rfl⟩ := Option.map_eq_some_iff.mp h
    rfl
  case h_19 => cases h
  all_goals
    cases h
    rfl

def raised? (name : String) (args : List Value) : Option Failure :=
  let (fewest, most) := arity name
  if args.length < fewest || args.length > most then none else named? name args

def detailsRaised (e : Failure) (args : List Value) : Fields :=
  match e with
  | .plain .. => e.details
  | .unsupportedControl _ => e.details
  | e => e.details.mapIdx fun i (key, v) => (key, args.getD i v)

/-- What a failure shows beside its message and details: the status it is answered with, and the
placeholder at fault. -/
def members (e : Failure) (details : Fields) : Fields :=
  (match e.statusCode? with
    | some code => [("status_code", Value.int code)]
    | none => []) ++
  match e with
  | .invalidToken _ => details
  | .tokenRecursion .. => details
  | _ => []

end Dossier.Failure
