import TestBench.Value.Basic

/-! Complaints about a configuration: what is wrong, where, and with which value. -/
namespace TestBench

/-- What is wrong with one value of a configuration. -/
inductive Complaint
  | missing
  | notList
  | notText
  | notUnicode
  | rejected (text : String)
  | notTruth
  | unclearTruth
  | unknown

namespace Complaint

def kind : Complaint → String
  | .missing => "missing"
  | .notList => "list_type"
  | .notText => "string_type"
  | .notUnicode => "string_unicode"
  | .rejected _ => "value_error"
  | .notTruth => "bool_type"
  | .unclearTruth => "bool_parsing"
  | .unknown => "extra_forbidden"

def message : Complaint → String
  | .missing => "Field required"
  | .notList => "Input should be a valid list"
  | .notText => "Input should be a valid string"
  | .notUnicode =>
    "Input should be a valid string, unable to parse raw data as a unicode string"
  | .rejected text => "Value error, " ++ text
  | .notTruth => "Input should be a valid boolean"
  | .unclearTruth => "Input should be a valid boolean, unable to interpret input"
  | .unknown => "Extra inputs are not permitted"

end Complaint

/-- A complaint about a field, or about one item of its list, with the value complained about. -/
structure Mistake where
  field : String
  index : Option Nat
  complaint : Complaint
  input : Value

end TestBench
