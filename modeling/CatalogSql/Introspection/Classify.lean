import CatalogSql.Catalog.SemanticType
import CatalogSql.Introspection.Definition

/-!
# Classification

The semantic type of an introspected field follows from the shape of its type. A field
whose shape has no meaning is kept as unknown, with a warning.
-/

namespace CatalogSql

/-- Why a field could not be classified. -/
inductive ClassificationProblem where
  | scalarWithoutName
  | unknownScalar (name : String)
  | nothingWrapped
  | unsupportedWrapped (kind : ReferenceKind)
  | unsupported (kind : ReferenceKind)
deriving DecidableEq, Repr

namespace ClassificationProblem

/-- The words for a problem. -/
def message : ClassificationProblem → String
  | .scalarWithoutName => "scalar without a name"
  | .unknownScalar name => "unknown scalar '" ++ name ++ "'"
  | .nothingWrapped => "NON_NULL without a wrapped type"
  | .unsupportedWrapped kind => "unsupported wrapped kind " ++ kind.shown
  | .unsupported kind => "unsupported kind " ++ kind.shown

end ClassificationProblem

/-- A field that could not be classified, and why. -/
structure ClassificationWarning where
  type : String
  field : String
  problem : ClassificationProblem
deriving DecidableEq, Repr

namespace ClassificationWarning

/-- The words for a warning. -/
def message (warning : ClassificationWarning) : String :=
  "cannot classify field '" ++ warning.field ++ "' of type '" ++ warning.type ++ "': " ++
    warning.problem.message

end ClassificationWarning

namespace TypeReference

/-- The semantic type of a scalar. -/
def classifyScalar (reference : TypeReference) : Except ClassificationProblem SemanticType :=
  match reference.name with
  | none => .error .scalarWithoutName
  | some name =>
      match SemanticType.ofScalar? name with
      | some type => .ok type
      | none => .error (.unknownScalar name)

/-- The semantic type of a field of a type. Whether it is required makes no difference,
except in how a problem is told. -/
def classify (reference : TypeReference) : Except ClassificationProblem SemanticType :=
  match reference.kind with
  | .nonNull =>
      match reference.wrapped with
      | none => .error .nothingWrapped
      | some wrapped =>
          match wrapped.kind with
          | .scalar => wrapped.classifyScalar
          | .enumeration => .ok .enumeration
          | .list | .object => .ok .relation
          | kind => .error (.unsupportedWrapped kind)
  | .list | .object => .ok .relation
  | .enumeration => .ok .enumeration
  | .scalar => reference.classifyScalar
  | kind => .error (.unsupported kind)

/-- The semantic type of an input field: of a known scalar, which may be required. -/
def classifyInput? (reference : TypeReference) : Option SemanticType :=
  let scalar? (reference : TypeReference) : Option SemanticType :=
    match reference.kind with
    | .scalar => reference.name.bind SemanticType.ofScalar?
    | _ => none
  match reference.kind with
  | .nonNull => reference.wrapped.bind scalar?
  | _ => scalar? reference

end TypeReference

namespace IntrospectedField

/-- The semantic type of a field of a type. -/
def classify (field : IntrospectedField) (type : String) :
    Except ClassificationWarning SemanticType :=
  field.type.classify.mapError fun problem => ⟨type, field.name, problem⟩

/-- The semantic type of an input field that is kept. -/
def classifyInput? (field : IntrospectedField) : Option SemanticType :=
  field.type.classifyInput?

end IntrospectedField

end CatalogSql
