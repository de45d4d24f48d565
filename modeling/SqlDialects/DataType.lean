/-!
# Data types

A type as a cast names it: a canonical name in uppercase and parameters, which
are numbers, texts or types again.  What a dialect calls a type is not recorded
here; each dialect has its own spelling of the canonical names.
-/

namespace SqlDialects

/-- A parameter of a type, with `τ` in the place of types. -/
inductive TypeParam (τ : Type) where
  | number (digits : String)
  | text (value : String)
  | type (t : τ)
  deriving DecidableEq, Repr

/-- A type. -/
inductive DataType where
  | mk (name : String) (params : List (TypeParam DataType))
  deriving Repr

namespace DataType

/-- The name of a type. -/
def name : DataType → String
  | .mk name _ => name

/-- The parameters of a type. -/
def params : DataType → List (TypeParam DataType)
  | .mk _ params => params

mutual

/-- Whether two types are written alike. -/
def same : DataType → DataType → Bool
  | .mk name params, .mk name' params' => name == name' && sameParams params params'

/-- Whether two lists of parameters are written alike. -/
def sameParams : List (TypeParam DataType) → List (TypeParam DataType) → Bool
  | [], [] => true
  | p :: ps, q :: qs => sameParam p q && sameParams ps qs
  | _, _ => false

/-- Whether two parameters are written alike. -/
def sameParam : TypeParam DataType → TypeParam DataType → Bool
  | .number m, .number n => m == n
  | .text s, .text t => s == t
  | .type t, .type u => same t u
  | _, _ => false

end

mutual

theorem same_iff : ∀ t u : DataType, same t u = true ↔ t = u
  | .mk name params, .mk name' params' => by
    simp [same, sameParams_iff params params']

theorem sameParams_iff : ∀ ps qs : List (TypeParam DataType), sameParams ps qs = true ↔ ps = qs
  | [], [] => by simp [sameParams]
  | [], _ :: _ => by simp [sameParams]
  | _ :: _, [] => by simp [sameParams]
  | p :: ps, q :: qs => by simp [sameParams, sameParam_iff p q, sameParams_iff ps qs]

theorem sameParam_iff : ∀ p q : TypeParam DataType, sameParam p q = true ↔ p = q
  | .number m, .number n => by simp [sameParam]
  | .text s, .text t => by simp [sameParam]
  | .type t, .type u => by simp [sameParam, same_iff t u]
  | .number _, .text _ => by simp [sameParam]
  | .number _, .type _ => by simp [sameParam]
  | .text _, .number _ => by simp [sameParam]
  | .text _, .type _ => by simp [sameParam]
  | .type _, .number _ => by simp [sameParam]
  | .type _, .text _ => by simp [sameParam]

end

instance : DecidableEq DataType := fun t u => decidable_of_iff _ (same_iff t u)

end DataType

end SqlDialects
