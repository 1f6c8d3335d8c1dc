import CiPipeline.Data.Datum

/-!
# Equality — when two data are the same

Unlike keys, which are compared by their values, data are the same only when they are built alike.

* `Datum.equals`: equality, constructor by constructor;
* `Datum.equals_iff`: it is equality, which makes equality decidable.
-/

namespace CiPipeline
namespace Datum

mutual

def equals : Datum → Datum → Bool
  | null, null => true
  | bool a, bool b => a == b
  | int a, int b => a == b
  | number a, number b => a == b
  | text a, text b => a == b
  | list as, list bs => equalsItems as bs
  | record as, record bs => equalsFields as bs
  | tagged s a, tagged t b => s == t && equals a b
  | fault e, fault f => e == f
  | _, _ => false

def equalsItems : List Datum → List Datum → Bool
  | [], [] => true
  | a :: as, b :: bs => equals a b && equalsItems as bs
  | _, _ => false

def equalsFields : List (Datum × Datum) → List (Datum × Datum) → Bool
  | [], [] => true
  | f :: fs, g :: gs => equalsField f g && equalsFields fs gs
  | _, _ => false

def equalsField : Datum × Datum → Datum × Datum → Bool
  | (key, value), other => equals key other.1 && equals value other.2

end

mutual

theorem equals_iff : ∀ a b : Datum, a.equals b = true ↔ a = b
  | null, b => by cases b <;> simp [equals]
  | bool a, b => by cases b <;> simp [equals]
  | int a, b => by cases b <;> simp [equals]
  | number a, b => by cases b <;> simp [equals]
  | text a, b => by cases b <;> simp [equals]
  | list as, b => by cases b <;> simp [equals, equalsItems_iff as]
  | record as, b => by cases b <;> simp [equals, equalsFields_iff as]
  | tagged s a, b => by cases b <;> simp [equals, equals_iff a]
  | fault e, b => by cases b <;> simp [equals]

theorem equalsItems_iff : ∀ as bs : List Datum, equalsItems as bs = true ↔ as = bs
  | [], bs => by cases bs <;> simp [equalsItems]
  | a :: as, bs => by cases bs <;> simp [equalsItems, equals_iff a, equalsItems_iff as]

theorem equalsFields_iff :
    ∀ fs gs : List (Datum × Datum), equalsFields fs gs = true ↔ fs = gs
  | [], gs => by cases gs <;> simp [equalsFields]
  | f :: fs, gs => by
      cases gs <;> simp [equalsFields, equalsField_iff f, equalsFields_iff fs]

theorem equalsField_iff : ∀ f g : Datum × Datum, equalsField f g = true ↔ f = g
  | (key, value), g => by
      simp [equalsField, equals_iff key, equals_iff value, Prod.ext_iff]

end

instance : DecidableEq Datum := fun a b => decidable_of_iff _ (equals_iff a b)

end Datum
end CiPipeline
