import BracketScript.CommandSet.Import
import BracketScript.Proofs.Effect

set_option autoImplicit false

/-!
# Calls of methods

A method is code of the host that gets its instance and visits the world. These lemmas say what a call
does in each case, and what the question for a template does, which is such a call.

## Main results

* `BracketScript.Instance.execute_of_missing`, `BracketScript.Instance.execute_of_method` — a call of a
  method that is not there, and of one that is.
* `BracketScript.CommandSet.askTemplate_cases` — an instance that is asked for its template changes by
  the method that it has for that, if it has one, and otherwise loses only its last result.
-/

namespace BracketScript

variable {κ ω : Type} {host : Host κ ω} {i : Instance κ} {w w' : World κ ω}

namespace Instance

variable {name : String} {args : List Value}

lemma execute_of_missing (h : i.methods.find? name = none) :
    (execute host name args i).run w =
      ((.error (.noMethod i.moduleName name), { i with result? := none }), w) := by
  simp only [execute, h]
  rfl

lemma execute_of_method {method : Method κ} {result : Except String Unit} {i' : Instance κ}
    (h : i.methods.find? name = some method)
    (hm : (host.method method.code { i with result? := none, args }).run w = ((result, i'), w')) :
    (execute host name args i).run w =
      ((result.mapError (.methodFailed i'.moduleName name), i'), w') := by
  simp only [execute, h, Visit.map, hm]

end Instance

namespace CommandSet

/-- What is left of an instance that was asked for its template, and of the world. -/
lemma askTemplate_cases (host : Host κ ω) (i : Instance κ) (w : World κ ω) :
    (((askTemplate host i).run w).1.2 = { i with result? := none } ∧
        ((askTemplate host i).run w).2 = w) ∨
      ∃ method i' w' result, i.methods.find? templateMethod = some method ∧
        (host.method method.code { i with result? := none, args := [] }).run w =
          ((result, i'), w') ∧ ((askTemplate host i).run w).2 = w' ∧
        (((askTemplate host i).run w).1.2 = i' ∨
          ((askTemplate host i).run w).1.2 = { i' with result? := none }) := by
  cases hf : i.methods.find? templateMethod with
  | none =>
    left
    simp only [askTemplate, Visit.map, Instance.execute_of_missing hf, and_self]
  | some method =>
    right
    match hm : (host.method method.code { i with result? := none, args := [] }).run w with
    | ((.error reason, i'), w') =>
      have hexec : (i.execute host templateMethod []).run w =
          ((.error (.methodFailed i'.moduleName templateMethod reason), i'), w') :=
        Instance.execute_of_method hf hm
      refine ⟨method, i', w', _, rfl, hm, ?_, .inl ?_⟩ <;>
        simp only [askTemplate, Visit.map, hexec]
    | ((.ok (), i'), w') =>
      have hexec : (i.execute host templateMethod []).run w = ((.ok (), i'), w') :=
        Instance.execute_of_method hf hm
      refine ⟨method, i', w', _, rfl, hm, ?_, .inr ?_⟩ <;>
        simp only [askTemplate, Visit.map, hexec]

end CommandSet

end BracketScript
