import OrbitalMesh.Base.Json

/-!
# The places of a JSON value

A value is reached from another by going into items of arrays and members of
objects.  The way to it is told by the keys on it: an item of an array has no
key of its own.
-/

namespace Json

def isScalar : Json → Bool
  | .arr _ | .obj _ => false
  | _ => true

/-- What holds of scalars, and of an array or an object as soon as it holds of
what is inside, holds of every value. -/
theorem induct {P : Json → Prop} (scalar : ∀ v : Json, v.isScalar = true → P v)
    (arr : ∀ xs, (∀ x ∈ xs, P x) → P (.arr xs))
    (obj : ∀ members, (∀ member ∈ members, P member.2) → P (.obj members)) (v : Json) : P v := by
  cases v with
  | arr xs => exact arr xs fun x _ => induct scalar arr obj x
  | obj members => exact obj members fun member _ => induct scalar arr obj member.2
  | _ => exact scalar _ rfl
termination_by sizeOf v
decreasing_by
  · have := List.sizeOf_lt_of_mem ‹x ∈ xs›
    simp only [Json.arr.sizeOf_spec]
    omega
  · have := List.sizeOf_lt_of_mem ‹_ ∈ members›
    obtain ⟨key, x⟩ := member
    simp only [Json.obj.sizeOf_spec, Prod.mk.sizeOf_spec] at *
    omega

/-- The value `y` stands in `v`, below the keys of `path`. -/
inductive At : Json → List String → Json → Prop
  | here (v : Json) : At v [] v
  | item {xs : List Json} {x y : Json} {path : List String} (hx : x ∈ xs)
      (h : At x path y) : At (.arr xs) path y
  | member {members : List (String × Json)} {key : String} {x y : Json} {path : List String}
      (hx : (key, x) ∈ members) (h : At x path y) : At (.obj members) (key :: path) y

section

variable {v y : Json} {path : List String}

theorem at_scalar_iff (hv : v.isScalar = true) : At v path y ↔ path = [] ∧ y = v := by
  constructor
  · intro h
    cases h with
    | here => exact ⟨rfl, rfl⟩
    | item | member => cases hv
  · rintro ⟨rfl, rfl⟩
    exact .here y

theorem at_arr_iff {xs : List Json} (hy : y.isScalar = true) :
    At (.arr xs) path y ↔ ∃ x ∈ xs, At x path y := by
  constructor
  · intro h
    cases h with
    | here => cases hy
    | item hx h => exact ⟨_, hx, h⟩
  · rintro ⟨x, hx, h⟩
    exact .item hx h

theorem at_obj_iff {members : List (String × Json)} (hy : y.isScalar = true) :
    At (.obj members) path y ↔
      ∃ member ∈ members, ∃ rest, path = member.1 :: rest ∧ At member.2 rest y := by
  constructor
  · intro h
    cases h with
    | here => cases hy
    | member hx h => exact ⟨_, hx, _, rfl, h⟩
  · rintro ⟨⟨key, x⟩, hx, rest, rfl, h⟩
    exact .member hx h

end

end Json
